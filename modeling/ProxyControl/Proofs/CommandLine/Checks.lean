import ProxyControl.Proofs.CommandLine.Reports
import ProxyControl.Proofs.Policy.Update

namespace ProxyControl

/-- What a log command looks at before its span: there is an instance, and the number of lines is not negative. -/
structure LogFlags.Ready (flags : LogFlags) : Prop where
  named : Text.present flags.target ≠ none
  natural : ∀ n ∈ flags.lines, 0 ≤ n

/-- What a log command has to ask for. -/
structure LogFlags.Accepted (flags : LogFlags) : Prop where
  named : Text.present flags.target ≠ none
  natural : ∀ n ∈ flags.lines, 0 ≤ n
  since : ∀ t ∈ Text.present flags.since, ∃ duration, Duration.parse t = .ok duration

section

variable {flags : LogFlags} {since : Text} {failure : Failure}

theorem LogFlags.args_of_not_ready (unready : ¬ flags.Ready) :
    flags.args = .error (.refused .instanceMissing) ∨ flags.args = .error (.refused .linesNegative) := by
  unfold LogFlags.args
  cases named : Text.present flags.target with
  | none => exact .inl rfl
  | some target =>
    dsimp only
    have negative : flags.lines.any (· < 0) = true := by
      refine Classical.byContradiction fun natural => unready ⟨by rw [named]; exact Option.some_ne_none target, ?_⟩
      intro n given
      rw [given] at natural
      simpa using natural
    rw [if_pos negative]
    exact .inr rfl

/-- A span that cannot be read fails a log command that is ready. -/
theorem LogFlags.args_of_unread (ready : flags.Ready) (given : Text.present flags.since = some since)
    (unread : Duration.parse since = .error failure) : flags.args = .error failure := by
  obtain ⟨target, named⟩ := Option.ne_none_iff_exists'.mp ready.named
  have natural : ¬ flags.lines.any (· < 0) = true := by
    intro negative
    obtain ⟨n, lines, below⟩ := (Option.any_eq_true _ _).mp negative
    have above := ready.natural n lines
    rw [decide_eq_true_eq] at below
    omega
  unfold LogFlags.args
  rw [named]
  dsimp only
  rw [if_neg natural, given, Option.mapM_some, unread]
  rfl

theorem LogFlags.accepted_of_args {args : LogArgs} (described : flags.args = .ok args) : flags.Accepted := by
  have ready : flags.Ready := by
    refine Classical.byContradiction fun unready => ?_
    rcases args_of_not_ready unready with unnamed | negative
    · rw [described] at unnamed
      cases unnamed
    · rw [described] at negative
      cases negative
  refine ⟨ready.named, ready.natural, fun t given => ?_⟩
  cases parsed : Duration.parse t with
  | ok duration => exact ⟨duration, rfl⟩
  | error failure =>
    have fails := args_of_unread ready given parsed
    rw [described] at fails
    cases fails

end

theorem Text.getD_of_absent {t : Option Text} (absent : Text.present t = none) : t.getD [] = [] := by
  cases t with
  | none => rfl
  | some t =>
    cases t with
    | nil => rfl
    | cons p t => cases absent

/-- A target that can be used for a service: the API has an address of its own, or there is a proxy, with a token, and
the service is known. -/
structure Target.Usable (target : Target) (service : Option Text) : Prop where
  known : Text.present target.rpaasUrl ≠ none ∨
    Text.present target.tsuruTarget ≠ none ∧ Text.present target.tsuruToken ≠ none
  served : Text.present target.rpaasUrl ≠ none ∨ Text.present service ≠ none

theorem Target.usable_of_client {target : Target} {service : Option Text} {options : ClientOptions} {client : Client}
    (found : target.client service options = .ok client) : target.Usable service := by
  unfold Target.client at found
  split at found
  · rename_i url direct
    exact ⟨.inl (by rw [direct]; exact Option.some_ne_none url), .inl (by rw [direct]; exact Option.some_ne_none url)⟩
  · rename_i proxy token _ proxied authorized
    have known : Text.present target.tsuruTarget ≠ none ∧ Text.present target.tsuruToken ≠ none :=
      ⟨by rw [proxied]; exact Option.some_ne_none proxy, by rw [authorized]; exact Option.some_ne_none token⟩
    refine ⟨.inr known, .inr fun missing => ?_⟩
    unfold Client.proxied at found
    rw [Text.getD_of_absent missing] at found
    cases found
  · cases found

namespace CommandLine

/-- The service and the instance of a command. -/
def Command.subject? : Command → Option (Option Text × Option Text)
  | version => none
  | showPolicy service target _ | updatePolicy service target _ | removePolicy service target => some (service, target)
  | showLog service flags => some (service, flags.target)

/-- What keeps a command from being carried out. -/
inductive Command.Deficient (target : Target) : Command → Prop
  | minimumNegative {service name : Option Text} {flags : UpdateFlags} (negative : flags.minimum < 0) :
      Deficient target (.updatePolicy service name flags)
  | maximumNotAbove {service name : Option Text} {flags : UpdateFlags} (low : flags.maximum ≤ flags.minimum) :
      Deficient target (.updatePolicy service name flags)
  | triggerNotPositive {service name : Option Text} {flags : UpdateFlags} {n : Int}
      (given : flags.cpu = some n ∨ flags.memory = some n ∨ flags.rps = some n) (low : n ≤ 0) :
      Deficient target (.updatePolicy service name flags)
  | scheduleRefused {service name : Option Text} {flags : UpdateFlags} {fragment : Text} {failure : Failure}
      (given : fragment ∈ flags.schedules) (refused : ScheduledWindow.parse fragment = .error failure) :
      Deficient target (.updatePolicy service name flags)
  | sinceRefused {service : Option Text} {flags : LogFlags} {since : Text} {failure : Failure}
      (given : Text.present flags.since = some since) (refused : Duration.parse since = .error failure) :
      Deficient target (.showLog service flags)
  | linesNegative {service : Option Text} {flags : LogFlags} {n : Int} (given : flags.lines = some n)
      (negative : n < 0) : Deficient target (.showLog service flags)
  | instanceMissing {command : Command} {service name : Option Text} (subject : command.subject? = some (service, name))
      (missing : Text.present name = none) : Deficient target command
  | noTarget {command : Command} {service name : Option Text} (subject : command.subject? = some (service, name))
      (addressless : Text.present target.rpaasUrl = none)
      (proxyless : Text.present target.tsuruTarget = none ∨ Text.present target.tsuruToken = none) :
      Deficient target command
  | serviceMissing {command : Command} {service name : Option Text} (subject : command.subject? = some (service, name))
      (addressless : Text.present target.rpaasUrl = none) (missing : Text.present service = none) :
      Deficient target command

open Session

/-- What a command with a request has: an instance, a target, and flags that are accepted. -/
structure Command.Sound (target : Target) (command : Command) (service name : Option Text) : Prop where
  subject : command.subject? = some (service, name)
  named : Text.present name ≠ none
  usable : target.Usable service
  update : ∀ {service name flags}, command = .updatePolicy service name flags → flags.Accepted
  log : ∀ {service flags}, command = .showLog service flags → flags.Accepted

theorem present_ne_none {t : Option Text} (nonempty : t.getD [] ≠ []) : Text.present t ≠ none :=
  fun absent => nonempty (Text.getD_of_absent absent)

section

variable {command : Command} {context : Context} {e : Exchange} {request : Http.Request} {t : Session}

/-- Only a command that has it all gets as far as its request. -/
theorem sound_of_built (asks : command.exchange? context = some e)
    (built : Session.run {} e.building = (.ok request, t)) :
    ∃ service name, command.Sound context.target service name := by
  -- The commands check in different orders, but each of them builds its request last.
  cases command with
  | version => cases asks
  | showPolicy service name asJson =>
    cases asks
    obtain ⟨client, _, found, built⟩ := run_bind_eq_ok.mp built
    have usable := Target.usable_of_client (run_ofOutcome_eq_ok.mp found).1
    have named := present_ne_none (Client.request_eq_ok built).1
    exact ⟨service, name, rfl, named, usable, nofun, nofun⟩
  | updatePolicy service name flags =>
    cases asks
    obtain ⟨policy, _, described, built⟩ := run_bind_eq_ok.mp built
    obtain ⟨_, _, _, built⟩ := run_bind_eq_ok.mp built
    obtain ⟨client, _, found, built⟩ := run_bind_eq_ok.mp built
    have accepted := UpdateFlags.accepted_of_policy (run_ofOutcome_eq_ok.mp described).1
    have usable := Target.usable_of_client (run_ofOutcome_eq_ok.mp found).1
    have named := present_ne_none (Client.request_eq_ok built).1
    refine ⟨service, name, rfl, named, usable, fun same => ?_, nofun⟩
    cases same
    exact accepted
  | removePolicy service name =>
    cases asks
    obtain ⟨client, _, found, built⟩ := run_bind_eq_ok.mp built
    have usable := Target.usable_of_client (run_ofOutcome_eq_ok.mp found).1
    have named := present_ne_none (Client.request_eq_ok built).1
    exact ⟨service, name, rfl, named, usable, nofun, nofun⟩
  | showLog service flags =>
    cases asks
    obtain ⟨args, _, described, built⟩ := run_bind_eq_ok.mp built
    obtain ⟨client, _, found, _⟩ := run_bind_eq_ok.mp built
    have accepted := LogFlags.accepted_of_args (run_ofOutcome_eq_ok.mp described).1
    have usable := Target.usable_of_client (run_ofOutcome_eq_ok.mp found).1
    refine ⟨service, flags.target, rfl, accepted.named, usable, nofun, fun same => ?_⟩
    cases same
    exact accepted

theorem Command.Sound.not_deficient {target : Target} {service name : Option Text}
    (sound : command.Sound target service name) : ¬ command.Deficient target := by
  intro deficient
  cases deficient with
  | minimumNegative negative => exact absurd (sound.update rfl).natural (Int.not_le.mpr negative)
  | maximumNotAbove low => exact absurd (sound.update rfl).above (Int.not_lt.mpr low)
  | triggerNotPositive given low => exact absurd ((sound.update rfl).positive _ given) (Int.not_lt.mpr low)
  | scheduleRefused given refused =>
    obtain ⟨window, parsed⟩ := (sound.update rfl).windows _ given
    rw [parsed] at refused
    cases refused
  | sinceRefused given refused =>
    obtain ⟨duration, parsed⟩ := (sound.log rfl).since _ given
    rw [parsed] at refused
    cases refused
  | linesNegative given negative => exact absurd ((sound.log rfl).natural _ given) (Int.not_le.mpr negative)
  | instanceMissing subject missing =>
    obtain ⟨rfl, rfl⟩ := Prod.mk.inj (Option.some.inj (subject.symm.trans sound.subject))
    exact sound.named missing
  | noTarget subject addressless proxyless =>
    rcases sound.usable.known with direct | ⟨proxied, authorized⟩
    · exact direct addressless
    · exact proxyless.elim proxied authorized
  | serviceMissing subject addressless missing =>
    obtain ⟨rfl, rfl⟩ := Prod.mk.inj (Option.some.inj (subject.symm.trans sound.subject))
    rcases sound.usable.served with direct | served
    · exact direct addressless
    · exact served missing

/-- A deficient command has an exchange, and its request cannot be built. -/
theorem Command.Deficient.unbuilt (deficient : command.Deficient context.target) :
    ∃ e failure t, command.exchange? context = some e ∧ Session.run {} e.building = (.error failure, t) := by
  have asks : ∃ e, command.exchange? context = some e := by
    cases command with
    | version =>
      cases deficient with
      | instanceMissing subject _ => cases subject
      | noTarget subject _ _ => cases subject
      | serviceMissing subject _ _ => cases subject
    | _ => exact ⟨_, rfl⟩
  obtain ⟨e, asks⟩ := asks
  rcases built : Session.run {} e.building with ⟨failure | request, t⟩
  · exact ⟨e, failure, t, asks, built⟩
  · obtain ⟨_, _, sound⟩ := sound_of_built asks built
    exact absurd deficient sound.not_deficient

end

section

variable {surroundings : Surroundings} {words : List Text}

theorem requests_of_stop (reason : Stop) (result : Result) : (result.stop reason).requests = result.requests := by
  cases reason with
  | help page => rfl
  | misuse error => rfl

/-- An invocation that does not get as far as its command sends nothing. -/
theorem requests_of_unreached (unreached : reached? surroundings words = none) :
    (run surroundings words).requests = [] := by
  unfold run
  dsimp only
  cases read : Invocation.ofWords words with
  | error reason => exact requests_of_stop reason _
  | ok invocation =>
    dsimp only
    cases prepared : invocation.prepare surroundings.environment surroundings.files with
    | error failure => rfl
    | ok found =>
      obtain ⟨config, logging, files⟩ := found
      cases meant : Command.ofInvocation invocation with
      | ok command =>
        rw [reached?_of_ok read meant prepared] at unreached
        cases unreached
      | error reason =>
        dsimp only
        unfold Invocation.carryOut
        dsimp only
        rw [meant]
        exact requests_of_stop reason _

/-- An invocation that sends something has built a request, sends that one alone, and ends as its exchange does. -/
theorem built_of_sent (sent : (run surroundings words).requests ≠ []) :
    ∃ command context e request s, reached? surroundings words = some (command, context) ∧
      Command.exchange? context command = some e ∧ Session.run {} e.building = (.ok request, s) ∧
      (run surroundings words).requests = [request] ∧
      (run surroundings words).ending = .ofOutcome (Session.run s (e.conduct surroundings.answer request)).1 := by
  cases reached : reached? surroundings words with
  | none => exact absurd (requests_of_unreached reached) sent
  | some found =>
    obtain ⟨command, context⟩ := found
    obtain ⟨invocation, logging, files, meant, ran⟩ := run_of_reached reached
    rw [ran] at sent ⊢
    obtain ⟨ending, _, requests⟩ := carryOut_eq_perform meant
    rw [ending, requests]
    rw [requests] at sent
    cases asks : command.exchange? context with
    | none =>
      cases command with
      | version => exact absurd rfl sent
      | _ => cases asks
    | some e =>
      rcases built : Session.run {} e.building with ⟨failure | request, s⟩
      · rw [Command.run_perform asks, built] at sent
        exact absurd (e.quiet.unchanged built).1 sent
      · obtain ⟨performed, alone, _⟩ := Command.run_perform_of_built asks built surroundings.answer
        rw [performed]
        exact ⟨command, context, e, request, s, rfl, asks, built, alone, rfl⟩

/-- Whether an invocation ends with a usage error, or with a failure that is stated before any exchange. -/
def Ending.IsRefusal (ending : Ending) : Prop :=
  (∃ error, ending = .misused error) ∨ (∃ refusal, ending = .failed (.refused refusal)) ∨
    ∃ problem, ending = .failed (.misconfigured problem)

theorem not_isRefusal_of_conduct {e : Exchange} {request : Http.Request} {s : Session}
    (foreign : ∀ failure ∈ Http.failuresOf surroundings.answer, failure.isRefusal = false) :
    ¬ (Ending.ofOutcome (Session.run s (e.conduct surroundings.answer request)).1).IsRefusal := by
  have unrefused := e.unrefused_conduct foreign request s
  rcases ends : Session.run s (e.conduct surroundings.answer request) with ⟨failure | _, t⟩
  · replace unrefused := unrefused failure t ends
    rintro (⟨_, same⟩ | ⟨_, same⟩ | ⟨_, same⟩)
    · cases same
    · cases same
      cases unrefused
    · cases same
      cases unrefused
  · rintro (⟨_, same⟩ | ⟨_, same⟩ | ⟨_, same⟩)
    · cases same
    · cases same
    · cases same

/-- The target of an invocation: its flags win over the environment. -/
def targetOf (surroundings : Surroundings) (invocation : Invocation) : Target :=
  invocation.target.over (surroundings.environment.settings.target.over {})

theorem run_of_deficient {invocation : Invocation} {command : Command}
    (read : Invocation.ofWords words = .ok invocation) (meant : Command.ofInvocation invocation = .ok command)
    (deficient : command.Deficient (targetOf surroundings invocation)) :
    (run surroundings words).requests = [] ∧ (run surroundings words).ending.status = 1 := by
  cases prepared : invocation.prepare surroundings.environment surroundings.files with
  | error failure =>
    unfold run
    dsimp only
    rw [read]
    dsimp only
    rw [prepared]
    exact ⟨rfl, rfl⟩
  | ok found =>
    obtain ⟨config, logging, files⟩ := found
    have reached := reached?_of_ok read meant prepared
    generalize settled : ({} : Context).configure surroundings.environment.settings (some config) invocation.target =
      context at reached
    have known : context.target = targetOf surroundings invocation := by
      rw [← settled]
      rfl
    rw [← known] at deficient
    obtain ⟨e, failure, t, asks, unbuilt⟩ := deficient.unbuilt
    obtain ⟨ending, _, unsent, _⟩ := run_of_unbuilt reached asks unbuilt
    rw [ending]
    exact ⟨unsent, rfl⟩

/-- An invocation sends at most one request, and none if it ends with a usage error or a failure that is stated before
any exchange. A deficient command sends none, and fails. -/
theorem run_sends_checked (surroundings : Surroundings) (words : List Text) :
    (run surroundings words).requests.length ≤ 1 ∧
      ((∀ failure ∈ Http.failuresOf surroundings.answer, failure.isRefusal = false) →
        (run surroundings words).ending.IsRefusal → (run surroundings words).requests = []) ∧
      ∀ invocation command, Invocation.ofWords words = .ok invocation → Command.ofInvocation invocation = .ok command →
        command.Deficient (targetOf surroundings invocation) →
        (run surroundings words).requests = [] ∧ (run surroundings words).ending.status = 1 := by
  refine ⟨?_, fun foreign refused => ?_, fun _ _ => run_of_deficient⟩
  · by_cases sent : (run surroundings words).requests = []
    · rw [sent]
      exact Nat.zero_le 1
    · obtain ⟨_, _, _, _, _, _, _, _, alone, _⟩ := built_of_sent sent
      rw [alone]
      exact Nat.le_refl 1
  · -- Otherwise a request was built, and nothing that happens after that is a refusal.
    refine Classical.byContradiction fun sent => ?_
    obtain ⟨_, _, _, _, _, _, _, _, _, ending⟩ := built_of_sent sent
    rw [ending] at refused
    exact not_isRefusal_of_conduct foreign refused

end

/-- An update whose bounds leave no room. -/
def narrowUpdate : List Text :=
  ["--rpaas-url", "http://rpaas.test", "autoscale", "update", "-i", "my-instance", "--min", "2", "--max", "2"]

theorem narrowUpdate_unsent : (run (answering 204) narrowUpdate).ending.IsRefusal ∧
    (run (answering 204) narrowUpdate).requests = [] ∧ (run (answering 204) narrowUpdate).ending.status = 1 := by
  obtain ⟨_, unsent, checked⟩ := run_sends_checked (answering 204) narrowUpdate
  have bounds : (Invocation.ofWords narrowUpdate).toOption.bind (fun invocation =>
      (Command.ofInvocation invocation).toOption.map fun command =>
        match command with
        | .updatePolicy _ _ flags => some (flags.minimum, flags.maximum)
        | _ => none) = some (some (2, 2)) := by decide +kernel
  obtain ⟨invocation, read, bounds⟩ := Option.bind_eq_some_iff.mp bounds
  obtain ⟨command, meant, bounds⟩ := Option.map_eq_some_iff.mp bounds
  have deficient : command.Deficient (targetOf (answering 204) invocation) := by
    split at bounds
    · obtain ⟨minimum, maximum⟩ := Prod.mk.inj (Option.some.inj bounds)
      exact .maximumNotAbove (Int.le_of_eq (maximum.trans minimum.symm))
    · cases bounds
  have refused : (run (answering 204) narrowUpdate).ending.IsRefusal := by
    have stated : (match (run (answering 204) narrowUpdate).ending with
        | .failed (.refused _) => true
        | _ => false) = true := by decide +kernel
    split at stated
    · rename_i refusal ending
      exact .inr (.inl ⟨refusal, ending⟩)
    · cases stated
  have failed := checked invocation command (toOption_eq_some.mp read) (toOption_eq_some.mp meant) deficient
  exact ⟨refused, unsent nofun refused, failed.2⟩

end CommandLine

end ProxyControl
