import ProxyControl.Proofs.CommandLine.Reports

namespace ProxyControl.CommandLine

variable {surroundings : Surroundings} {words : List Text} {context : Context} {request : Http.Request} {s : Session}
  {failure : Failure}

theorem accepted_of_success {reply : Http.Reply} {body : Utf8.Bytes} (scheme : request.url.scheme ≠ [])
    (low : 200 ≤ reply.status) (high : reply.status ≤ 299) (whole : reply.body = .ok body) :
    Client.Accepted request reply false := by
  refine ⟨scheme, ?_, fun _ => ⟨body, whole⟩, ?_⟩
  · exact Client.checkLocation_of_not_redirection (Client.not_isRedirection (.inl (by omega)))
  · rw [Http.Reply.isError, decide_eq_false (by omega), Bool.false_and]

theorem policyOf_of_whole {reply : Http.Reply} {body : Utf8.Bytes} (whole : reply.body = .ok body) :
    policyOf reply = (documentOf body >>= Autoscale.validate) := by
  rw [policyOf, whole]
  rfl

section

variable {service target : Option Text} {asJson : Bool} {reply : Http.Reply} {body : Utf8.Bytes}

/-- The operation of showing a policy. -/
def fetching : Text := "could not get autoscale from RPaaS API"

/-- A result that shows a policy. -/
structure Result.Shows (result : Result) (request : Http.Request) (shown : Text) : Prop where
  ending : result.ending = .completed
  output : result.output = shown
  requests : result.requests = [request]

/-- The ways in which showing a policy may end: the policy is shown, or the error line tells why it is not. -/
def Result.Handled (result : Result) (request : Http.Request) (reply : Http.Reply) (asJson : Bool) : Prop :=
  (∃ policy, policyOf reply = .ok policy ∧ result.Shows request (policy.render asJson)) ∨
    ∃ told, result.Reports request fetching told

theorem not_handled_of_fault {kind : Fault} {message : Text}
    (ends : (run surroundings words).ending = .failed (.fault kind message)) :
    ¬ (run surroundings words).Handled request reply asJson := by
  rintro (⟨_, _, shows⟩ | ⟨_, reports⟩)
  · have completed := shows.ending
    rw [ends] at completed
    cases completed
  · exact reports.not_fault kind message ends

variable (built : Session.run {} (Command.showPolicyExchange context service target asJson).building = (.ok request, s))
  (answered : surroundings.answer = .ok reply) (accepted : Client.Accepted request reply false)

include built answered accepted

/-- Receiving an accepted reply writes nothing. -/
theorem run_fetching : ∃ t, t.written = s.written ∧ t.written = [] ∧ Session.run s (Client.send request
    surroundings.answer false >>= fun reply => Session.ofOutcome (policyOf reply)) = (policyOf reply, t) := by
  have received := Client.run_send (s := s) accepted
  have unwritten := (Client.sent_by_send s request (.ok reply) false).2
  rcases sent : Session.run s (Client.send request (.ok reply) false) with ⟨outcome, t⟩
  rw [sent] at received unwritten
  cases received
  have empty := ((Command.showPolicyExchange context service target asJson).quiet.unchanged built).2
  refine ⟨t, unwritten, unwritten.trans empty, ?_⟩
  rw [answered, Session.run_bind_ok sent, Session.run_ofOutcome]

variable (reached : reached? surroundings words = some (.showPolicy service target asJson, context))

include reached

theorem shows_of_policyOf {policy : Autoscale} (found : policyOf reply = .ok policy)
    (unicode : (policy.render asJson).IsUnicode) : (run surroundings words).Shows request (policy.render asJson) := by
  obtain ⟨t, _, unwritten, fetched⟩ := run_fetching built answered accepted
  rw [found] at fetched
  obtain ⟨records, shown⟩ := run_showing_of_unicode (printable_of_policyOf found) unicode t
  obtain ⟨ending, output, requests⟩ := run_of_finishing reached rfl built fetched shown
  refine ⟨ending, output.trans ?_, requests⟩
  dsimp only
  rw [unwritten, List.nil_append]

/-- A policy that has no encoding as it is shown is lost in a fault. -/
theorem run_of_bare_policyOf {policy : Autoscale} (found : policyOf reply = .ok policy)
    (bare : ¬ (policy.render asJson).IsUnicode) :
    ∃ message, (run surroundings words).ending = .failed (.fault .encoding message) := by
  obtain ⟨t, _, _, fetched⟩ := run_fetching built answered accepted
  rw [found] at fetched
  obtain ⟨records, message, fails⟩ := run_showing_of_bare (printable_of_policyOf found) bare t
  exact ⟨message, run_of_unfinished reached rfl built fetched fails⟩

/-- A reply that describes no policy is told about, unless that is because it is no document. -/
theorem run_of_not_policyOf (missing : policyOf reply = .error failure) :
    (∀ report, failure = .invalidData report → ∃ told, (run surroundings words).Reports request fetching told) ∧
      (∀ kind message, failure = .fault kind message → (run surroundings words).ending = .failed failure) := by
  obtain ⟨t, unwritten, _, fetched⟩ := run_fetching built answered accepted
  rw [missing] at fetched
  obtain ⟨reports, unhandled⟩ := run_of_failing reached rfl built fetched unwritten
  constructor
  · rintro report rfl
    obtain ⟨told, line⟩ := errorLine_lead (by decide : Terminal.Printable fetching)
    exact ⟨told, reports rfl told line⟩
  · rintro kind message rfl
    exact unhandled rfl

end

/-- A success status to the command that shows a policy leads to the policy that the body describes, or to an error
line, exactly if the body is a JSON document, and the table of the policy, if there is to be one, has an encoding.
Otherwise the failure is not handled. -/
theorem showPolicy_handled_iff {service target : Option Text} {asJson : Bool} {reply : Http.Reply} {body : Utf8.Bytes}
    (reached : reached? surroundings words = some (.showPolicy service target asJson, context))
    (built : Session.run {} (Command.showPolicyExchange context service target asJson).building = (.ok request, s))
    (answered : surroundings.answer = .ok reply) (low : 200 ≤ reply.status) (high : reply.status ≤ 299)
    (whole : reply.body = .ok body) :
    (run surroundings words).Handled request reply asJson ↔
      request.url.scheme ≠ [] ∧ ∃ document, documentOf body = .ok document ∧
        ∀ policy, Autoscale.validate document = .ok policy → asJson = false → policy.renderTable.IsUnicode := by
  by_cases scheme : request.url.scheme = []
  · obtain ⟨message, ends⟩ := run_of_schemeless reached rfl built answered scheme
    exact ⟨fun handled => absurd handled (not_handled_of_fault ends), fun sound => absurd scheme sound.1⟩
  have accepted := accepted_of_success scheme low high whole
  have described := policyOf_of_whole whole
  cases read : documentOf body with
  | error failure =>
    rw [read] at described
    -- Reading a document fails in faults only, and those are not meant.
    obtain ⟨kind, message, rfl⟩ := fault_of_documentOf read
    have ends := (run_of_not_policyOf built answered accepted reached described).2 kind message rfl
    refine ⟨fun handled => absurd handled (not_handled_of_fault ends), ?_⟩
    rintro ⟨_, document, impossible, _⟩
    cases impossible
  | ok document =>
    rw [read] at described
    cases valid : Autoscale.validate document with
    | ok policy =>
      have found : policyOf reply = .ok policy := described.trans valid
      constructor
      · intro handled
        refine ⟨scheme, document, rfl, fun other same => ?_⟩
        cases same.symm.trans valid
        refine Autoscale.isUnicode_render_iff.mp (Classical.byContradiction fun bare => ?_)
        obtain ⟨message, ends⟩ := run_of_bare_policyOf built answered accepted reached found bare
        exact not_handled_of_fault ends handled
      · rintro ⟨_, other, same, shown⟩
        cases same
        have unicode := Autoscale.isUnicode_render_iff.mpr (shown policy valid)
        exact .inl ⟨policy, found, shows_of_policyOf built answered accepted reached found unicode⟩
    | error failure =>
      refine ⟨fun _ => ⟨scheme, document, rfl, fun policy other => nomatch other.symm.trans valid⟩, fun _ => ?_⟩
      obtain ⟨report, rfl⟩ := invalidData_of_validate valid
      exact .inr ((run_of_not_policyOf built answered accepted reached (described.trans valid)).1 report rfl)

/-- The command line that shows a policy for people. -/
def inspection : List Text := ["--rpaas-url", "http://rpaas.test", "autoscale", "info", "-i", "my-instance"]

def smallPolicy : Utf8.Bytes := Utf8.encodeLoosely "\x7b\"minReplicas\": 1, \"maxReplicas\": 3, \"cpu\": null\x7d"

theorem inspection_handled : ∃ request reply, (telling 200 smallPolicy).answer = .ok reply ∧
    (run (telling 200 smallPolicy) inspection).Handled request reply false := by
  have reached : ∃ context, reached? (telling 200 smallPolicy) inspection =
      some (.showPolicy none (some "my-instance") false, context) := ⟨_, rfl⟩
  obtain ⟨context, reached⟩ := reached
  have asked : (reached? (telling 200 smallPolicy) inspection).bind (fun found =>
      (Session.run {} (Command.showPolicyExchange found.2 none (some "my-instance") false).building).1.toOption.map
        fun request => request.url.scheme) = some ("http" : Text) := by decide +kernel
  rw [reached, Option.bind_some] at asked
  obtain ⟨request, built, scheme⟩ := Option.map_eq_some_iff.mp asked
  rw [toOption_eq_some] at built
  have shown : (documentOf smallPolicy).toOption.map (fun document =>
      (Autoscale.validate document).toOption.all fun policy => decide policy.renderTable.IsUnicode) = some true := by
    decide +kernel
  obtain ⟨document, read, shown⟩ := Option.map_eq_some_iff.mp shown
  have whole : Http.Reply.bodyOf [.bytes smallPolicy] = .ok smallPolicy := rfl
  have handled := showPolicy_handled_iff reached (Prod.ext built rfl) rfl (by decide) (by decide) whole
  refine ⟨request, _, rfl, handled.mpr ⟨?_, document, toOption_eq_some.mp read, fun policy valid _ => ?_⟩⟩
  · rw [scheme]
    decide
  · rw [valid] at shown
    exact of_decide_eq_true shown

/-- A policy in a time zone whose name has no encoding, which JSON can write nevertheless. -/
def bareZonePolicy : Utf8.Bytes := Utf8.encodeLoosely
  "\x7b\"minReplicas\": 1, \"maxReplicas\": 3, \"schedules\": [\x7b\"minReplicas\": 1, \"start\": \"0 9 * * *\", \"end\": \"0 18 * * *\", \"timezone\": \"\\ud800\"\x7d]\x7d"

example : (run (telling 200 bareZonePolicy) inspection).ending.status = 1 ∧
    (run (telling 200 bareZonePolicy) inspection).output = [] ∧
    (documentOf bareZonePolicy >>= Autoscale.validate).isOk := by
  decide +kernel

/-- A body that is no document ends the invocation without an error line. -/
theorem inspection_of_plain_text :
    (run (telling 200 (Utf8.encodeLoosely "not json")) inspection).shownErrors =
        ("Failure: Expecting value: line 1 column 1 (char 0)\n" : Text) ∧
      (run (telling 200 (Utf8.encodeLoosely "not json")) inspection).ending.status = 1 ∧
      (run (telling 200 (Utf8.encodeLoosely "not json")) inspection).output = [] := by
  decide +kernel

end ProxyControl.CommandLine
