import Mathlib.Data.List.Induction
import ProxyControl.Proofs.Resource
import ProxyControl.Proofs.Settled

namespace ProxyControl.Client

open Session

variable {client : Client} {s t : Session} {request : Http.Request} {reply : Http.Reply} {answer : Http.Answer}
  {isStreamed : Bool} {held : Connection → Prop}

/-- Where a new client connects to. -/
def endpoint (client : Client) : Outcome Http.Url := do
  let base ← (Http.Url.parseBase client.baseUrl).mapError Http.UrlError.failure
  let _ ← client.checkEncoding.mapError encodingFailure
  return base

/-- What a client may hold between its calls: a live connection only if a new client could connect as well. -/
def Sound (client : Client) (connection : Connection) : Prop :=
  connection = .live → ∃ base, client.endpoint = .ok base

theorem sound_absent (client : Client) : client.Sound .absent := fun impossible => nomatch impossible

theorem sound_closed (client : Client) : client.Sound .closed := fun impossible => nomatch impossible

/-- A client that holds nothing unsound connects as a new one does, and then has a live connection. -/
theorem run_connect (sound : client.Sound s.connection) : run s client.connect =
    match client.endpoint with
    | .ok base => (.ok base, { s with connection := .live })
    | .error failure => (.error failure, s) := by
  unfold connect
  rw [run_bind, run_ofOutcome]
  unfold Sound at sound
  unfold endpoint at sound ⊢
  cases (Http.Url.parseBase client.baseUrl).mapError Http.UrlError.failure with
  | error failure => rfl
  | ok base =>
    dsimp only
    rw [run_bind_ok run_get]
    by_cases live : s.connection = .live
    · obtain ⟨other, able⟩ := sound live
      obtain ⟨_, found, encodes⟩ := bind_eq_ok.mp able
      obtain ⟨_, encodes, same⟩ := bind_eq_ok.mp encodes
      rw [if_pos live, run_pure, encodes]
      have kept : { s with connection := .live } = s := by rw [← live]
      rw [kept]
      rfl
    · rw [if_neg live, run_bind, run_ofOutcome]
      cases client.checkEncoding.mapError encodingFailure with
      | error failure => rfl
      | ok _ => rfl

theorem settled_connect (client : Client) : Settled client.Sound client.connect := by
  refine ⟨⟨fun s sound => ?_, fun s t soundS soundT => ?_, fun s t soundS soundT => ?_⟩, ?_⟩
  · rw [run_connect sound]
    split
    · rename_i base able
      exact fun _ => ⟨base, able⟩
    · exact sound
  · rw [run_connect soundS, run_connect soundT]
    cases client.endpoint with
    | ok base => rfl
    | error failure => rfl
  · rw [run_connect soundS, run_connect soundT]
    cases client.endpoint with
    | ok base => exact ⟨[], (List.append_nil _).symm, (List.append_nil _).symm⟩
    | error failure => exact ⟨[], (List.append_nil _).symm, (List.append_nil _).symm⟩
  · cases able : client.endpoint with
    | ok base =>
      refine .inl fun s sound => ?_
      rw [run_connect sound, able]
    | error failure =>
      refine .inr fun s sound => ?_
      rw [run_connect sound, able]

theorem live_of_connect {base : Http.Url} (connected : run s client.connect = (.ok base, t)) :
    t.connection = .live := by
  unfold connect at connected
  obtain ⟨_, _, _, connected⟩ := run_bind_eq_ok.mp connected
  rw [run_bind_ok run_get] at connected
  split at connected
  · rename_i live
    obtain ⟨_, rfl⟩ := run_pure_eq_ok.mp connected
    exact live
  · obtain ⟨_, _, _, connected⟩ := run_bind_eq_ok.mp connected
    cases connected
    rfl

/-- Closing calls on the connection only if it is live, and lets go of it unless that comes to a bad end. -/
theorem run_close (closing : Outcome Unit) (s : Session) : run s (closeWith closing) =
    if s.connection = .live then
      match closing with
      | .ok _ => (.ok (), { s with connection := .absent })
      | .error failure => (.error failure, { s with connection := .closed })
    else (.ok (), { s with connection := .absent }) := by
  unfold closeWith
  rw [run_bind_ok run_get]
  dsimp only
  split
  · cases closing with
    | ok _ => rfl
    | error failure => rfl
  · rfl

/-- The building of a request for a client: it settles the connection and sends nothing yet, and where it succeeds,
the connection is live and the request has its limits. -/
structure Builds (client : Client) (readLimit : Option Binary64) (building : Call Http.Request) : Prop where
  settled : Settled client.Sound building
  quiet : Quiet building
  live : ∀ {s request t}, run s building = (.ok request, t) → t.connection = .live
  timeout : ∀ {s request t}, run s building = (.ok request, t) → request.timeout = ⟨client.timeout, readLimit⟩

section

variable {method : Http.Method} {target resource : Text} {parameters : List (Text × Text)} {document : Option Json}
  {readLimit : Option Binary64}

theorem settled_request :
    Settled client.Sound (client.request method target resource parameters document readLimit) := by
  unfold Client.request
  dsimp only
  split
  · exact settled_throw_bind _ _
  · refine (settled_ofOutcome _).bind fun (path, query) => client.settled_connect.bind fun base => ?_
    exact (settled_ofOutcome _).bind fun _ => (settled_ofOutcome _).bind fun _ => (settled_ofOutcome _).bind fun _ =>
      client.settled_connect.bind fun _ => settled_pure _

/-- A request takes its limits from the client and the operation, and its connection is made for it. -/
theorem builds_request :
    Builds client readLimit (client.request method target resource parameters document readLimit) := by
  have both {s request t}
      (built : run s (client.request method target resource parameters document readLimit) = (.ok request, t)) :
      t.connection = .live ∧ request.timeout = ⟨client.timeout, readLimit⟩ := by
    unfold Client.request at built
    dsimp only at built
    split at built
    · rw [run_bind, run_throw] at built
      cases built
    obtain ⟨⟨path, query⟩, _, _, built⟩ := run_bind_eq_ok.mp built
    obtain ⟨_, _, _, built⟩ := run_bind_eq_ok.mp built
    obtain ⟨_, _, _, built⟩ := run_bind_eq_ok.mp built
    obtain ⟨_, _, _, built⟩ := run_bind_eq_ok.mp built
    obtain ⟨_, _, _, built⟩ := run_bind_eq_ok.mp built
    obtain ⟨_, _, connected, built⟩ := run_bind_eq_ok.mp built
    obtain ⟨rfl, rfl⟩ := run_pure_eq_ok.mp built
    exact ⟨live_of_connect connected, rfl⟩
  exact ⟨settled_request, quiet_request, fun built => (both built).1, fun built => (both built).2⟩

theorem builds_logRequest (client : Client) (args : LogArgs) :
    Builds client (if args.follow then none else some client.timeout) (client.logRequest args) where
  settled := (settled_ofOutcome _).bind fun _ => settled_request
  quiet := quiet_logRequest
  live built := builds_request.live (request_of_logRequest built).2
  timeout built := builds_request.timeout (request_of_logRequest built).2

end

theorem settled_breakDown {α : Type} (failure : Failure) : Settled held (breakDown request failure : Call α) := by
  unfold breakDown
  split
  · exact (settled_note _).bind fun _ => settled_throw _
  · exact settled_throw _

theorem settled_settle : Settled held (settle request reply) := by
  unfold settle
  refine (settled_note _).bind fun _ => ?_
  dsimp only
  split
  · exact (settled_ofOutcome _).bind fun _ => (settled_note _).bind fun _ => settled_throw_bind _ _
  · exact settled_pure reply

theorem settled_send : Settled held (send request answer isStreamed) := by
  unfold send
  refine (settled_note _).bind fun _ => (settled_sent _).bind fun _ => ?_
  cases answer with
  | error failure => exact settled_breakDown failure
  | ok reply =>
    dsimp only
    split
    · exact settled_throw_bind _ _
    refine (settled_note _).bind fun _ => ?_
    split
    · exact (settled_breakDown _).bind_failing _ breakDown_ne_ok
    split
    · split
      · exact (settled_breakDown _).bind_failing _ breakDown_ne_ok
      · exact settled_settle
    · exact settled_settle

theorem settled_exchange {α : Type} {building : Call Http.Request} {rest : Http.Reply → Call α}
    (builds : Settled held building) (ends : ∀ reply, Settled held (rest reply)) :
    Settled held (exchange building answer isStreamed rest) :=
  builds.bind fun _ => settled_send.bind ends

theorem settled_writeArriving (reply : Http.Reply) : Settled held (writeArriving reply) := by
  unfold writeArriving
  dsimp only
  refine (settled_write _).bind fun _ => ?_
  split
  · exact settled_throw _
  · exact settled_pure _

section

variable {α : Type} {building : Call Http.Request} {rest : Http.Reply → Call α} {readLimit : Option Binary64}

/-- What an exchange sends has the limits of its building. -/
theorem timeout_of_exchange (builds : Builds client readLimit building) (still : ∀ reply, Unsent (rest reply))
    (sent : request ∈ (run s (exchange building answer isStreamed rest)).2.requests.drop s.requests.length) :
    request.timeout = ⟨client.timeout, readLimit⟩ := by
  obtain ⟨_, built⟩ := built_of_exchange builds.quiet still sent
  exact builds.timeout built

/-- An exchange that sends its request leaves a live connection. -/
theorem live_of_exchange (builds : Builds client readLimit building)
    (keeps : ∀ reply, Settled (fun connection => connection = .live) (rest reply))
    (sends : (run s (exchange building answer isStreamed rest)).2.requests ≠ s.requests) :
    (run s (exchange building answer isStreamed rest)).2.connection = .live := by
  rw [exchange, run_bind] at sends ⊢
  have unsent := (builds.quiet s).1
  rcases built : run s building with ⟨failure | request, t⟩
  · rw [built] at sends unsent
    exact absurd unsent sends
  · dsimp only
    exact (settled_send.bind keeps).keeps t (builds.live built)

end

namespace Operation

/-- How long an operation waits for what it reads. -/
def readLimit (client : Client) : Operation → Option Binary64
  | log args => if args.follow then none else some client.timeout
  | _ => some client.timeout

/-- Every operation is an exchange for a request that is built for it. -/
theorem exists_exchange (client : Client) (target : Text) (answer : Http.Answer) (operation : Operation) :
    ∃ (α : Type) (building : Call Http.Request) (isStreamed : Bool) (rest : Http.Reply → Call α),
      (∀ s, operation.after client target answer s = (run s (exchange building answer isStreamed rest)).2) ∧
        Builds client (operation.readLimit client) building ∧ (∀ held reply, Settled held (rest reply)) ∧
        ∀ reply, Unsent (rest reply) := by
  cases operation with
  | getAutoscale =>
    exact ⟨_, _, false, _, fun _ => rfl, builds_request, fun _ _ => settled_ofOutcome _, fun _ =>
      (quiet_ofOutcome _).unsent⟩
  | updateAutoscale policy =>
    exact ⟨_, _, false, _, fun _ => rfl, builds_request, fun _ _ => settled_pure (), fun _ => (quiet_pure ()).unsent⟩
  | removeAutoscale =>
    exact ⟨_, _, false, _, fun _ => rfl, builds_request, fun _ _ => settled_pure (), fun _ => (quiet_pure ()).unsent⟩
  | log args =>
    exact ⟨_, _, true, _, fun _ => rfl, client.builds_logRequest { args with target }, fun _ => settled_writeArriving,
      requests_of_writeArriving⟩

end Operation

/-- What can be done with a client. A failure ends one of these, not the use of the client. Where the connection is to
be closed, that may come to a bad end as well. -/
inductive Step where
  | ask (operation : Operation) (target : Text) (answer : Http.Answer)
  | connect
  | close (closing : Outcome Unit)
  | enter
  | leave (closing : Outcome Unit)

namespace Step

/-- The session after a step. -/
def after (client : Client) (s : Session) : Step → Session
  | ask operation target answer => operation.after client target answer s
  | connect => (run s client.connect).2
  | close closing => (run s (Client.closeWith closing)).2
  | enter => (run s Client.enter).2
  | leave closing => (run s (Client.leaveWith closing)).2

/-- The session of a client after the steps so far. -/
def afterAll (client : Client) (steps : List Step) : Session := steps.foldl (after client) {}

/-- What a step sends when it is the only one. -/
def sendsAlone (client : Client) (step : Step) : List Http.Request := (step.after client {}).requests

/-- A step that makes a connection when it is the only one. -/
def Connects (client : Client) (step : Step) : Prop := (step.after client {}).connection = .live

/-- What closing the connection comes to, in a step that lets go of it. -/
def closing? : Step → Option (Outcome Unit)
  | close closing | leave closing => some closing
  | _ => none

/-- A step that lets go of the connection, unless that comes to a bad end. -/
def IsEnd (step : Step) : Prop := ∃ closing, step.closing? = some closing

/-- A step that lets go of the connection and whose closing of a live one comes to a bad end. -/
def BreaksOff (step : Step) : Prop := ∃ failure, step.closing? = some (.error failure)

/-- Whether a step asks for a log that goes on. -/
def follows : Step → Bool
  | ask (.log args) _ _ => args.follow
  | _ => false

/-- Nothing ends the wait for what is read: there is no limit, or an infinite one. -/
def ReadsForever (request : Http.Request) : Prop :=
  ∀ limit, request.timeout.readLimit = some limit → limit = .infinite false

variable {step : Step} {steps : List Step}

theorem after_of_closing {closing : Outcome Unit} (ends : step.closing? = some closing) :
    step.after client s = (run s (Client.closeWith closing)).2 := by
  cases step with
  | close _ =>
    cases ends
    rfl
  | leave _ =>
    cases ends
    rfl
  | _ => cases ends

/-- A step that goes on settles the connection. -/
theorem settled (client : Client) (goesOn : ¬ step.IsEnd) :
    ∃ (α : Type) (call : Call α), Settled client.Sound call ∧ ∀ s, step.after client s = (run s call).2 := by
  cases step with
  | ask operation target answer =>
    obtain ⟨α, building, isStreamed, rest, after, builds, settles, _⟩ :=
      operation.exists_exchange client target answer
    exact ⟨α, _, settled_exchange builds.settled (settles _), after⟩
  | connect => exact ⟨_, client.connect, client.settled_connect, fun _ => rfl⟩
  | close closing => exact absurd ⟨closing, rfl⟩ goesOn
  | enter => exact ⟨_, Client.enter, settled_pure _, fun _ => rfl⟩
  | leave closing => exact absurd ⟨closing, rfl⟩ goesOn

/-- A step that goes on leaves a live connection if it makes one when it is the only step, and what there was before
otherwise. -/
theorem connection_of_going_on (goesOn : ¬ step.IsEnd) (sound : client.Sound s.connection) :
    (step.Connects client → (step.after client s).connection = .live) ∧
      (¬ step.Connects client → (step.after client s).connection = s.connection) := by
  obtain ⟨_, call, settles, after⟩ := step.settled client goesOn
  rw [Connects, after, after]
  rcases settles.moves with connects | still
  · exact ⟨fun _ => connects s sound, fun idle => absurd (connects {} client.sound_absent) idle⟩
  · refine ⟨fun connects => ?_, fun _ => still s sound⟩
    rw [still {} client.sound_absent] at connects
    cases connects

/-- A step that lets go of the connection leaves none, unless it breaks off on a live one. -/
theorem connection_of_end (ends : step.IsEnd) :
    (s.connection = .live ∧ step.BreaksOff → (step.after client s).connection = .closed) ∧
      (¬ (s.connection = .live ∧ step.BreaksOff) → (step.after client s).connection = .absent) := by
  obtain ⟨closing, ends⟩ := ends
  rw [after_of_closing ends, run_close]
  cases closing with
  | ok _ =>
    have whole : ¬ step.BreaksOff := by
      rintro ⟨failure, fails⟩
      rw [ends] at fails
      cases fails
    refine ⟨fun breaks => absurd breaks.2 whole, fun _ => ?_⟩
    split
    · rfl
    · rfl
  | error failure =>
    constructor
    · rintro ⟨live, _⟩
      rw [if_pos live]
    · intro unbroken
      rw [if_neg fun live => unbroken ⟨live, failure, ends⟩]

theorem sound_after (step : Step) (sound : client.Sound s.connection) :
    client.Sound (step.after client s).connection := by
  by_cases ends : step.IsEnd
  · by_cases breaks : s.connection = .live ∧ step.BreaksOff
    · rw [(connection_of_end ends).1 breaks]
      exact client.sound_closed
    · rw [(connection_of_end ends).2 breaks]
      exact client.sound_absent
  · obtain ⟨_, call, settles, after⟩ := step.settled client ends
    rw [after]
    exact settles.keeps s sound

/-- What a client holds stays sound over any number of steps. -/
theorem sound_afterAll (client : Client) (steps : List Step) : client.Sound (afterAll client steps).connection := by
  have start : client.Sound ({} : Session).connection := client.sound_absent
  unfold afterAll
  generalize ({} : Session) = s at start ⊢
  induction steps generalizing s with
  | nil => exact start
  | cons step steps ih => exact ih _ (step.sound_after start)

theorem afterAll_append_singleton (client : Client) (steps : List Step) (step : Step) :
    afterAll client (steps ++ [step]) = step.after client (afterAll client steps) := by
  rw [afterAll, List.foldl_append]
  rfl

/-- A closed connection is left by a step that breaks off, or it was left before, and the step goes on without one. -/
theorem closed_after_iff (sound : client.Sound s.connection) : (step.after client s).connection = .closed ↔
    s.connection = .live ∧ step.BreaksOff ∨ s.connection = .closed ∧ ¬ step.IsEnd ∧ ¬ step.Connects client := by
  by_cases ends : step.IsEnd
  · by_cases breaks : s.connection = .live ∧ step.BreaksOff
    · exact ⟨fun _ => .inl breaks, fun _ => (connection_of_end ends).1 breaks⟩
    · rw [(connection_of_end ends).2 breaks]
      constructor
      · intro impossible
        cases impossible
      · rintro (broke | ⟨_, goesOn, _⟩)
        · exact absurd broke breaks
        · exact absurd ends goesOn
  · have whole : ¬ step.BreaksOff := fun ⟨failure, fails⟩ => ends ⟨_, fails⟩
    by_cases connects : step.Connects client
    · rw [(connection_of_going_on ends sound).1 connects]
      constructor
      · intro impossible
        cases impossible
      · rintro (broke | ⟨_, _, idle⟩)
        · exact absurd broke.2 whole
        · exact absurd connects idle
    · rw [(connection_of_going_on ends sound).2 connects]
      constructor
      · intro closed
        exact .inr ⟨closed, ends, connects⟩
      · rintro (broke | ⟨closed, _⟩)
        · exact absurd broke.2 whole
        · exact closed

/-- Steps of which one breaks off on a live connection, and none lets go of it or connects from then on. -/
def LeaveClosed (client : Client) (steps : List Step) : Prop :=
  ∃ before ending since, steps = before ++ ending :: since ∧ (afterAll client before).connection = .live ∧
    ending.BreaksOff ∧ ∀ step ∈ since, ¬ step.IsEnd ∧ ¬ step.Connects client

theorem leaveClosed_append_singleton : LeaveClosed client (steps ++ [step]) ↔
    (afterAll client steps).connection = .live ∧ step.BreaksOff ∨
      LeaveClosed client steps ∧ ¬ step.IsEnd ∧ ¬ step.Connects client := by
  constructor
  · rintro ⟨before, ending, since, same, live, breaks, idle⟩
    rcases List.eq_nil_or_concat since with rfl | ⟨others, last, rfl⟩
    · obtain ⟨rfl, last⟩ := List.append_inj' same rfl
      cases last
      exact .inl ⟨live, breaks⟩
    · rw [List.concat_eq_append] at same idle
      rw [← List.cons_append, ← List.append_assoc] at same
      obtain ⟨rfl, final⟩ := List.append_inj' same rfl
      cases final
      refine .inr ⟨⟨before, ending, others, rfl, live, breaks, fun step inside => ?_⟩, ?_⟩
      · exact idle step (List.mem_append_left _ inside)
      · exact idle step (List.mem_append_right _ (List.mem_singleton_self _))
  · rintro (⟨live, breaks⟩ | ⟨⟨before, ending, since, rfl, live, breaks, idle⟩, goesOn, unconnected⟩)
    · exact ⟨steps, step, [], rfl, live, breaks, fun _ impossible => nomatch impossible⟩
    · refine ⟨before, ending, since ++ [step], ?_, live, breaks, fun later inside => ?_⟩
      · rw [List.append_assoc, List.cons_append]
      · rcases List.mem_append.mp inside with within | last
        · exact idle later within
        · rw [List.mem_singleton.mp last]
          exact ⟨goesOn, unconnected⟩

/-- A client holds a closed connection just when its steps leave one. -/
theorem closed_afterAll_iff : (afterAll client steps).connection = .closed ↔ LeaveClosed client steps := by
  induction steps using List.reverseRecOn with
  | nil =>
    constructor
    · intro impossible
      cases impossible
    · rintro ⟨before, ending, since, impossible, _⟩
      exact absurd impossible.symm (List.append_ne_nil_of_right_ne_nil _ (List.cons_ne_nil _ _))
  | append_singleton steps step ih =>
    rw [afterAll_append_singleton, closed_after_iff (sound_afterAll client steps), leaveClosed_append_singleton, ih]

/-- On sound sessions, a step sends what it sends when it is the only one. -/
theorem requests_after (step : Step) (sound : client.Sound s.connection) :
    (step.after client s).requests = s.requests ++ step.sendsAlone client := by
  by_cases ends : step.IsEnd
  · obtain ⟨closing, ends⟩ := ends
    have unsent (s : Session) : (step.after client s).requests = s.requests := by
      rw [after_of_closing ends, run_close]
      split
      · cases closing with
        | ok _ => rfl
        | error failure => rfl
      · rfl
    rw [sendsAlone, unsent, unsent, List.append_nil]
  · obtain ⟨_, call, settles, after⟩ := step.settled client ends
    obtain ⟨more, here, alone⟩ := settles.sends s {} sound client.sound_absent
    rw [sendsAlone, after, after, here, alone]
    rfl

/-- A step that sends something is an operation. -/
theorem exists_operation_of_sendsAlone (sends : step.sendsAlone client ≠ []) :
    ∃ operation target answer, step = ask operation target answer := by
  cases step with
  | ask operation target answer => exact ⟨operation, target, answer, rfl⟩
  | connect => exact absurd ((quiet_connect client).unsent {}) sends
  | enter => exact absurd rfl sends
  | close closing => exact absurd rfl sends
  | leave closing => exact absurd rfl sends

theorem timeout_of_sendsAlone (sent : request ∈ step.sendsAlone client) :
    request.timeout = ⟨client.timeout, if step.follows then none else some client.timeout⟩ := by
  obtain ⟨operation, target, answer, rfl⟩ := exists_operation_of_sendsAlone (List.ne_nil_of_mem sent)
  obtain ⟨_, _, _, _, after, builds, _, still⟩ := operation.exists_exchange client target answer
  rw [sendsAlone, Step.after, after] at sent
  have limits := timeout_of_exchange (s := {}) builds still sent
  cases operation with
  | log args => exact limits
  | _ => exact limits

/-- The client's own limit may be an infinite one. -/
theorem readsForever_iff
    (limits : request.timeout = ⟨client.timeout, if step.follows then none else some client.timeout⟩) :
    ReadsForever request ↔ step.follows ∨ client.timeout = .infinite false := by
  rw [ReadsForever, limits]
  by_cases follows : step.follows = true
  · rw [if_pos follows]
    exact ⟨fun _ => .inl follows, fun _ _ impossible => nomatch impossible⟩
  · rw [if_neg follows]
    constructor
    · intro forever
      exact .inr (forever client.timeout rfl)
    · rintro (impossible | infinite) limit same
      · exact absurd impossible follows
      · rw [← Option.some.inj same, infinite]

theorem connects_of_sendsAlone (sends : step.sendsAlone client ≠ []) : step.Connects client := by
  obtain ⟨operation, target, answer, rfl⟩ := exists_operation_of_sendsAlone sends
  obtain ⟨_, _, _, _, after, builds, settles, _⟩ := operation.exists_exchange client target answer
  rw [sendsAlone, Step.after, after] at sends
  rw [Connects, Step.after, after]
  exact live_of_exchange builds (settles _) sends

/-- Whatever was done with a client before, and whether it came off or not: after the next step it holds a closed
connection just when a step broke off with a live one and none has ended or connected since. So it holds none right
after a step that lets go of it and does not break off, and a live one right after a step that sends something. And the
step sent what it sends on a new client, with the client's limit on everything but the reading of a log that goes on. -/
theorem sends_like_new (client : Client) (earlier : List Step) (step : Step) :
    ((afterAll client (earlier ++ [step])).connection = .closed ↔ LeaveClosed client (earlier ++ [step])) ∧
      (step.IsEnd → ¬ step.BreaksOff → (afterAll client (earlier ++ [step])).connection = .absent) ∧
      (step.sendsAlone client ≠ [] → (afterAll client (earlier ++ [step])).connection = .live) ∧
      (afterAll client (earlier ++ [step])).requests = (afterAll client earlier).requests ++ step.sendsAlone client ∧
      ∀ request ∈ step.sendsAlone client,
        request.timeout = ⟨client.timeout, if step.follows then none else some client.timeout⟩ ∧
          (ReadsForever request ↔ step.follows ∨ client.timeout = .infinite false) := by
  have sound := sound_afterAll client earlier
  refine ⟨closed_afterAll_iff, fun ends whole => ?_, fun sends => ?_, ?_, fun _ sent => ?_⟩
  · rw [afterAll_append_singleton]
    exact (connection_of_end ends).2 fun breaks => whole breaks.2
  · have goesOn : ¬ step.IsEnd := by
      obtain ⟨_, _, _, rfl⟩ := exists_operation_of_sendsAlone sends
      rintro ⟨_, impossible⟩
      cases impossible
    rw [afterAll_append_singleton]
    exact (connection_of_going_on goesOn sound).1 (connects_of_sendsAlone sends)
  · rw [afterAll_append_singleton, step.requests_after sound]
  · have limits := timeout_of_sendsAlone sent
    exact ⟨limits, readsForever_iff limits⟩

/-- A removal that breaks down, in a block. -/
def brokenRemoval : List Step :=
  [.enter, .ask .removeAutoscale "my-instance" (.error (.broken .connectError "refused"))]

def followedLog : Step := .ask (.log { target := [], follow := true }) "my-instance" gone

theorem sends_like_new_after_break : (afterAll (nearby .direct) brokenRemoval).connection = .live ∧
    (afterAll (nearby .direct) (brokenRemoval ++ [.leave (.ok ())])).connection = .absent ∧
    ∃ request, (afterAll (nearby .direct) (brokenRemoval ++ [followedLog])).requests =
        (afterAll (nearby .direct) brokenRemoval).requests ++ [request] ∧
      request.timeout = ⟨defaultTimeout, none⟩ := by
  have live : (afterAll (nearby .direct) brokenRemoval).connection = .live := by decide +kernel
  have single : (followedLog.sendsAlone (nearby .direct)).length = 1 := by decide +kernel
  obtain ⟨request, alone⟩ := List.length_eq_one_iff.mp single
  have whole : ¬ (Step.leave (.ok ())).BreaksOff := fun ⟨_, impossible⟩ => nomatch impossible
  obtain ⟨_, ended, _⟩ := sends_like_new (nearby .direct) brokenRemoval (.leave (.ok ()))
  obtain ⟨_, _, _, sent, limits⟩ := sends_like_new (nearby .direct) brokenRemoval followedLog
  refine ⟨live, ended ⟨_, rfl⟩ whole, request, by rw [sent, alone], ?_⟩
  exact (limits request (by rw [alone]; exact List.mem_singleton_self request)).1

/-- A client that waits as long as it takes. -/
def patient : Client := { nearby .direct with timeout := .infinite false }

/-- A block that is left while closing the connection comes to a bad end leaves it with the client. And a client may
wait for the answer to a removal as long as it takes. -/
theorem closed_after_broken_leave :
    (afterAll (nearby .direct) (brokenRemoval ++ [.leave (.error (.broken .closeError "lost"))])).connection = .closed ∧
      ∃ request ∈ (Step.ask .removeAutoscale "my-instance" gone).sendsAlone patient, ReadsForever request := by
  constructor
  · decide +kernel
  · have limits : ((Step.ask .removeAutoscale "my-instance" gone).sendsAlone patient).map
        (fun request => request.timeout.readLimit) = [some (.infinite false)] := by decide +kernel
    obtain ⟨request, sent, limit⟩ := List.mem_map.mp (limits ▸ List.mem_singleton_self _)
    refine ⟨request, sent, fun other same => ?_⟩
    rw [limit] at same
    exact (Option.some.inj same).symm

end Step

end ProxyControl.Client
