import ProxyControl.Proofs.Http.Arriving
import ProxyControl.Proofs.Http.Redirect
import ProxyControl.Proofs.Request

namespace ProxyControl

/-- Failures that are stated before there is an exchange: values are refused, or settings are of no use. -/
def Failure.isRefusal : Failure → Bool
  | refused _ | misconfigured _ => true
  | _ => false

namespace Http

theorem Astray.isRefusal {failure : Failure} (astray : Astray failure) : failure.isRefusal = false := by
  cases astray with
  | broken => rfl
  | fault => rfl

/-- The failures that an answer brings with it. -/
def failuresOf : Answer → List Failure
  | .error failure => [failure]
  | .ok reply => reply.chunks.filterMap fun
    | .failure failure => some failure
    | .bytes _ => none

theorem Reply.mem_failuresOf {reply : Reply} {failure : Failure} (member : .failure failure ∈ reply.chunks) :
    failure ∈ failuresOf (.ok reply) := List.mem_filterMap.mpr ⟨_, member, rfl⟩

theorem Reply.failure_of_body {reply : Reply} {failure : Failure} (broken : reply.body = .error failure) :
    failure ∈ failuresOf (.ok reply) := by
  refine mem_failuresOf ?_
  unfold body at broken
  generalize reply.chunks = chunks at broken ⊢
  induction chunks with
  | nil => cases broken
  | cons chunk chunks ih =>
    cases chunk with
    | failure cause =>
      cases broken
      exact List.mem_cons_self
    | bytes content =>
      rcases bind_eq_error.mp broken with later | ⟨_, _, impossible⟩
      · exact List.mem_cons_of_mem _ (ih later)
      · cases impossible

theorem Reply.failure_of_arrivingText {reply : Reply} {failure : Failure}
    (broken : reply.arrivingText.2 = some failure) : failure ∈ failuresOf (.ok reply) := by
  refine mem_failuresOf ?_
  unfold arrivingText at broken
  generalize Utf8.State.start = state at broken
  generalize reply.chunks = chunks at broken ⊢
  induction chunks generalizing state with
  | nil => cases broken
  | cons chunk chunks ih =>
    cases chunk with
    | failure cause =>
      cases broken
      exact List.mem_cons_self
    | bytes content => exact List.mem_cons_of_mem _ (ih _ broken)

end Http

/-- A body that is no document is none for reasons that no command reports. -/
theorem fault_of_documentOf {body : Utf8.Bytes} {failure : Failure} (fails : documentOf body = .error failure) :
    ∃ kind message, failure = .fault kind message := by
  unfold documentOf at fails
  split at fails
  · cases fails
    exact ⟨_, _, rfl⟩
  · obtain ⟨error, _, rfl⟩ := mapError_eq_error.mp fails
    cases error with
    | syntaxError _ _ => exact ⟨_, _, rfl⟩
    | tooManyDigits _ => exact ⟨_, _, rfl⟩
    | tooDeep _ => exact ⟨_, _, rfl⟩

namespace Client

open Session

variable {s t : Session} {request : Http.Request} {answer : Http.Answer} {reply : Http.Reply} {isStreamed : Bool}

theorem quiet_breakDown {α : Type} (request : Http.Request) (failure : Failure) :
    Quiet (breakDown request failure : Call α) := by
  unfold breakDown
  split
  · exact (quiet_note _).bind fun _ => quiet_throw _
  · exact quiet_throw _

theorem breakDown_ne_ok {α : Type} {failure : Failure} {a : α} :
    run s (breakDown request failure) ≠ (.ok a, t) := by
  intro run
  unfold breakDown at run
  split at run
  · cases run
  · cases run

/-- The end of sending: the reply is received as a whole, and what remains to be seen is its status. -/
def settle (request : Http.Request) (reply : Http.Reply) : Call Http.Reply := do
  note ⟨.debug, logger, "API response", requestFields request [("status_code", .int reply.status)]⟩
  if reply.isError then
    let error := apiError reply (← ofOutcome (reply.body >>= errorBody reply))
    note ⟨.debug, logger, "API error",
      [("status_code", .int error.status), ("reason", .text error.reason),
        ("detail", error.bodyMessage.elim .null .text)]⟩
    throw (.api error)
  return reply

theorem quiet_settle : Quiet (settle request reply) := by
  unfold settle
  refine (quiet_note _).bind fun _ => ?_
  dsimp only
  split
  · exact (quiet_ofOutcome _).bind fun _ => (quiet_note _).bind fun _ => quiet_throw_bind _ _
  · exact quiet_pure reply

theorem settle_eq_ok {found : Http.Reply} (run : run s (settle request reply) = (.ok found, t)) :
    reply = found ∧ reply.isError = false := by
  unfold settle at run
  rw [run_bind_ok (run_note _)] at run
  dsimp only at run
  split at run
  · obtain ⟨_, _, _, run⟩ := run_bind_eq_ok.mp run
    cases run
  · rename_i success
    exact ⟨(run_pure_eq_ok.mp run).1, Bool.eq_false_iff.mpr success⟩

theorem run_settle (success : reply.isError = false) : (run s (settle request reply)).1 = .ok reply := by
  unfold settle
  rw [run_bind_ok (run_note _)]
  dsimp only
  rw [if_neg (Bool.eq_false_iff.mp success), run_pure]

/-- An error status is a failure that tells what the body says, unless the body cannot be had. -/
theorem run_settle_of_isError (failed : reply.isError = true) : (run s (settle request reply)).1 =
    ((reply.body >>= errorBody reply) >>= fun document => .error (.api (apiError reply document))) := by
  unfold settle
  rw [run_bind_ok (run_note _)]
  dsimp only
  rw [if_pos failed, run_bind, run_ofOutcome]
  cases reply.body >>= errorBody reply with
  | error failure => rfl
  | ok document => rfl

/-- What a reply must be for a call to go on: it comes from somewhere, leads nowhere bad, is whole unless it is
streamed, and has no error status. -/
structure Accepted (request : Http.Request) (reply : Http.Reply) (isStreamed : Bool) : Prop where
  scheme : request.url.scheme ≠ []
  location : checkLocation request reply = .ok ()
  whole : isStreamed = false → ∃ body, reply.body = .ok body
  success : reply.isError = false

theorem accepted_of_send (run : run s (send request answer isStreamed) = (.ok reply, t)) :
    answer = .ok reply ∧ Accepted request reply isStreamed := by
  unfold send at run
  rw [run_bind_ok (run_note _), run_bind_ok (run_sent _)] at run
  cases answer with
  | error failure => exact absurd run breakDown_ne_ok
  | ok received =>
    dsimp only at run
    split at run
    · cases run
    rename_i scheme
    rw [run_bind_ok (run_note _)] at run
    split at run
    · obtain ⟨_, _, broken, _⟩ := run_bind_eq_ok.mp run
      exact absurd broken breakDown_ne_ok
    rename_i usable
    have location : checkLocation request received = .ok () := by
      cases found : checkLocation request received with
      | ok _ => rfl
      | error failure => exact absurd found (usable failure)
    have sent : request.url.scheme ≠ [] := fun empty => scheme (by rw [empty]; rfl)
    split at run
    · split at run
      · obtain ⟨_, _, broken, _⟩ := run_bind_eq_ok.mp run
        exact absurd broken breakDown_ne_ok
      rename_i unbroken
      obtain ⟨rfl, success⟩ := settle_eq_ok run
      refine ⟨rfl, sent, location, fun _ => ?_, success⟩
      cases found : received.body with
      | ok body => exact ⟨body, rfl⟩
      | error failure => exact absurd found (unbroken failure)
    · rename_i streamed
      obtain ⟨rfl, success⟩ := settle_eq_ok run
      refine ⟨rfl, sent, location, fun whole => ?_, success⟩
      rw [whole] at streamed
      exact absurd rfl streamed

/-- A reply that comes from somewhere, leads nowhere bad and is whole unless it is streamed is received. -/
theorem run_send_eq_settle (scheme : request.url.scheme ≠ []) (location : checkLocation request reply = .ok ())
    (whole : isStreamed = false → ∃ body, reply.body = .ok body) :
    ∃ t, run s (send request (.ok reply) isStreamed) = run t (settle request reply) := by
  unfold send
  rw [run_bind_ok (run_note _), run_bind_ok (run_sent _)]
  dsimp only
  rw [if_neg (fun empty => scheme (List.isEmpty_iff.mp empty)), run_bind_ok (run_note _), location]
  dsimp only
  cases isStreamed with
  | true => exact ⟨_, rfl⟩
  | false =>
    obtain ⟨body, whole⟩ := whole rfl
    split
    · split
      · rename_i broken
        rw [whole] at broken
        cases broken
      · exact ⟨_, rfl⟩
    · exact ⟨_, rfl⟩

theorem run_send (accepted : Accepted request reply isStreamed) :
    (run s (send request (.ok reply) isStreamed)).1 = .ok reply := by
  obtain ⟨t, same⟩ := run_send_eq_settle (s := s) accepted.scheme accepted.location accepted.whole
  rw [same]
  exact run_settle accepted.success

/-- An exchange that breaks down is a failure by itself. -/
theorem run_send_of_broken (kind : Breakdown) (message : Text) :
    (run s (send request (.error (.broken kind message)) isStreamed)).1 = .error (.broken kind message) := rfl

theorem checkLocation_of_not_redirection (stays : isRedirection reply.status = false) :
    checkLocation request reply = .ok () := by
  rw [checkLocation, if_neg (Bool.eq_false_iff.mp stays)]
  rfl

theorem not_isRedirection {status : Nat} (outside : status < 300 ∨ 400 ≤ status) : isRedirection status = false := by
  simp only [isRedirection, List.contains_eq_mem, List.mem_cons, List.not_mem_nil, or_false, decide_eq_false_iff_not]
  omega

theorem checkLocation_of_isError (failed : reply.isError = true) : checkLocation request reply = .ok () := by
  rw [Http.Reply.isError, Bool.and_eq_true, decide_eq_true_eq] at failed
  exact checkLocation_of_not_redirection (not_isRedirection (.inr failed.1))

/-- A whole reply with an error status is a failure that tells what the body says, unless reading the body fails. -/
theorem run_send_of_isError {body : Utf8.Bytes} (scheme : request.url.scheme ≠ []) (failed : reply.isError = true)
    (whole : reply.body = .ok body) : (run s (send request (.ok reply) isStreamed)).1 =
      (errorBody reply body >>= fun document => .error (.api (apiError reply document))) := by
  obtain ⟨t, same⟩ : ∃ t, run s (send request (.ok reply) isStreamed) = run t (settle request reply) :=
    run_send_eq_settle scheme (checkLocation_of_isError failed) fun _ => ⟨body, whole⟩
  rw [same, run_settle_of_isError failed, whole]
  rfl

/-- A URL without a scheme leads nowhere. -/
theorem run_send_of_schemeless (schemeless : request.url.scheme = []) :
    ∃ message, (run s (send request (.ok reply) isStreamed)).1 = .error (.fault .value message) := by
  unfold send
  rw [run_bind_ok (run_note _), run_bind_ok (run_sent _)]
  dsimp only
  rw [if_pos (List.isEmpty_iff.mpr schemeless)]
  exact ⟨_, rfl⟩

/-- Sending puts exactly one request on its way, whatever comes of it, and writes nothing. -/
theorem sent_by_send (s : Session) (request : Http.Request) (answer : Http.Answer) (isStreamed : Bool) :
    (run s (send request answer isStreamed)).2.requests = s.requests ++ [request] ∧
      (run s (send request answer isStreamed)).2.written = s.written := by
  unfold send
  rw [run_bind_ok (run_note _), run_bind_ok (run_sent _)]
  generalize sent : ({ s with records := _, requests := _ } : Session) = u
  have start : u.requests = s.requests ++ [request] ∧ u.written = s.written := by
    rw [← sent]
    exact ⟨rfl, rfl⟩
  rw [← start.1, ← start.2]
  refine (?_ : Quiet _) u
  cases answer with
  | error failure => exact quiet_breakDown request failure
  | ok reply =>
    dsimp only
    split
    · exact quiet_throw_bind _ _
    refine (quiet_note _).bind fun _ => ?_
    split
    · exact (quiet_breakDown request _).bind_failing _ breakDown_ne_ok
    split
    · split
      · exact (quiet_breakDown request _).bind_failing _ breakDown_ne_ok
      · exact quiet_settle
    · exact quiet_settle

/-- Why an error body cannot be had. -/
theorem errorBody_eq_error {body : Utf8.Bytes} {failure : Failure} :
    errorBody reply body = .error failure ↔
      documentOf body = .error failure ∧ ∃ message, failure = .fault .recursion message := by
  unfold errorBody
  split
  · rename_i message found
    rw [found]
    constructor
    · intro same
      cases same
      exact ⟨rfl, message, rfl⟩
    · exact And.left
  · rename_i cause shallow found
    rw [found]
    constructor
    · intro impossible
      cases impossible
    · rintro ⟨same, message, rfl⟩
      cases same
      exact absurd rfl (shallow message)
  · rename_i document found
    rw [found]
    constructor
    · intro impossible
      cases impossible
    · rintro ⟨impossible, _⟩
      cases impossible

theorem failsAs_breakDown {α : Type} {holds : Failure → Prop} {failure : Failure} (held : holds failure) :
    FailsAs holds (breakDown request failure : Call α) := by
  unfold breakDown
  split
  · exact (failsAs_note _).bind fun _ => failsAs_throw held
  · exact failsAs_throw held

theorem astray_of_checkLocation {failure : Failure} (misled : checkLocation request reply = .error failure) :
    Http.Astray failure := by
  unfold checkLocation at misled
  split at misled
  · split at misled
    · rcases bind_eq_error.mp misled with lost | ⟨_, _, unmade⟩
      · exact Http.Url.astray_of_next lost
      · exact Http.Url.astray_of_checkNext unmade
    · cases misled
  · cases misled

theorem failsAs_settle (foreign : ∀ failure ∈ Http.failuresOf (.ok reply), failure.isRefusal = false) :
    FailsAs (fun failure => failure.isRefusal = false) (settle request reply) := by
  unfold settle
  refine (failsAs_note _).bind fun _ => ?_
  dsimp only
  split
  · refine (failsAs_ofOutcome fun failure fails => ?_).bind fun _ => (failsAs_note _).bind fun _ =>
      failsAs_throw_bind _ rfl
    rcases bind_eq_error.mp fails with broken | ⟨_, _, deep⟩
    · exact foreign failure (Http.Reply.failure_of_body broken)
    · obtain ⟨_, _, rfl⟩ := errorBody_eq_error.mp deep
      rfl
  · exact failsAs_pure reply

/-- Once a request is on its way, nothing is refused any more. -/
theorem failsAs_send (foreign : ∀ failure ∈ Http.failuresOf answer, failure.isRefusal = false) :
    FailsAs (fun failure => failure.isRefusal = false) (send request answer isStreamed) := by
  unfold send
  refine (failsAs_note _).bind fun _ => (failsAs_sent _).bind fun _ => ?_
  cases answer with
  | error failure => exact failsAs_breakDown (foreign failure (List.mem_singleton_self failure))
  | ok reply =>
    dsimp only
    split
    · exact failsAs_throw_bind _ rfl
    refine (failsAs_note _).bind fun _ => ?_
    split
    · rename_i failure misled
      refine (failsAs_breakDown ?_).bind_failing _ breakDown_ne_ok
      exact (astray_of_checkLocation misled).isRefusal
    split
    · split
      · rename_i failure broken
        exact (failsAs_breakDown (foreign failure (Http.Reply.failure_of_body broken))).bind_failing _ breakDown_ne_ok
      · exact failsAs_settle foreign
    · exact failsAs_settle foreign

section

variable {α : Type} {building : Call Http.Request} {rest : Http.Reply → Call α}

/-- The shape of every operation: a request is built and sent, and its reply is made use of. -/
def exchange (building : Call Http.Request) (answer : Http.Answer) (isStreamed : Bool) (rest : Http.Reply → Call α) :
    Call α := do
  let request ← building
  let reply ← send request answer isStreamed
  rest reply

theorem getAutoscale_eq_exchange (client : Client) (target : Text) (answer : Http.Answer) :
    client.getAutoscale target answer =
      exchange (client.request .get target "autoscale" [] none (some client.timeout)) answer false fun reply =>
        ofOutcome (do Autoscale.validate (← documentOf (← reply.body))) := rfl

theorem updateAutoscale_eq_exchange (client : Client) (target : Text) (policy : Autoscale) (answer : Http.Answer) :
    client.updateAutoscale target policy answer =
      exchange (client.request .patch target "autoscale" [] (some policy.payload) (some client.timeout)) answer false
        fun _ => pure () := rfl

theorem removeAutoscale_eq_exchange (client : Client) (target : Text) (answer : Http.Answer) :
    client.removeAutoscale target answer =
      exchange (client.request .delete target "autoscale" [] none (some client.timeout)) answer false
        fun _ => pure () := rfl

/-- What becomes of a log that arrives: its text is written, also before a failure. -/
def writeArriving (reply : Http.Reply) : Call Unit := do
  let (text, failure) := reply.arrivingText
  write text
  if let some failure := failure then throw failure

theorem log_eq_exchange (client : Client) (args : LogArgs) (answer : Http.Answer) :
    client.log args answer = exchange (client.logRequest args) answer true writeArriving := rfl

theorem run_writeArriving (reply : Http.Reply) (s : Session) :
    run s (writeArriving reply) = (reply.arrivingText.2.elim (.ok ()) .error,
      { s with written := s.written ++ reply.arrivingText.1 }) := by
  unfold writeArriving
  dsimp only
  rw [run_bind_ok (run_write reply.isUnicode_arrivingText)]
  cases reply.arrivingText.2 with
  | none => rfl
  | some failure => rfl

theorem requests_of_writeArriving (reply : Http.Reply) (u : Session) :
    (run u (writeArriving reply)).2.requests = u.requests := by
  rw [run_writeArriving]

/-- The writing of a log fails only with the log. -/
theorem failsAs_writeArriving {holds : Failure → Prop} (own : ∀ failure ∈ Http.failuresOf (.ok reply), holds failure) :
    FailsAs holds (writeArriving reply) := by
  intro u failure t ends
  rw [run_writeArriving, Prod.mk.injEq] at ends
  cases broken : reply.arrivingText.2 with
  | none =>
    rw [broken] at ends
    cases ends.1
  | some cause =>
    rw [broken] at ends
    cases ends.1
    exact own failure (Http.Reply.failure_of_arrivingText broken)

/-- An exchange sends the request that was built, and nothing else. -/
theorem requests_of_exchange (quiet : Quiet building)
    (still : ∀ reply u, (run u (rest reply)).2.requests = u.requests) :
    (run s (exchange building answer isStreamed rest)).2.requests = s.requests ∨
      ∃ request u, run s building = (.ok request, u) ∧
        (run s (exchange building answer isStreamed rest)).2.requests = s.requests ++ [request] := by
  have before := (quiet s).1
  rw [exchange, run_bind]
  rcases built : run s building with ⟨failure | request, u⟩
  · rw [built] at before
    exact .inl before
  · rw [built] at before
    refine .inr ⟨request, u, rfl, ?_⟩
    have after := (sent_by_send u request answer isStreamed).1
    dsimp only
    rw [run_bind]
    rcases sent : run u (send request answer isStreamed) with ⟨failure | reply, v⟩
    · rw [sent, before] at after
      exact after
    · rw [sent, before] at after
      rw [still]
      exact after

/-- What an exchange sends was built for it. -/
theorem built_of_exchange {request : Http.Request} (quiet : Quiet building)
    (still : ∀ reply u, (run u (rest reply)).2.requests = u.requests)
    (sent : request ∈ (run s (exchange building answer isStreamed rest)).2.requests.drop s.requests.length) :
    ∃ u, run s building = (.ok request, u) := by
  rcases requests_of_exchange quiet still with same | ⟨built, u, building, same⟩
  · rw [same, List.drop_length] at sent
    cases sent
  · rw [same, List.drop_left] at sent
    obtain rfl := List.mem_singleton.mp sent
    exact ⟨u, building⟩

theorem request_of_exchange {request : Http.Request} (quiet : Quiet building)
    (still : ∀ reply u, (run u (rest reply)).2.requests = u.requests) (fresh : s.requests = [])
    (sent : request ∈ (run s (exchange building answer isStreamed rest)).2.requests) :
    (run s (exchange building answer isStreamed rest)).2.requests = [request] ∧
      ∃ u, run s building = (.ok request, u) := by
  rcases requests_of_exchange quiet still with same | ⟨built, u, building, same⟩
  · rw [same, fresh] at sent
    cases sent
  · rw [same, fresh, List.nil_append] at sent
    obtain rfl := List.mem_singleton.mp sent
    exact ⟨by rw [same, fresh, List.nil_append], u, building⟩

/-- An exchange that gives a result had its request built and its reply accepted. -/
theorem exchange_eq_ok {a : α} (run : run s (exchange building answer isStreamed rest) = (.ok a, t)) :
    ∃ request u reply v, Session.run s building = (.ok request, u) ∧ answer = .ok reply ∧
      Accepted request reply isStreamed ∧ Session.run v (rest reply) = (.ok a, t) := by
  obtain ⟨request, u, built, run⟩ := run_bind_eq_ok.mp run
  obtain ⟨reply, v, sent, run⟩ := run_bind_eq_ok.mp run
  obtain ⟨answered, accepted⟩ := accepted_of_send sent
  exact ⟨request, u, reply, v, built, answered, accepted, run⟩

theorem run_exchange {request : Http.Request} {u : Session} (built : run s building = (.ok request, u))
    (accepted : Accepted request reply isStreamed) :
    ∃ v, v.written = u.written ∧ run s (exchange building (.ok reply) isStreamed rest) = run v (rest reply) := by
  rw [exchange, run_bind_ok built]
  have received := run_send (s := u) accepted
  have written := (sent_by_send u request (.ok reply) isStreamed).2
  rcases sent : run u (send request (.ok reply) isStreamed) with ⟨outcome, v⟩
  rw [sent] at received written
  obtain rfl : outcome = .ok reply := received
  exact ⟨v, written, run_bind_ok sent⟩

end

end Client

end ProxyControl
