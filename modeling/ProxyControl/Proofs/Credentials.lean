import ProxyControl.Proofs.Exchange
import ProxyControl.Proofs.Parallel

namespace ProxyControl.Client

open Session

/-- Two clients that differ at most in what they tell about who uses them. -/
structure Alike (left right : Client) : Prop where
  route : left.route = right.route
  baseUrl : left.baseUrl = right.baseUrl
  timeout : left.timeout = right.timeout
  encoding : left.checkEncoding = right.checkEncoding
  agent : left.header? "user-agent" = right.header? "user-agent"

variable {left right : Client} {first second : Http.Request} {answer : Http.Answer} {isStreamed : Bool}

theorem Alike.of_eq (same : left = right) : left.Alike right := by
  cases same
  exact ⟨rfl, rfl, rfl, rfl, rfl⟩

theorem parallel_connect (alike : left.Alike right) : Parallel Eq left.connect right.connect := by
  unfold connect
  rw [alike.baseUrl, alike.encoding]
  refine (parallel_ofOutcome _).bind_eq fun base => parallel_get.bind fun {s t} sessions => ?_
  rw [(anonymous_eq_iff.mp sessions).1]
  split
  · exact parallel_pure rfl
  · refine (parallel_ofOutcome _).bind_eq fun _ => Parallel.bind_eq (parallel_modify fun {s t} sessions => ?_) fun _ =>
      parallel_pure rfl
    obtain ⟨_, requests, records, written⟩ := anonymous_eq_iff.mp sessions
    exact anonymous_eq_iff.mpr ⟨rfl, requests, records, written⟩

/-- The requests that two such clients build are the same, apart from who sends them. -/
theorem parallel_request (alike : left.Alike right) (method : Http.Method) (target resource : Text)
    (parameters : List (Text × Text)) (document : Option Json) (readLimit : Option Binary64) :
    Parallel (fun first second => first.anonymous = second.anonymous)
      (left.request method target resource parameters document readLimit)
      (right.request method target resource parameters document readLimit) := by
  unfold Client.request
  rw [alike.route, alike.timeout, alike.agent]
  dsimp only
  split
  · exact (parallel_throw _).bind_failing _ _
  · refine (parallel_ofOutcome _).bind_eq fun (path, query) => (parallel_connect alike).bind_eq fun base => ?_
    exact (parallel_ofOutcome _).bind_eq fun _ => (parallel_ofOutcome _).bind_eq fun _ =>
      (parallel_ofOutcome _).bind_eq fun _ => (parallel_connect alike).bind_eq fun _ => parallel_pure rfl

theorem parallel_breakDown {α : Type} {related : α → α → Prop} (request : Http.Request) (failure : Failure) :
    Parallel related (breakDown request failure) (breakDown request failure) := by
  unfold breakDown
  split
  · exact (parallel_note _).bind_eq fun _ => parallel_throw _
  · exact parallel_throw _

theorem parallel_settle (request : Http.Request) (reply : Http.Reply) :
    Parallel Eq (settle request reply) (settle request reply) := by
  unfold settle
  refine (parallel_note _).bind_eq fun _ => ?_
  dsimp only
  split
  · exact (parallel_ofOutcome _).bind_eq fun _ => (parallel_note _).bind_eq fun _ =>
      (parallel_throw _).bind_failing _ _
  · exact parallel_pure rfl

/-- Where a reply leads depends on the URL of its request, and not on who sends it. -/
theorem checkLocation_of_anonymous (same : first.anonymous = second.anonymous) (reply : Http.Reply) :
    checkLocation first reply = checkLocation second reply := by
  cases first
  cases second
  cases same
  rfl

/-- Sending tells nothing about who sends a request, except in the request itself. -/
theorem parallel_send (same : first.anonymous = second.anonymous) :
    Parallel Eq (send first answer isStreamed) (send second answer isStreamed) := by
  have location := checkLocation_of_anonymous same
  obtain ⟨authorization, rfl⟩ : ∃ authorization, second = { first with authorization } := by
    cases first
    cases second
    cases same
    exact ⟨_, rfl⟩
  unfold send
  refine (parallel_note _).bind_eq fun _ => (parallel_sent same).bind_eq fun _ => ?_
  cases answer with
  | error failure => exact parallel_breakDown first failure
  | ok reply =>
    dsimp only
    rw [location reply]
    split
    · exact (parallel_throw _).bind_failing _ _
    refine (parallel_note _).bind_eq fun _ => ?_
    split
    · exact (parallel_breakDown first _).bind_failing _ _
    split
    · split
      · exact (parallel_breakDown first _).bind_failing _ _
      · exact parallel_settle first reply
    · exact parallel_settle first reply

theorem parallel_exchange {α : Type} {building building' : Call Http.Request} {rest : Http.Reply → Call α}
    (built : Parallel (fun first second => first.anonymous = second.anonymous) building building')
    (later : ∀ reply, Parallel Eq (rest reply) (rest reply)) :
    Parallel Eq (exchange building answer isStreamed rest) (exchange building' answer isStreamed rest) :=
  built.bind fun same => (parallel_send same).bind_eq later

theorem parallel_writeArriving (reply : Http.Reply) : Parallel Eq (writeArriving reply) (writeArriving reply) := by
  unfold writeArriving
  dsimp only
  refine (parallel_write _).bind_eq fun _ => ?_
  split
  · exact parallel_throw _
  · exact parallel_pure rfl

variable (alike : left.Alike right) (target : Text) (answer : Http.Answer)

include alike

theorem parallel_getAutoscale : Parallel Eq (left.getAutoscale target answer) (right.getAutoscale target answer) := by
  rw [getAutoscale_eq_exchange, getAutoscale_eq_exchange, alike.timeout]
  exact parallel_exchange (parallel_request alike _ _ _ _ _ _) fun _ => parallel_ofOutcome _

theorem parallel_updateAutoscale (policy : Autoscale) :
    Parallel Eq (left.updateAutoscale target policy answer) (right.updateAutoscale target policy answer) := by
  rw [updateAutoscale_eq_exchange, updateAutoscale_eq_exchange, alike.timeout]
  exact parallel_exchange (parallel_request alike _ _ _ _ _ _) fun _ => parallel_pure rfl

theorem parallel_removeAutoscale :
    Parallel Eq (left.removeAutoscale target answer) (right.removeAutoscale target answer) := by
  rw [removeAutoscale_eq_exchange, removeAutoscale_eq_exchange, alike.timeout]
  exact parallel_exchange (parallel_request alike _ _ _ _ _ _) fun _ => parallel_pure rfl

theorem parallel_log (args : LogArgs) : Parallel Eq (left.log args answer) (right.log args answer) := by
  rw [log_eq_exchange, log_eq_exchange, logRequest, logRequest, alike.timeout]
  exact parallel_exchange ((parallel_ofOutcome _).bind_eq fun _ => parallel_request alike _ _ _ _ _ _)
    parallel_writeArriving

end ProxyControl.Client
