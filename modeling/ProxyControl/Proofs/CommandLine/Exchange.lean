import ProxyControl.Proofs.CommandLine.Perform

namespace ProxyControl.CommandLine

open Session

/-- What a command does with the API: a request is built and sent, its reply is received, and something is made of what
was found in it. Nothing but sending the request sends one, and once it is on its way nothing is refused. -/
structure Exchange where
  operation : Text
  isMeant : Failure → Bool
  building : Call Http.Request
  isStreamed : Bool
  Found : Type
  received : Http.Reply → Call Found
  finish : Found → Call Unit
  meant : ∀ failure, ofExchange failure = true → isMeant failure = true
  quiet : Quiet building
  unsent_received : ∀ reply, Unsent (received reply)
  unsent_finish : ∀ found, Unsent (finish found)
  unrefused_received : ∀ reply, (∀ failure ∈ Http.failuresOf (.ok reply), failure.isRefusal = false) →
    FailsAs (fun failure => failure.isRefusal = false) (received reply)
  unrefused_finish : ∀ found, FailsAs (fun failure => failure.isRefusal = false) (finish found)

namespace Exchange

variable (e : Exchange) {answer : Http.Answer} {request : Http.Request} {s t : Session}

/-- The exchange from the time when its request is built. -/
def conduct (answer : Http.Answer) (request : Http.Request) : Call Unit := do
  let found ← reporting e.operation e.isMeant (do
    let reply ← Client.send request answer e.isStreamed
    e.received reply)
  e.finish found

/-- A failure as the exchange reports it. -/
def reported (failure : Failure) : Failure := if e.isMeant failure then .command e.operation failure else failure

theorem run_conduct (answer : Http.Answer) (request : Http.Request) (s : Session) :
    Session.run s (e.conduct answer request) =
      match Session.run s (Client.send request answer e.isStreamed >>= e.received) with
      | (.ok found, t) => Session.run t (e.finish found)
      | (.error failure, t) => (.error (e.reported failure), t) := by
  rw [conduct, run_bind, run_reporting]
  rcases Session.run s (Client.send request answer e.isStreamed >>= e.received) with ⟨failure | found, t⟩
  · rfl
  · rfl

theorem requests_of_conduct (answer : Http.Answer) (request : Http.Request) (s : Session) :
    (Session.run s (e.conduct answer request)).2.requests = s.requests ++ [request] := by
  have sent : (Session.run s (Client.send request answer e.isStreamed >>= e.received)).2.requests =
      s.requests ++ [request] := by
    have after := (Client.sent_by_send s request answer e.isStreamed).1
    rw [run_bind]
    rcases ends : Session.run s (Client.send request answer e.isStreamed) with ⟨failure | reply, t⟩
    · rw [ends] at after
      exact after
    · rw [ends] at after
      exact (e.unsent_received reply t).trans after
  rw [run_conduct]
  rcases ends : Session.run s (Client.send request answer e.isStreamed >>= e.received) with ⟨failure | found, t⟩
  · rw [ends] at sent
    exact sent
  · rw [ends] at sent
    exact (e.unsent_finish found t).trans sent

/-- Nothing that happens after the request is sent is a refusal. -/
theorem unrefused_conduct (foreign : ∀ failure ∈ Http.failuresOf answer, failure.isRefusal = false)
    (request : Http.Request) : FailsAs (fun failure => failure.isRefusal = false) (e.conduct answer request) := by
  have unrefused : FailsAs (fun failure => failure.isRefusal = false)
      (Client.send request answer e.isStreamed >>= e.received) := by
    refine (Client.failsAs_send foreign).bind_of_ok fun {_ reply _} sent => ?_
    rw [(Client.accepted_of_send sent).1] at foreign
    exact e.unrefused_received reply foreign
  intro s failure t ends
  rw [run_conduct] at ends
  rcases inner : Session.run s (Client.send request answer e.isStreamed >>= e.received) with ⟨cause | found, u⟩
  · rw [inner] at ends
    cases ends
    rw [reported]
    split
    · rfl
    · exact unrefused s cause t inner
  · rw [inner] at ends
    exact e.unrefused_finish found u failure t ends

end Exchange

theorem meant_of_ofExchange (failure : Failure) (own : ofExchange failure = true) :
    ofPolicyExchange failure = true := by
  cases failure with
  | api error => rfl
  | broken kind message => rfl
  | _ => cases own

theorem quiet_asking (found : Outcome Client) {building : Client → Call Http.Request}
    (quiet : ∀ client, Quiet (building client)) : Quiet (do let client ← ofOutcome found; building client) :=
  (quiet_ofOutcome found).bind quiet

theorem invalidData_of_validate {document : Json} {failure : Failure}
    (fails : Autoscale.validate document = .error failure) : ∃ report, failure = .invalidData report := by
  obtain ⟨report, _, rfl⟩ := mapError_eq_error.mp fails
  exact ⟨report, rfl⟩

theorem unrefused_policyOf {reply : Http.Reply}
    (foreign : ∀ failure ∈ Http.failuresOf (.ok reply), failure.isRefusal = false) {failure : Failure}
    (fails : policyOf reply = .error failure) : failure.isRefusal = false := by
  rcases bind_eq_error.mp fails with broken | ⟨body, _, fails⟩
  · exact foreign failure (Http.Reply.failure_of_body broken)
  rcases bind_eq_error.mp fails with unread | ⟨document, _, invalid⟩
  · obtain ⟨_, _, rfl⟩ := fault_of_documentOf unread
    rfl
  · obtain ⟨_, rfl⟩ := invalidData_of_validate invalid
    rfl

namespace Command

variable (context : Context) (service target : Option Text)

/-- A policy is fetched and shown. -/
def showPolicyExchange (asJson : Bool) : Exchange where
  operation := "could not get autoscale from RPaaS API"
  isMeant := ofPolicyExchange
  building := do
    let client ← ofOutcome (context.client service)
    client.request .get (target.getD []) "autoscale" [] none (some client.timeout)
  isStreamed := false
  Found := Autoscale
  received reply := ofOutcome (policyOf reply)
  finish := showing asJson
  meant := meant_of_ofExchange
  quiet := quiet_asking _ fun _ => Client.quiet_request
  unsent_received _ := (quiet_ofOutcome _).unsent
  unsent_finish := unsent_showing asJson
  unrefused_received _ foreign := failsAs_ofOutcome fun _ => unrefused_policyOf foreign
  unrefused_finish policy := failsAs_showing (fun _ _ => rfl) asJson policy

/-- A policy is sent, and that is confirmed. -/
def updatePolicyExchange (flags : UpdateFlags) : Exchange where
  operation := "could not update the autoscale on RPaaS API"
  isMeant := ofPolicyExchange
  building := do
    let policy ← ofOutcome flags.policy
    note ⟨.debug, "rpaasv2.cli.commands.autoscale", "Autoscale update payload",
      [("instance", target.elim .null .text), ("payload", policy.payload)]⟩
    let client ← ofOutcome (context.client service)
    updateRequest client target policy
  isStreamed := false
  Found := Unit
  received _ := pure ()
  finish _ := say ("Autoscale of " ++ instanceLabel service target ++ " successfully updated!")
  meant := meant_of_ofExchange
  quiet := (quiet_ofOutcome _).bind fun _ => (quiet_note _).bind fun _ => quiet_asking _ fun _ => Client.quiet_request
  unsent_received _ := (quiet_pure ()).unsent
  unsent_finish _ := unsent_write _
  unrefused_received _ _ := failsAs_pure ()
  unrefused_finish _ := failsAs_write _ fun _ => rfl

/-- A policy is removed, and that is confirmed. -/
def removePolicyExchange : Exchange where
  operation := "could not delete the autoscale on RPaaS API"
  isMeant := ofPolicyExchange
  building := do
    let client ← ofOutcome (context.client service)
    removeRequest client target
  isStreamed := false
  Found := Unit
  received _ := pure ()
  finish _ := say ("Autoscale of " ++ instanceLabel service target ++ " successfully removed")
  meant := meant_of_ofExchange
  quiet := quiet_asking _ fun _ => Client.quiet_request
  unsent_received _ := (quiet_pure ()).unsent
  unsent_finish _ := unsent_write _
  unrefused_received _ _ := failsAs_pure ()
  unrefused_finish _ := failsAs_write _ fun _ => rfl

/-- A log is fetched and written as it arrives. -/
def showLogExchange (flags : LogFlags) : Exchange where
  operation := "could not get logs from RPaaS API"
  isMeant := ofExchange
  building := do
    let args ← ofOutcome flags.args
    let client ← ofOutcome (context.client service)
    client.logRequest args
  isStreamed := true
  Found := Unit
  received := Client.writeArriving
  finish _ := pure ()
  meant _ own := own
  quiet := (quiet_ofOutcome _).bind fun _ => quiet_asking _ fun _ => Client.quiet_logRequest
  unsent_received reply := Client.requests_of_writeArriving reply
  unsent_finish _ := (quiet_pure ()).unsent
  unrefused_received _ foreign := Client.failsAs_writeArriving foreign
  unrefused_finish _ := failsAs_pure ()

/-- The exchange of a command, if it has one. -/
def exchange? (context : Context) : Command → Option Exchange
  | version => none
  | showPolicy service target asJson => some (showPolicyExchange context service target asJson)
  | updatePolicy service target flags => some (updatePolicyExchange context service target flags)
  | removePolicy service target => some (removePolicyExchange context service target)
  | showLog service flags => some (showLogExchange context service flags)

variable {context} {service target}

/-- Commands report no failure of building a request under their own name. -/
theorem not_meant_of_unbuilt {failure : Failure} (unbuilt : Client.Unbuilt failure) :
    ofPolicyExchange failure = false ∧ ofExchange failure = false := by
  cases unbuilt with
  | refused refusal => exact ⟨rfl, rfl⟩
  | fault kind message => exact ⟨rfl, rfl⟩

theorem run_reporting_exchange {e : Exchange} {building : Call Http.Request} {answer : Http.Answer} {s : Session}
    (unbuilt : FailsAs Client.Unbuilt building)
    (unmeant : ∀ failure, Client.Unbuilt failure → e.isMeant failure = false) :
    Session.run s (do
        let found ← reporting e.operation e.isMeant (Client.exchange building answer e.isStreamed e.received)
        e.finish found) =
      match Session.run s building with
      | (.ok request, t) => Session.run t (e.conduct answer request)
      | (.error failure, t) => (.error failure, t) := by
  -- The request is built inside the report, which lets the failures of building pass.
  rw [run_bind, run_reporting, Client.exchange, run_bind]
  rcases built : Session.run s building with ⟨failure | request, t⟩
  · dsimp only
    rw [unmeant failure (unbuilt s failure t built)]
    rfl
  · dsimp only
    rw [e.run_conduct]
    rcases Session.run t (Client.send request answer e.isStreamed >>= e.received) with ⟨failure | found, u⟩
    · rfl
    · rfl

/-- What has to be known before a request can be built fails a command as it fails the building. -/
theorem run_asking {α : Type} {found : Outcome α} {building : α → Call Http.Request} {rest : α → Call Unit}
    {conduct : Http.Request → Call Unit} {s : Session}
    (each : ∀ a, Session.run s (rest a) =
      match Session.run s (building a) with
      | (.ok request, t) => Session.run t (conduct request)
      | (.error failure, t) => (.error failure, t)) :
    Session.run s (do let a ← ofOutcome found; rest a) =
      match Session.run s (do let a ← ofOutcome found; building a) with
      | (.ok request, t) => Session.run t (conduct request)
      | (.error failure, t) => (.error failure, t) := by
  rw [run_bind, run_bind, run_ofOutcome]
  cases found with
  | error failure => rfl
  | ok a => exact each a

/-- A command with an exchange builds its request, and goes on with the exchange if that succeeds. -/
theorem run_perform {command : Command} {e : Exchange} (asks : command.exchange? context = some e)
    (answer : Http.Answer) (s : Session) :
    Session.run s (command.perform context answer) =
      match Session.run s e.building with
      | (.ok request, t) => Session.run t (e.conduct answer request)
      | (.error failure, t) => (.error failure, t) := by
  cases command with
  | version => cases asks
  | showPolicy service target asJson =>
    cases asks
    refine run_asking fun client => ?_
    exact run_reporting_exchange (e := showPolicyExchange context service target asJson) Client.failsAs_request
      fun _ unbuilt => (not_meant_of_unbuilt unbuilt).1
  | updatePolicy service target flags =>
    cases asks
    refine run_asking fun policy => ?_
    rw [run_bind_ok (run_note _), run_bind_ok (run_note _)]
    refine run_asking fun client => ?_
    exact run_reporting_exchange (e := updatePolicyExchange context service target flags) Client.failsAs_request
      fun _ unbuilt => (not_meant_of_unbuilt unbuilt).1
  | removePolicy service target =>
    cases asks
    refine run_asking fun client => ?_
    exact run_reporting_exchange (e := removePolicyExchange context service target) Client.failsAs_request
      fun _ unbuilt => (not_meant_of_unbuilt unbuilt).1
  | showLog service flags =>
    cases asks
    refine run_asking fun args => run_asking fun client => ?_
    -- Nothing follows a log, and the exchange ends with nothing.
    rw [← run_bind_pure]
    exact run_reporting_exchange (e := showLogExchange context service flags) Client.failsAs_logRequest
      fun _ unbuilt => (not_meant_of_unbuilt unbuilt).2

/-- A command whose request is built goes on with its exchange, and that sends the request alone. -/
theorem run_perform_of_built {command : Command} {e : Exchange} {request : Http.Request} {t : Session}
    (asks : command.exchange? context = some e) (built : Session.run {} e.building = (.ok request, t))
    (answer : Http.Answer) :
    Session.run {} (command.perform context answer) = Session.run t (e.conduct answer request) ∧
      (Session.run t (e.conduct answer request)).2.requests = [request] ∧ t.written = [] := by
  obtain ⟨unsent, unwritten⟩ := e.quiet.unchanged built
  refine ⟨?_, ?_, unwritten⟩
  · rw [run_perform asks, built]
  · rw [e.requests_of_conduct, unsent]
    rfl

end Command

end ProxyControl.CommandLine
