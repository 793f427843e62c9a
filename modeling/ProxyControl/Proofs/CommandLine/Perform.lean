import ProxyControl.CommandLine.Perform
import ProxyControl.Proofs.Exchange
import ProxyControl.Proofs.Policy.Printed

namespace ProxyControl.CommandLine

open Session

variable {α : Type} {s t : Session} {operation : Text} {isMeant : Failure → Bool} {call : Call α}

theorem run_reporting : Session.run s (reporting operation isMeant call) =
    match Session.run s call with
    | (.ok a, t) => (.ok a, t)
    | (.error failure, t) => (.error (if isMeant failure then .command operation failure else failure), t) := by
  rw [reporting, run_tryCatch]
  rcases Session.run s call with ⟨failure | a, t⟩
  · rfl
  · rfl

theorem run_reporting_eq_ok {a : α} :
    Session.run s (reporting operation isMeant call) = (.ok a, t) ↔ Session.run s call = (.ok a, t) := by
  rw [run_reporting]
  rcases Session.run s call with ⟨failure | b, u⟩
  · simp
  · rfl

theorem unsent_say (message : Text) : Unsent (say message) := unsent_write _

/-- What a reply says about a policy. -/
def policyOf (reply : Http.Reply) : Outcome Autoscale := do
  Autoscale.validate (← documentOf (← reply.body))

/-- The integers of a policy that a reply describes can be printed. -/
theorem printable_of_policyOf {reply : Http.Reply} {policy : Autoscale} (found : policyOf reply = .ok policy) :
    ∀ n ∈ policy.payload.integers, Json.Printable n := by
  obtain ⟨body, _, found⟩ := bind_eq_ok.mp found
  obtain ⟨document, read, accepted⟩ := bind_eq_ok.mp found
  exact Autoscale.printable_of_documentOf read accepted

/-- Tells about the expressions without a description, and writes the policy. -/
def showing (asJson : Bool) (policy : Autoscale) : Call Unit := do
  if !asJson then
    for record in policy.undescribed do
      note record
  write (← ofOutcome (policy.rendered asJson))

section

variable {asJson : Bool} {policy : Autoscale}

/-- What is told beforehand goes to the log alone. -/
theorem run_showing (asJson : Bool) (policy : Autoscale) (s : Session) :
    ∃ records, Session.run s (showing asJson policy) =
      Session.run { s with records := s.records ++ records } (ofOutcome (policy.rendered asJson) >>= write) := by
  have noted (list : List Record) (s : Session) : ∃ records,
      Session.run s (forIn list PUnit.unit fun record _ => do note record; pure (ForInStep.yield PUnit.unit)) =
        (.ok PUnit.unit, { s with records := s.records ++ records }) := by
    induction list generalizing s with
    | nil => exact ⟨[], by rw [List.append_nil]; rfl⟩
    | cons record list ih =>
      obtain ⟨records, ends⟩ := ih { s with records := s.records ++ [record] }
      rw [List.append_assoc] at ends
      refine ⟨record :: records, ?_⟩
      rw [List.forIn_cons]
      exact ends
  unfold showing
  cases asJson with
  | true => exact ⟨[], by rw [List.append_nil]; rfl⟩
  | false =>
    obtain ⟨records, ends⟩ := noted policy.undescribed s
    exact ⟨records, run_bind_ok ends⟩

theorem unsent_showing (asJson : Bool) (policy : Autoscale) : Unsent (showing asJson policy) := fun s => by
  obtain ⟨records, same⟩ := run_showing asJson policy s
  rw [same]
  exact (quiet_ofOutcome _).unsent.bind (fun _ => unsent_write _) _

/-- Showing a policy fails only in faults. -/
theorem failsAs_showing {holds : Failure → Prop} (held : ∀ kind message, holds (.fault kind message)) (asJson : Bool)
    (policy : Autoscale) : FailsAs holds (showing asJson policy) := by
  intro s failure t ends
  obtain ⟨records, same⟩ := run_showing asJson policy s
  rw [same] at ends
  refine FailsAs.bind (failsAs_ofOutcome fun failure fails => ?_) (fun _ => failsAs_write _ (held .encoding)) _ _ _ ends
  rw [printing_eq_error fails]
  exact held .value _

variable (printable : ∀ n ∈ policy.payload.integers, Json.Printable n)

include printable

theorem run_showing_of_unicode (unicode : (policy.render asJson).IsUnicode) (s : Session) :
    ∃ records, Session.run s (showing asJson policy) =
      (.ok (), { s with records := s.records ++ records, written := s.written ++ policy.render asJson }) := by
  obtain ⟨records, same⟩ := run_showing asJson policy s
  refine ⟨records, ?_⟩
  rw [same, Autoscale.rendered_eq_ok.mpr ⟨printable, rfl⟩, run_bind_ok (run_ofOutcome _), run_write unicode]

/-- Of a policy that has no encoding as it is shown, nothing is written. -/
theorem run_showing_of_bare (bare : ¬ (policy.render asJson).IsUnicode) (s : Session) :
    ∃ records message, Session.run s (showing asJson policy) =
      (.error (.fault .encoding message), { s with records := s.records ++ records }) := by
  obtain ⟨records, same⟩ := run_showing asJson policy s
  obtain ⟨message, fails⟩ := run_write_of_bare (s := { s with records := s.records ++ records }) bare
  refine ⟨records, message, ?_⟩
  rw [same, Autoscale.rendered_eq_ok.mpr ⟨printable, rfl⟩, run_bind_ok (run_ofOutcome _), fails]

end

/-- The end of a command that changes something: an exchange, and then its confirmation. -/
def confirming (building : Call Http.Request) (operation : Text) (answer : Http.Answer) (confirmation : Text) :
    Call Unit := do
  reporting operation ofPolicyExchange (Client.exchange building answer false fun _ => pure ())
  say confirmation

section

variable {building : Call Http.Request} {answer : Http.Answer} {confirmation : Text} {request : Http.Request}

theorem request_of_confirming (quiet : Quiet building) (fresh : s.requests = [])
    (sent : request ∈ (Session.run s (confirming building operation answer confirmation)).2.requests) :
    (Session.run s (confirming building operation answer confirmation)).2.requests = [request] ∧
      ∃ u, Session.run s building = (.ok request, u) := by
  have same : (Session.run s (confirming building operation answer confirmation)).2.requests =
      (Session.run s (Client.exchange building answer false fun _ => pure ())).2.requests := by
    rw [confirming, run_bind, run_reporting]
    rcases Session.run s (Client.exchange building answer false fun _ => pure ()) with ⟨failure | _, u⟩
    · rfl
    · exact unsent_say confirmation u
  rw [same] at sent ⊢
  exact Client.request_of_exchange quiet (fun _ _ => rfl) fresh sent

end

namespace Command

variable {context : Context} {answer : Http.Answer} {service target : Option Text} {flags : UpdateFlags}
  {request : Http.Request}

theorem perform_showPolicy (asJson : Bool) : perform context answer (.showPolicy service target asJson) = (do
    let client ← ofOutcome (context.client service)
    let policy ← reporting "could not get autoscale from RPaaS API" ofPolicyExchange
      (client.getAutoscale (target.getD []) answer)
    showing asJson policy) := rfl

/-- The request of an update, which has the policy for its content. -/
def updateRequest (client : Client) (target : Option Text) (policy : Autoscale) : Call Http.Request :=
  client.request .patch (target.getD []) "autoscale" [] (some policy.payload) (some client.timeout)

def removeRequest (client : Client) (target : Option Text) : Call Http.Request :=
  client.request .delete (target.getD []) "autoscale" [] none (some client.timeout)

/-- The line that confirms a command. -/
def confirmation? : Command → Option Text
  | updatePolicy service target _ => some ("Autoscale of " ++ instanceLabel service target ++ " successfully updated!")
  | removePolicy service target => some ("Autoscale of " ++ instanceLabel service target ++ " successfully removed")
  | _ => none

/-- An update that gets as far as its request has a policy and a client, and has written nothing yet. -/
theorem run_updatePolicy
    (sends : (Session.run {} (perform context answer (.updatePolicy service target flags))).2.requests ≠ []) :
    ∃ policy client operation confirmation u, flags.policy = .ok policy ∧ context.client service = .ok client ∧
      confirmation? (.updatePolicy service target flags) = some confirmation ∧ u.requests = [] ∧ u.written = [] ∧
      Session.run {} (perform context answer (.updatePolicy service target flags)) =
        Session.run u (confirming (updateRequest client target policy) operation answer confirmation) := by
  rw [perform, run_bind, run_ofOutcome] at sends ⊢
  cases described : flags.policy with
  | error failure =>
    rw [described] at sends
    exact absurd rfl sends
  | ok policy =>
    rw [described] at sends
    dsimp only at sends ⊢
    rw [run_bind_ok (run_note _), run_bind, run_ofOutcome] at sends ⊢
    cases found : context.client service with
    | error failure =>
      rw [found] at sends
      exact absurd rfl sends
    | ok client => exact ⟨policy, client, _, _, _, rfl, rfl, rfl, rfl, rfl, rfl⟩

/-- The integers of a policy that was fetched can be printed. -/
theorem printable_of_getAutoscale {client : Client} {name : Text} {policy : Autoscale} {s t : Session}
    (run : Session.run s (client.getAutoscale name answer) = (.ok policy, t)) :
    ∀ n ∈ policy.payload.integers, Json.Printable n := by
  rw [Client.getAutoscale_eq_exchange] at run
  obtain ⟨_, _, reply, _, _, _, _, found⟩ := Client.exchange_eq_ok run
  exact printable_of_policyOf (run_ofOutcome_eq_ok.mp found).1

/-- What showing a policy sends is what fetching it sends. -/
theorem requests_of_showPolicy {client : Client} (found : context.client service = .ok client) (asJson : Bool) :
    (Session.run {} (perform context answer (.showPolicy service target asJson))).2.requests =
      (Session.run {} (client.getAutoscale (target.getD []) answer)).2.requests := by
  rw [perform_showPolicy, run_bind, run_ofOutcome, found]
  dsimp only
  rw [run_bind, run_reporting]
  rcases Session.run {} (client.getAutoscale (target.getD []) answer) with ⟨failure | policy, v⟩
  · rfl
  · exact unsent_showing asJson policy v

/-- Showing a policy as JSON is fetching it and writing it. -/
theorem run_showPolicy
    (sent : request ∈ (Session.run {} (perform context answer (.showPolicy service target true))).2.requests) :
    ∃ client u, context.client service = .ok client ∧
      Session.run {} (client.request .get (target.getD []) "autoscale" [] none (some client.timeout)) =
        (.ok request, u) ∧
      ∀ {policy : Autoscale} {v : Session},
        Session.run {} (client.getAutoscale (target.getD []) answer) = (.ok policy, v) →
          ∃ records, Session.run {} (perform context answer (.showPolicy service target true)) =
            (.ok (), { v with records := v.records ++ records, written := v.written ++ policy.renderJson }) := by
  cases found : context.client service with
  | error failure =>
    rw [perform_showPolicy, run_bind, run_ofOutcome, found] at sent
    cases sent
  | ok client =>
    rw [requests_of_showPolicy found, Client.getAutoscale_eq_exchange] at sent
    have still {outcome : Outcome Autoscale} (u : Session) :
        (Session.run u (ofOutcome outcome)).2.requests = u.requests := by
      rw [run_ofOutcome]
    obtain ⟨_, u, built⟩ := Client.request_of_exchange Client.quiet_request (fun _ u => still u) rfl sent
    refine ⟨client, u, rfl, built, fun {policy v} run => ?_⟩
    rw [perform_showPolicy, run_bind, run_ofOutcome, found]
    dsimp only
    rw [run_bind_ok (run_reporting_eq_ok.mpr run)]
    exact run_showing_of_unicode (printable_of_getAutoscale run) policy.isUnicode_render_json v

/-- Every request of an update comes from its policy. -/
theorem request_of_updatePolicy
    (sent : request ∈ (Session.run {} (perform context answer (.updatePolicy service target flags))).2.requests) :
    ∃ policy client u v, flags.policy = .ok policy ∧ context.client service = .ok client ∧
      Session.run u (updateRequest client target policy) = (.ok request, v) := by
  obtain ⟨policy, client, _, _, u, described, found, _, fresh, _, run⟩ := run_updatePolicy (List.ne_nil_of_mem sent)
  rw [run] at sent
  obtain ⟨_, v, built⟩ := request_of_confirming Client.quiet_request fresh sent
  exact ⟨policy, client, u, v, described, found, built⟩

end Command

end ProxyControl.CommandLine
