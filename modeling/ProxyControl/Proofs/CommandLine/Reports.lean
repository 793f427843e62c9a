import ProxyControl.Proofs.CommandLine.ErrorLine
import ProxyControl.Proofs.CommandLine.Exchange
import ProxyControl.Proofs.Json.Numeral

namespace ProxyControl.CommandLine

/-- The command of an invocation and the context that it is carried out in, if it gets that far. -/
def reached? (surroundings : Surroundings) (words : List Text) : Option (Command × Context) := do
  let invocation ← (Invocation.ofWords words).toOption
  let command ← (Command.ofInvocation invocation).toOption
  let (config, _, _) ← (invocation.prepare surroundings.environment surroundings.files).toOption
  return (command, ({} : Context).configure surroundings.environment.settings (some config) invocation.target)

/-- A result that tells, after the log lines, what an operation failed with: nothing is written, one request was sent,
and the error stream ends with the error line. -/
structure Result.Reports (result : Result) (request : Http.Request) (operation told : Text) : Prop where
  ending : ∃ cause, result.ending = .failed (.command operation cause)
  status : result.ending.status = 1
  output : result.output = []
  requests : result.requests = [request]
  errors : ∃ before, WholeLines before ∧ result.shownErrors = before ++ errorLead operation ++ told ++ "\n"

section

variable {surroundings : Surroundings} {words : List Text} {command : Command} {context : Context} {session : Session}

theorem reached?_of_ok {invocation : Invocation} {config : Config} {logging : Logging} {files : Files}
    (read : Invocation.ofWords words = .ok invocation) (meant : Command.ofInvocation invocation = .ok command)
    (prepared : invocation.prepare surroundings.environment surroundings.files = .ok (config, logging, files)) :
    reached? surroundings words = some
      (command, ({} : Context).configure surroundings.environment.settings (some config) invocation.target) := by
  refine Option.bind_eq_some_iff.mpr ⟨invocation, toOption_eq_some.mpr read, ?_⟩
  refine Option.bind_eq_some_iff.mpr ⟨command, toOption_eq_some.mpr meant, ?_⟩
  exact Option.bind_eq_some_iff.mpr ⟨(config, logging, files), toOption_eq_some.mpr prepared, rfl⟩

theorem run_of_reached (reached : reached? surroundings words = some (command, context)) :
    ∃ invocation logging files, Command.ofInvocation invocation = .ok command ∧
      run surroundings words = invocation.carryOut surroundings logging context files := by
  obtain ⟨invocation, read, reached⟩ := Option.bind_eq_some_iff.mp reached
  obtain ⟨command, meant, reached⟩ := Option.bind_eq_some_iff.mp reached
  obtain ⟨⟨config, logging, files⟩, prepared, reached⟩ := Option.bind_eq_some_iff.mp reached
  cases reached
  rw [toOption_eq_some] at read meant prepared
  refine ⟨invocation, logging, files, meant, ?_⟩
  unfold run
  dsimp only
  rw [read]
  dsimp only
  rw [prepared]

variable {e : Exchange} {request : Http.Request} {s t : Session} {failure : Failure}

/-- A command whose request cannot be built ends with the failure of that, before anything is written or sent. -/
theorem run_of_unbuilt (reached : reached? surroundings words = some (command, context))
    (asks : command.exchange? context = some e) (unbuilt : Session.run {} e.building = (.error failure, t)) :
    (run surroundings words).ending = .failed failure ∧ (run surroundings words).output = [] ∧
      (run surroundings words).requests = [] ∧
      (failure.isReported = true → ∃ before, WholeLines before ∧
        (run surroundings words).shownErrors = before ++ errorLine failure) := by
  have performed : Session.run {} (command.perform context surroundings.answer) = (.error failure, t) := by
    rw [Command.run_perform asks, unbuilt]
  obtain ⟨unsent, unwritten⟩ := e.quiet.unchanged unbuilt
  obtain ⟨_, _, _, meant, ran⟩ := run_of_reached reached
  rw [ran]
  obtain ⟨ending, output, requests, errors⟩ := carryOut_of_error meant performed
  exact ⟨ending, output.trans unwritten, requests.trans unsent, errors⟩

/-- An exchange that fails before anything is written is reported if its failure is meant, and not handled otherwise. -/
theorem run_of_failing (reached : reached? surroundings words = some (command, context))
    (asks : command.exchange? context = some e) (built : Session.run {} e.building = (.ok request, s))
    (fails : Session.run s (Client.send request surroundings.answer e.isStreamed >>= e.received) = (.error failure, t))
    (unwritten : t.written = s.written) :
    (e.isMeant failure = true → ∀ told,
        errorLine (.command e.operation failure) = errorLead e.operation ++ told ++ "\n" →
        (run surroundings words).Reports request e.operation told) ∧
      (e.isMeant failure = false → (run surroundings words).ending = .failed failure) := by
  obtain ⟨performed, sent, empty⟩ := Command.run_perform_of_built asks built surroundings.answer
  rw [e.run_conduct, fails] at performed sent
  obtain ⟨invocation, logging, files, meant, ran⟩ := run_of_reached reached
  rw [ran]
  obtain ⟨ending, output, requests, errors⟩ := carryOut_of_error meant performed
  constructor
  · intro meant told line
    rw [Exchange.reported, if_pos meant] at ending errors
    refine ⟨⟨failure, ending⟩, ?_, output.trans (unwritten.trans empty), requests.trans sent, ?_⟩
    · rw [ending]
      rfl
    · obtain ⟨before, whole, shown⟩ := errors rfl
      refine ⟨before, whole, ?_⟩
      rw [shown, line]
      simp only [List.append_assoc]
  · intro unmeant
    rwa [Exchange.reported, unmeant, if_neg Bool.false_ne_true] at ending

/-- An exchange that finishes is the whole of the invocation. -/
theorem run_of_finishing {found : e.Found} {v : Session}
    (reached : reached? surroundings words = some (command, context))
    (asks : command.exchange? context = some e) (built : Session.run {} e.building = (.ok request, s))
    (received : Session.run s (Client.send request surroundings.answer e.isStreamed >>= e.received) = (.ok found, t))
    (finished : Session.run t (e.finish found) = (.ok (), v)) :
    (run surroundings words).ending = .completed ∧ (run surroundings words).output = v.written ∧
      (run surroundings words).requests = [request] := by
  obtain ⟨performed, sent, _⟩ := Command.run_perform_of_built asks built surroundings.answer
  rw [e.run_conduct, received] at performed sent
  dsimp only at performed sent
  rw [finished] at performed sent
  obtain ⟨invocation, logging, files, meant, ran⟩ := run_of_reached reached
  rw [ran]
  obtain ⟨ending, output, requests⟩ := carryOut_of_ok meant performed
  exact ⟨ending, output, requests.trans sent⟩

/-- What fails an exchange when it finishes is not reported as its own. -/
theorem run_of_unfinished {found : e.Found} {v : Session}
    (reached : reached? surroundings words = some (command, context))
    (asks : command.exchange? context = some e) (built : Session.run {} e.building = (.ok request, s))
    (received : Session.run s (Client.send request surroundings.answer e.isStreamed >>= e.received) = (.ok found, t))
    (unfinished : Session.run t (e.finish found) = (.error failure, v)) :
    (run surroundings words).ending = .failed failure := by
  obtain ⟨performed, _, _⟩ := Command.run_perform_of_built asks built surroundings.answer
  rw [e.run_conduct, received] at performed
  dsimp only at performed
  rw [unfinished] at performed
  obtain ⟨invocation, logging, files, meant, ran⟩ := run_of_reached reached
  rw [ran]
  exact (carryOut_of_error meant performed).1

/-- What no command reports: a failure that is neither stated nor part of an exchange. -/
theorem Command.not_meant_of_fault (asks : command.exchange? context = some e) (kind : Fault) (message : Text) :
    e.isMeant (.fault kind message) = false := by
  cases command with
  | version => cases asks
  | _ =>
    cases asks
    rfl

theorem Command.printable_operation (asks : command.exchange? context = some e) : Terminal.Printable e.operation := by
  cases command with
  | version => cases asks
  | showPolicy service target asJson =>
    cases asks
    exact (by decide : Terminal.Printable ("could not get autoscale from RPaaS API" : Text))
  | updatePolicy service target flags =>
    cases asks
    exact (by decide : Terminal.Printable ("could not update the autoscale on RPaaS API" : Text))
  | removePolicy service target =>
    cases asks
    exact (by decide : Terminal.Printable ("could not delete the autoscale on RPaaS API" : Text))
  | showLog service flags =>
    cases asks
    exact (by decide : Terminal.Printable ("could not get logs from RPaaS API" : Text))

/-- A request that fails to be answered well fails the exchange before anything is written. -/
theorem run_of_failing_send (reached : reached? surroundings words = some (command, context))
    (asks : command.exchange? context = some e) (built : Session.run {} e.building = (.ok request, s))
    (fails : (Session.run s (Client.send request surroundings.answer e.isStreamed)).1 = .error failure) :
    (ofExchange failure = true → Terminal.Printable failure.message →
        (run surroundings words).Reports request e.operation failure.message) ∧
      (e.isMeant failure = false → (run surroundings words).ending = .failed failure) := by
  have unwritten := (Client.sent_by_send s request surroundings.answer e.isStreamed).2
  rcases sent : Session.run s (Client.send request surroundings.answer e.isStreamed) with ⟨outcome, t⟩
  rw [sent] at fails unwritten
  cases fails
  have failed : Session.run s (Client.send request surroundings.answer e.isStreamed >>= e.received) =
      (.error failure, t) := by
    rw [Session.run_bind, sent]
  obtain ⟨reports, unhandled⟩ := run_of_failing reached asks built failed unwritten
  refine ⟨fun own printable => reports (e.meant failure own) _ ?_, unhandled⟩
  exact errorLine_of_printable (Command.printable_operation asks) printable

/-- What is reported is no fault. -/
theorem Result.Reports.not_fault {result : Result} {operation told : Text}
    (reports : result.Reports request operation told) (kind : Fault) (message : Text) :
    result.ending ≠ .failed (.fault kind message) := by
  intro ends
  obtain ⟨cause, failed⟩ := reports.ending
  rw [ends] at failed
  cases failed

/-- An answer to a request whose URL has no scheme is lost in a fault. -/
theorem run_of_schemeless {reply : Http.Reply} (reached : reached? surroundings words = some (command, context))
    (asks : command.exchange? context = some e) (built : Session.run {} e.building = (.ok request, s))
    (answered : surroundings.answer = .ok reply) (schemeless : request.url.scheme = []) :
    ∃ message, (run surroundings words).ending = .failed (.fault .value message) := by
  have fails : ∃ message, (Session.run s (Client.send request surroundings.answer e.isStreamed)).1 =
      .error (.fault .value message) := by
    rw [answered]
    exact Client.run_send_of_schemeless schemeless
  obtain ⟨message, fails⟩ := fails
  exact ⟨message, (run_of_failing_send reached asks built fails).2 (Command.not_meant_of_fault asks .value message)⟩

theorem printable_statusText {status : Nat} {reason : Text} (printable : Terminal.Printable reason) :
    Terminal.Printable (Text.ofNat status ++ " " ++ reason) := by
  have digits : Terminal.Printable (Text.ofNat status) := by
    intro p member
    have digit := (CodePoint.isAsciiDigit_iff p).mp (Text.isAsciiDigit_of_mem_ofNat member)
    rw [Terminal.isPrintable, Bool.and_eq_true, decide_eq_true_eq, decide_eq_true_eq]
    omega
  exact (digits.append (by decide)).append printable

/-- A command whose request is answered with an error status tells the status and its reason, unless the body is a
document that goes too deep, and one whose exchange breaks down tells what it broke down with. -/
theorem run_reports_cause (reached : reached? surroundings words = some (command, context))
    (asks : command.exchange? context = some e) (built : Session.run {} e.building = (.ok request, s)) :
    (∀ kind message, surroundings.answer = .error (.broken kind message) → Terminal.Printable message →
        (run surroundings words).Reports request e.operation message) ∧
      ∀ reply body, surroundings.answer = .ok reply → 400 ≤ reply.status → reply.status ≤ 599 →
        Terminal.Printable reply.reason → reply.body = .ok body →
        ((run surroundings words).Reports request e.operation (Text.ofNat reply.status ++ " " ++ reply.reason) ↔
          request.url.scheme ≠ [] ∧ ¬ ∃ message, documentOf body = .error (.fault .recursion message)) := by
  constructor
  · intro kind message answered printable
    have fails : (Session.run s (Client.send request surroundings.answer e.isStreamed)).1 =
        .error (.broken kind message) := by
      rw [answered]
      exact Client.run_send_of_broken kind message
    exact (run_of_failing_send reached asks built fails).1 rfl printable
  · intro reply body answered low high printable whole
    have failed : reply.isError = true := by
      rw [Http.Reply.isError, decide_eq_true low, decide_eq_true high]
      rfl
    by_cases scheme : request.url.scheme = []
    · obtain ⟨message, ends⟩ := run_of_schemeless reached asks built answered scheme
      exact ⟨fun reports => absurd ends (reports.not_fault .value message), fun sound => absurd scheme sound.1⟩
    -- From here on sending ends as reading the body does: in the API's error, or in what kept the body from being read.
    have ends : (Session.run s (Client.send request surroundings.answer e.isStreamed)).1 =
        (Client.errorBody reply body >>= fun document => .error (.api (Client.apiError reply document))) := by
      rw [answered]
      exact Client.run_send_of_isError scheme failed whole
    cases read : Client.errorBody reply body with
    | error failure =>
      obtain ⟨deep, message, rfl⟩ := Client.errorBody_eq_error.mp read
      rw [read] at ends
      have unhandled := (run_of_failing_send reached asks built ends).2
        (Command.not_meant_of_fault asks .recursion message)
      exact ⟨fun reports => absurd unhandled (reports.not_fault .recursion message), fun sound =>
        absurd ⟨message, deep⟩ sound.2⟩
    | ok document =>
      rw [read] at ends
      have reports := (run_of_failing_send reached asks built ends).1 rfl (printable_statusText printable)
      refine ⟨fun _ => ⟨scheme, ?_⟩, fun _ => reports⟩
      rintro ⟨message, deep⟩
      rw [Client.errorBody_eq_error.mpr ⟨deep, message, rfl⟩] at read
      cases read

end

/-- An invocation that finds nothing but an API that answers with a body. -/
def telling (status : Nat) (body : Utf8.Bytes) : Surroundings where
  environment := []
  files := []
  answer := .ok { status, reason := Http.reasonFor status, headers := [], chunks := [.bytes body] }
  stamp := []

theorem removal_reports_cause : ∃ request, (run (telling 500 [0x6F, 0x68]) removal).Reports request
    "could not delete the autoscale on RPaaS API" "500 Internal Server Error" := by
  have asked : (reached? (telling 500 [0x6F, 0x68]) removal).bind (fun found =>
      (found.1.exchange? found.2).bind fun e =>
        (Session.run {} e.building).1.toOption.map fun request => (e.operation, request.url.scheme)) =
      some (("could not delete the autoscale on RPaaS API" : Text), ("http" : Text)) := by decide +kernel
  obtain ⟨⟨command, context⟩, reached, asked⟩ := Option.bind_eq_some_iff.mp asked
  obtain ⟨e, asks, asked⟩ := Option.bind_eq_some_iff.mp asked
  obtain ⟨request, built, named⟩ := Option.map_eq_some_iff.mp asked
  obtain ⟨operation, scheme⟩ := Prod.mk.inj named
  rw [toOption_eq_some] at built
  have told := (run_reports_cause reached asks (Prod.ext built rfl)).2 _ [0x6F, 0x68] rfl (by decide) (by decide)
    (by decide) rfl
  rw [operation] at told
  refine ⟨request, told.mpr ⟨by rw [scheme]; decide, ?_⟩⟩
  rintro ⟨message, deep⟩
  have read : documentOf [0x6F, 0x68] = .error (.fault .jsonSyntax "Expecting value: line 1 column 1 (char 0)") := rfl
  rw [read] at deep
  cases deep

/-- A body whose brackets are nested too deep is not read, and then there is no error line. -/
theorem removal_of_deep_body :
    (run (telling 500 (List.replicate 3000 0x5B)) removal).shownErrors =
        ("Failure: maximum recursion depth exceeded while decoding a JSON array from a unicode string\n" : Text) ∧
      (run (telling 500 (List.replicate 3000 0x5B)) removal).requests.map (fun request => request.method) =
        [.delete] := by
  decide +kernel

end ProxyControl.CommandLine
