import ProxyControl.CommandLine.Run
import ProxyControl.Proofs.CommandLine.Perform

namespace ProxyControl.CommandLine

/-- How an invocation ends whose command was carried out. -/
def Ending.ofOutcome : Outcome Unit → Ending
  | .ok _ => completed
  | .error failure => failed failure

section

variable {surroundings : Surroundings} {words : List Text} {invocation : Invocation} {command : Command}
  {logging : Logging} {context : Context} {files : Files}

theorem carryOut_eq_perform (meant : Command.ofInvocation invocation = .ok command) :
    (invocation.carryOut surroundings logging context files).ending =
        .ofOutcome (Session.run {} (command.perform context surroundings.answer)).1 ∧
      (invocation.carryOut surroundings logging context files).output =
        (Session.run {} (command.perform context surroundings.answer)).2.written ∧
      (invocation.carryOut surroundings logging context files).requests =
        (Session.run {} (command.perform context surroundings.answer)).2.requests := by
  unfold Invocation.carryOut
  dsimp only
  rw [meant]
  dsimp only
  rcases Session.run {} (command.perform context surroundings.answer) with ⟨failure | _, session⟩
  · exact ⟨rfl, rfl, rfl⟩
  · exact ⟨rfl, rfl, rfl⟩

end

def removal : List Text := ["--rpaas-url", "http://rpaas.test", "autoscale", "remove", "-i", "my-instance"]

/-- An invocation that finds nothing but an API that answers with a status. -/
def answering (status : Nat) : Surroundings where
  environment := []
  files := []
  answer := .ok { status, reason := Http.reasonFor status, headers := [], chunks := [] }
  stamp := []

/-- An API that answers with a redirection to a location. -/
def redirecting (location : Text) : Surroundings :=
  { answering 302 with answer := .ok ⟨302, Http.reasonFor 302, [("location", location)], []⟩ }

example : ((["/login", "mailto:x", "http://a:x"] : List Text).map fun location =>
    (run (redirecting location) removal).ending.status) = [0, 1, 1] := by
  decide +kernel

end ProxyControl.CommandLine
