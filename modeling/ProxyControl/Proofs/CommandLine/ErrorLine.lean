import ProxyControl.Proofs.CommandLine.Run
import ProxyControl.Proofs.Terminal

namespace ProxyControl.CommandLine

/-- A text of lines that are all ended. -/
def WholeLines (t : Text) : Prop := t = [] ∨ ∃ lines, t = lines ++ "\n"

section

variable {logging : Logging} {stamp : Text} {written : Logging.Written}

/-- A record adds a line to the error stream, or nothing. -/
theorem wholeLines_write (record : Record) (whole : WholeLines written.errors) :
    WholeLines (logging.write stamp record written).errors := by
  unfold Logging.write
  split
  · exact whole
  dsimp only
  split
  · split
    · exact .inr ⟨_, rfl⟩
    · exact whole
  · exact .inr ⟨_, rfl⟩
  · exact whole
  · exact .inr ⟨_, rfl⟩

theorem wholeLines_foldl (records : List Record) (whole : WholeLines written.errors) :
    WholeLines (records.foldl (fun written record => logging.write stamp record written) written).errors := by
  induction records generalizing written with
  | nil => exact whole
  | cons record records ih => exact ih (wholeLines_write record whole)

end

/-- The beginning of an error line that reports an operation. -/
def errorLead (operation : Text) : Text := "Error: " ++ operation ++ ": "

section

variable {operation : Text} {cause : Failure}

theorem printable_errorLead (printable : Terminal.Printable operation) : Terminal.Printable (errorLead operation) :=
  ((by decide : Terminal.Printable ("Error: " : Text)).append printable).append (by decide)

/-- What an error line says of an operation that failed. -/
theorem errorLine_lead (printable : Terminal.Printable operation) :
    ∃ rest, errorLine (.command operation cause) = errorLead operation ++ rest ++ "\n" := by
  obtain ⟨rest, shown⟩ := Terminal.plain_append (printable_errorLead printable).visible cause.message
  refine ⟨rest, ?_⟩
  rw [errorLine, ← shown, errorLead, Failure.message]
  simp only [List.append_assoc]

/-- A failure without control codes is told as it is. -/
theorem errorLine_of_visible {failure : Failure} (visible : Terminal.Visible failure.message) :
    errorLine failure = "Error: " ++ failure.message ++ "\n" := by
  have whole : Terminal.Visible ("Error: " ++ failure.message) := Terminal.Visible.append (by decide) visible
  rw [errorLine, Terminal.plain_of_visible whole]

/-- A cause that can be printed is told as it is. -/
theorem errorLine_of_printable (printable : Terminal.Printable operation) (told : Terminal.Printable cause.message) :
    errorLine (.command operation cause) = errorLead operation ++ cause.message ++ "\n" := by
  have whole : Terminal.Printable (Failure.command operation cause).message :=
    (printable.append (by decide)).append told
  rw [errorLine_of_visible whole.visible, errorLead, Failure.message]
  simp only [List.append_assoc]

end

section

variable {surroundings : Surroundings} {words : List Text} {invocation : Invocation} {command : Command}
  {logging : Logging} {context : Context} {files : Files} {session : Session}

theorem carryOut_of_error {failure : Failure} (meant : Command.ofInvocation invocation = .ok command)
    (fails : Session.run {} (command.perform context surroundings.answer) = (.error failure, session)) :
    (invocation.carryOut surroundings logging context files).ending = .failed failure ∧
      (invocation.carryOut surroundings logging context files).output = session.written ∧
      (invocation.carryOut surroundings logging context files).requests = session.requests ∧
      (failure.isReported = true → ∃ before, WholeLines before ∧
        (invocation.carryOut surroundings logging context files).shownErrors = before ++ errorLine failure) := by
  have start : WholeLines (logging.write surroundings.stamp (invoked context invocation) ⟨files, []⟩).errors :=
    wholeLines_write _ (.inl rfl)
  unfold Invocation.carryOut
  dsimp only
  rw [meant]
  dsimp only
  rw [fails]
  refine ⟨rfl, rfl, rfl, fun isReported => ?_⟩
  dsimp only [Result.shownErrors, Result.fail]
  rw [if_pos isReported, if_pos isReported]
  exact ⟨_, wholeLines_foldl session.records start, rfl⟩

theorem carryOut_of_ok (meant : Command.ofInvocation invocation = .ok command)
    (succeeds : Session.run {} (command.perform context surroundings.answer) = (.ok (), session)) :
    (invocation.carryOut surroundings logging context files).ending = .completed ∧
      (invocation.carryOut surroundings logging context files).output = session.written ∧
      (invocation.carryOut surroundings logging context files).requests = session.requests := by
  rw [(carryOut_eq_perform meant).1, (carryOut_eq_perform meant).2.1, (carryOut_eq_perform meant).2.2, succeeds]
  exact ⟨rfl, rfl, rfl⟩

end

end ProxyControl.CommandLine
