import ProxyControl.Proofs.CommandLine.Checks
import ProxyControl.Proofs.Duration.Reading

namespace ProxyControl.CommandLine

/-- A result that tells on its last line what is refused, before anything is sent: nothing is written. -/
structure Result.Refuses (result : Result) (refusal : Refusal) : Prop where
  ending : result.ending = .failed (.refused refusal)
  status : result.ending.status = 1
  output : result.output = []
  requests : result.requests = []
  errors : ∃ before, WholeLines before ∧ result.shownErrors = before ++ "Error: " ++ refusal.message ++ "\n"

theorem visible_duration (value : Text) : Terminal.Visible (Refusal.duration value).message :=
  (Terminal.Visible.append (by decide) (Terminal.visible_quoted value)).append (by decide)

section

variable {surroundings : Surroundings} {words : List Text} {service : Option Text} {flags : LogFlags} {context : Context}
  {failure : Failure} {refusal : Refusal}

theorem unbuilt_of_args (fails : flags.args = .error failure) :
    Session.run {} (Command.showLogExchange context service flags).building = (.error failure, {}) := by
  rw [Command.showLogExchange]
  dsimp only
  rw [Session.run_bind, Session.run_ofOutcome, fails]

/-- A log command whose flags are refused says so. -/
theorem refuses_of_args (reached : reached? surroundings words = some (.showLog service flags, context))
    (fails : flags.args = .error (.refused refusal)) (visible : Terminal.Visible refusal.message) :
    (run surroundings words).Refuses refusal := by
  obtain ⟨ending, output, requests, errors⟩ := run_of_unbuilt reached rfl (unbuilt_of_args fails)
  obtain ⟨before, whole, shown⟩ := errors rfl
  have line : errorLine (.refused refusal) = "Error: " ++ refusal.message ++ "\n" := errorLine_of_visible visible
  refine ⟨ending, by rw [ending]; rfl, output, requests, before, whole, ?_⟩
  rw [shown, line]
  simp only [List.append_assoc]

end

/-- Reading a span ends in a span or in a refusal exactly if the text is not excessive. A log command that cannot read
its span then says so and fails, and it does not say so if the text is excessive, unless it is refused for something that
is looked at before the span. -/
theorem since_handled_iff (since : Text) :
    ((∃ d, Duration.parse since = .ok d) ∨ Duration.parse since = .error (.refused (.duration since)) ↔
      ¬ Duration.Excessive since) ∧
    ∀ surroundings words service flags context,
      reached? surroundings words = some (.showLog service flags, context) →
      Text.present flags.since = some since → (∀ d, Duration.parse since ≠ .ok d) →
      (¬ flags.Ready → (run surroundings words).Refuses .instanceMissing ∨
        (run surroundings words).Refuses .linesNegative) ∧
      (flags.Ready → ¬ Duration.Excessive since → (run surroundings words).Refuses (.duration since)) ∧
      (flags.Ready → Duration.Excessive since → ∃ message,
        (run surroundings words).ending = .failed (.fault .overflow message)) := by
  constructor
  · constructor
    · rintro (read | refused) excessive
      · exact (Duration.parse_ok_iff.mp read).2 excessive
      · obtain ⟨message, fails⟩ := Duration.parse_of_excessive excessive
        rw [fails] at refused
        cases refused
    · intro moderate
      by_cases written : Duration.Written since.strip
      · exact .inl (Duration.parse_ok_iff.mpr ⟨written, moderate⟩)
      · exact .inr (Duration.parse_of_not_written written)
  · intro surroundings words service flags context reached given unread
    refine ⟨fun unready => ?_, fun ready moderate => ?_, fun ready excessive => ?_⟩
    · rcases LogFlags.args_of_not_ready unready with unnamed | negative
      · exact .inl (refuses_of_args reached unnamed (by decide))
      · exact .inr (refuses_of_args reached negative (by decide))
    · have unwritten : ¬ Duration.Written since.strip := by
        intro written
        obtain ⟨d, read⟩ := Duration.parse_ok_iff.mpr ⟨written, moderate⟩
        exact unread d read
      have fails := LogFlags.args_of_unread ready given (Duration.parse_of_not_written unwritten)
      exact refuses_of_args reached fails (visible_duration since)
    · obtain ⟨message, fails⟩ := Duration.parse_of_excessive excessive
      have stops := LogFlags.args_of_unread ready given fails
      exact ⟨message, (run_of_unbuilt reached rfl (unbuilt_of_args stops)).1⟩

/-- The command line that asks for the log of some time. -/
def logSince (since : Text) : List Text :=
  ["--rpaas-url", "http://rpaas.test", "logs", "-i", "my-instance", "--since", since]

theorem logSince_refused : (run (answering 200) (logSince "5 m")).Refuses (.duration "5 m") := by
  obtain ⟨handled, ends⟩ := since_handled_iff "5 m"
  have reached : ∃ context, reached? (answering 200) (logSince "5 m") =
      some (.showLog none { target := some "my-instance", since := some "5 m" }, context) := ⟨_, rfl⟩
  obtain ⟨context, reached⟩ := reached
  have unread : Duration.parse "5 m" = .error (.refused (.duration "5 m")) := rfl
  have ready : LogFlags.Ready { target := some "my-instance", since := some "5 m" } :=
    ⟨Option.some_ne_none _, fun n none => by cases none⟩
  have no (d : Duration) : Duration.parse "5 m" ≠ .ok d := by
    rw [unread]
    exact nofun
  exact (ends _ _ _ _ context reached rfl no).2.1 ready (handled.mp (.inr unread))

/-- More seconds than a span can have are neither read nor refused, and the log command ends without an error line. -/
theorem logSince_of_excessive :
    (∀ d, Duration.parse "99999999999999999999s" ≠ .ok d) ∧
      (∀ refusal, Duration.parse "99999999999999999999s" ≠ .error (.refused refusal)) ∧
      (run (answering 200) (logSince "99999999999999999999s")).shownErrors =
        ("Failure: Python int too large to convert to C int\n" : Text) := by
  have unreported : (Duration.parse "99999999999999999999s").mapError Failure.isReported = .error false := by
    decide +kernel
  refine ⟨fun d read => ?_, fun refusal refused => ?_, by decide +kernel⟩
  · rw [read] at unreported
    cases unreported
  · rw [refused] at unreported
    cases unreported

end ProxyControl.CommandLine
