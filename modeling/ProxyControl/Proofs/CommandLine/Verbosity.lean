import ProxyControl.Proofs.CommandLine.ErrorLine
import ProxyControl.Proofs.CommandLine.Flags
import ProxyControl.Proofs.CommandLine.Startup

namespace ProxyControl

namespace Logging

/-- What the error stream gets while records are logged. -/
def shown (logging : Logging) (stamp : Text) (files : Files) (records : List Record) : Text :=
  (records.foldl (fun written record => logging.write stamp record written) ⟨files, []⟩).errors

/-- A logging for which no record is heavy enough. -/
def silent : Logging := { threshold := Severity.critical.rank + 1 }

end Logging

namespace CommandLine

/-- What the error stream ends with. -/
def Ending.told : Ending → Text
  | completed => []
  | misused error => "Error: " ++ error.message ++ "\n"
  | failed failure => if failure.isReported then errorLine failure else "Failure: " ++ failure.message ++ "\n"

section

variable {invocation : Invocation} {surroundings : Surroundings} {logging : Logging} {context : Context} {files : Files}

/-- The records of an invocation. -/
def Invocation.records (invocation : Invocation) (context : Context) (answer : Http.Answer) : List Record :=
  invoked context invocation ::
    match Command.ofInvocation invocation with
    | .error _ => []
    | .ok command => (Session.run {} (command.perform context answer)).2.records

/-- The error stream gets the lines of the log, and then what tells how the invocation ended. -/
theorem shownErrors_carryOut : (invocation.carryOut surroundings logging context files).shownErrors =
    logging.shown surroundings.stamp files (invocation.records context surroundings.answer) ++
      (invocation.carryOut surroundings logging context files).ending.told := by
  unfold Invocation.carryOut Invocation.records Logging.shown
  dsimp only
  rw [List.foldl_cons]
  rcases Command.ofInvocation invocation with (page | error) | command
  · exact (List.append_nil _).symm
  · dsimp only [Result.stop, Result.shownErrors, Ending.told, List.foldl_nil]
    simp only [List.append_assoc]
  · dsimp only
    rcases Session.run {} (command.perform context surroundings.answer) with ⟨failure | _, session⟩
    · dsimp only [Result.fail, Result.shownErrors, Ending.told]
      split
      · rfl
      · simp only [List.append_assoc]
    · exact (List.append_nil _).symm

end

/-- What an invocation amounts to apart from its log. -/
structure Result.Same (left right : Result) : Prop where
  ending : left.ending = right.ending
  output : left.output = right.output
  requests : left.requests = right.requests
  context : left.context = right.context

/-- How much of the log is shown, and where, makes no difference to anything else. -/
theorem carryOut_same {invocation : Invocation} {verbosity : Verbosity} {surroundings : Surroundings}
    {logging logging' : Logging} {context : Context} {files files' : Files} :
    (invocation.carryOut surroundings logging context files).Same
      (Invocation.carryOut { invocation with verbosity } surroundings logging' context files') := by
  have meaning : Command.ofInvocation { invocation with verbosity } = Command.ofInvocation invocation := rfl
  unfold Invocation.carryOut
  dsimp only
  rw [meaning]
  rcases Command.ofInvocation invocation with (page | error) | command
  · exact ⟨rfl, rfl, rfl, rfl⟩
  · exact ⟨rfl, rfl, rfl, rfl⟩
  · dsimp only
    rcases Session.run {} (command.perform context surroundings.answer) with ⟨failure | _, session⟩
    · exact ⟨rfl, rfl, rfl, rfl⟩
    · exact ⟨rfl, rfl, rfl, rfl⟩

/-- The settings file of an invocation, if it can be used, names a level. -/
def Invocation.NamesLevel (invocation : Invocation) (environment : Environment) (files : Files) : Prop :=
  ∀ path config, (ConfigCache.getConfig {} environment files invocation.configPath).1 = .ok (path, config) →
    ∃ rank, Logging.levels.lookup config.logging.level.upper = some rank

theorem level_of_verbosity {level : Text} (named : ∃ rank, Logging.levels.lookup level.upper = some rank)
    (verbosity : Verbosity) : ∃ rank, Logging.level (verbosity.level?.getD level) = .ok rank := by
  cases verbosity with
  | asConfigured =>
    obtain ⟨rank, named⟩ := named
    exact ⟨rank, Logging.level_of_named named⟩
  | verbose =>
    have named : Logging.levels.lookup (Text.upper "INFO") = some 20 := by decide +kernel
    exact ⟨20, Logging.level_of_named named⟩
  | debug =>
    have named : Logging.levels.lookup (Text.upper "DEBUG") = some 10 := by decide +kernel
    exact ⟨10, Logging.level_of_named named⟩

/-- With a level that has a name, starting an invocation fails only as opening its log file fails, whichever verbosity
is asked for. -/
theorem prepare_of_namesLevel {invocation : Invocation} {environment : Environment} {files : Files}
    (names : invocation.NamesLevel environment files) (verbosity : Verbosity) : ∃ rank,
    Invocation.prepare { invocation with verbosity } environment files =
      (ConfigCache.getConfig {} environment files invocation.configPath).1 >>= fun found =>
        (Logging.opened found.2.logging environment.home files).map fun opened =>
          (found.2, { Logging.setTo found.2.logging none rank with file := opened.1 }, opened.2) := by
  have path : Invocation.configPath { invocation with verbosity } = invocation.configPath := rfl
  rw [Invocation.prepare, path]
  rcases found : (ConfigCache.getConfig {} environment files invocation.configPath).1 with failure | ⟨place, config⟩
  · exact ⟨0, rfl⟩
  · obtain ⟨rank, weighs⟩ := level_of_verbosity (names place config found) verbosity
    refine ⟨rank, ?_⟩
    have started (setup : Outcome Unit × Logging × Files)
        (ends : setup = Logging.run (Logging.setUp config.logging verbosity.level? none environment.home) {} files) :
        (setup.1.map fun _ => (config, setup.2)) =
        (Logging.opened config.logging environment.home files).map fun opened =>
          (config, { Logging.setTo config.logging none rank with file := opened.1 }, opened.2) := by
      rw [ends]
      rw [Logging.run_setUp weighs]
      cases Logging.opened config.logging environment.home files with
      | error failure => rfl
      | ok found => rfl
    exact started _ rfl

/-- The starts of two invocations that differ at most in the weight that records must have. -/
inductive StartedAlike : Outcome (Config × Logging × Files) → Outcome (Config × Logging × Files) → Prop where
  | ok (config : Config) (logging : Logging) (threshold libraryThreshold : Nat) (files : Files) :
    StartedAlike (.ok (config, logging, files)) (.ok (config, { logging with threshold, libraryThreshold }, files))
  | error (failure : Failure) : StartedAlike (.error failure) (.error failure)

theorem startedAlike_of_namesLevel {invocation : Invocation} {environment : Environment} {files : Files}
    (names : invocation.NamesLevel environment files) (verbosity : Verbosity) :
    StartedAlike (invocation.prepare environment files)
      (Invocation.prepare { invocation with verbosity } environment files) := by
  obtain ⟨rank, first⟩ := prepare_of_namesLevel names invocation.verbosity
  obtain ⟨rank', second⟩ := prepare_of_namesLevel names verbosity
  rw [first, second]
  rcases (ConfigCache.getConfig {} environment files invocation.configPath).1 with failure | ⟨path, config⟩
  · exact .error failure
  · dsimp only [bind, Except.bind]
    rcases Logging.opened config.logging environment.home files with failure | ⟨file, files⟩
    · exact .error failure
    · exact .ok config _ _ _ files

/-- Two results that differ at most in how much is shown of the same log. -/
structure Result.SameButLog (stamp : Text) (left right : Result) : Prop where
  same : left.Same right
  errors : ∃ records files logging threshold libraryThreshold,
    left.shownErrors = Logging.shown logging stamp files records ++ left.ending.told ∧
      right.shownErrors =
        Logging.shown { logging with threshold, libraryThreshold } stamp files records ++ left.ending.told

/-- A result that came about before anything was logged. -/
theorem Result.SameButLog.of_unlogged {stamp : Text} {result : Result}
    (unlogged : result.shownErrors = result.ending.told) :
    result.SameButLog stamp result := by
  refine ⟨⟨rfl, rfl, rfl, rfl⟩, [], [], {}, 0, 0, ?_, ?_⟩
  · exact unlogged
  · exact unlogged

section

variable {surroundings : Surroundings} {words more : List Text} {invocation : Invocation}

theorem run_sameButLog_of_error {reason : Stop} (first : Invocation.ofWords words = .error reason)
    (second : Invocation.ofWords more = .error reason) :
    (run surroundings words).SameButLog surroundings.stamp (run surroundings more) := by
  rw [run, run, first, second]
  cases reason with
  | help page => exact .of_unlogged rfl
  | misuse error => exact .of_unlogged rfl

theorem shownErrors_fail {files : Files} (failure : Failure) :
    (Result.fail failure { ending := .completed, files }).shownErrors = (Ending.failed failure).told := by
  dsimp only [Result.fail, Result.shownErrors, Ending.told]
  split
  · rfl
  · rfl

theorem run_sameButLog_of_ok {verbosity : Verbosity} (first : Invocation.ofWords words = .ok invocation)
    (second : Invocation.ofWords more = .ok { invocation with verbosity })
    (names : invocation.NamesLevel surroundings.environment surroundings.files) :
    (run surroundings words).SameButLog surroundings.stamp (run surroundings more) := by
  have alike := startedAlike_of_namesLevel names verbosity
  rw [run, run, first, second]
  dsimp only
  generalize invocation.prepare surroundings.environment surroundings.files = left at alike ⊢
  generalize Invocation.prepare { invocation with verbosity } surroundings.environment surroundings.files = right
    at alike ⊢
  cases alike with
  | error failure => exact .of_unlogged (shownErrors_fail failure)
  | ok config logging threshold libraryThreshold files =>
    refine ⟨carryOut_same, _, _, logging, threshold, libraryThreshold, shownErrors_carryOut, ?_⟩
    dsimp only
    rw [shownErrors_carryOut, carryOut_same.ending]
    rfl

/-- More words that ask for the log change neither how an invocation ends nor what it writes, sends or knows about its
target; and its error stream ends in the same way, after the lines that are shown of the same records. Whatever the
log, the output is that of an invocation that logs nothing. -/
theorem run_louder (louder : Invocation.Louder words more)
    (names : ∀ invocation, Invocation.ofWords words = .ok invocation →
      invocation.NamesLevel surroundings.environment surroundings.files) :
    (run surroundings words).ending.status = (run surroundings more).ending.status ∧
      (run surroundings words).output = (run surroundings more).output ∧
      (run surroundings words).requests = (run surroundings more).requests ∧
      (words ≠ [] → (run surroundings words).SameButLog surroundings.stamp (run surroundings more)) ∧
      ∀ (invocation : Invocation) logging context files,
        (invocation.carryOut surroundings logging context files).output =
          (invocation.carryOut surroundings Logging.silent context files).output := by
  have alike (nonempty : words ≠ []) :
      (run surroundings words).SameButLog surroundings.stamp (run surroundings more) := by
    have read := Invocation.ofWords_louder louder nonempty
    generalize first : Invocation.ofWords words = left at read
    generalize second : Invocation.ofWords more = right at read
    cases read with
    | error reason => exact run_sameButLog_of_error first second
    | ok invocation verbosity => exact run_sameButLog_of_ok first second (names invocation first)
  have visible : (run surroundings words).ending.status = (run surroundings more).ending.status ∧
      (run surroundings words).output = (run surroundings more).output ∧
      (run surroundings words).requests = (run surroundings more).requests := by
    by_cases empty : words = []
    · subst empty
      obtain ⟨error, misused⟩ := Invocation.ofWords_louder_nil louder
      rw [run, run, misused]
      exact ⟨rfl, rfl, rfl⟩
    · obtain ⟨ending, output, requests, _⟩ := (alike empty).same
      exact ⟨congrArg Ending.status ending, output, requests⟩
  obtain ⟨status, output, requests⟩ := visible
  exact ⟨status, output, requests, alike, fun invocation logging context files => carryOut_same.output⟩

end

/-- The command line that names its settings file, with more of the log asked for at two places. -/
def configuredLouder : List Text :=
  ["-v", "--config", "config.yaml", "--debug", "--rpaas-url", "http://rpaas.test", "autoscale", "remove", "-i",
    "my-instance"]

theorem configured_louder :
    (run { answering 204 with files := lowerCase } configured).output =
        (run { answering 204 with files := lowerCase } configuredLouder).output ∧
      (run { answering 204 with files := lowerCase } configured).SameButLog []
        (run { answering 204 with files := lowerCase } configuredLouder) ∧
      (Invocation.ofWords configuredLouder).toOption.map (fun invocation => invocation.verbosity) = some .debug := by
  have louder : Invocation.Louder configured configuredLouder := by
    have awaits : Invocation.Awaits "--config" := ⟨[], ("--config", Invocation.configFlag), rfl⟩
    refine .added (by decide) (.valueKept ⟨by decide, by decide⟩ awaits ?_)
    exact .added (by decide) (.same _)
  have level : (Invocation.ofWords configured).toOption.map (fun invocation =>
      (ConfigCache.getConfig {} [] lowerCase invocation.configPath).1.toOption.map fun found => found.2.logging.level) =
        some (some ("info" : Text)) := by decide +kernel
  have names : ∀ invocation, Invocation.ofWords configured = .ok invocation → invocation.NamesLevel [] lowerCase := by
    intro invocation read path config loaded
    rw [read] at level
    have named : (ConfigCache.getConfig {} [] lowerCase invocation.configPath).1.toOption.map
        (fun found => found.2.logging.level) = some ("info" : Text) := Option.some.inj level
    rw [loaded] at named
    have same : config.logging.level = "info" := Option.some.inj named
    rw [same]
    exact ⟨20, by decide +kernel⟩
  obtain ⟨_, output, _, same, _⟩ := @run_louder { answering 204 with files := lowerCase } _ _ louder names
  exact ⟨output, same (by decide), by decide +kernel⟩

end CommandLine

end ProxyControl
