import ProxyControl.CommandLine.Run
import ProxyControl.Proofs.Logging.Setup

namespace ProxyControl.CommandLine

variable {invocation : Invocation} {environment : Environment} {files : Files} {settings : LogSettings}

/-- The logging of an invocation is that of its settings file: the loader takes the file, and the command line names no
level. -/
structure Invocation.TakesLogging (invocation : Invocation) (environment : Environment) (files : Files)
    (settings : LogSettings) : Prop where
  loaded : ∃ path config,
    (ConfigCache.getConfig {} environment files invocation.configPath).1 = .ok (path, config) ∧
      config.logging = settings
  usual : invocation.verbosity = .asConfigured

/-- Once its settings file is taken, an invocation starts exactly if logging is set up. -/
theorem prepare_ok_iff (takes : invocation.TakesLogging environment files settings) :
    (∃ ready, invocation.prepare environment files = .ok ready) ↔
      (Logging.run (Logging.setUp settings none none environment.home) {} files).1 = .ok () := by
  obtain ⟨path, config, loaded, rfl⟩ := takes.loaded
  rw [Invocation.prepare, loaded, takes.usual]
  change (∃ ready, (Logging.run (Logging.setUp config.logging none none environment.home) {} files).1.map _ =
    .ok ready) ↔ _
  simp only [map_eq_ok]
  constructor
  · rintro ⟨_, _, finishes, _⟩
    exact finishes
  · intro finishes
    exact ⟨_, (), finishes, rfl⟩

/-- Settings without a log file, taken from a file: logging is set up, and the invocation starts, exactly if the level
is the name of a weight in any case; then this weight is the threshold. For any other level the setup ends in a fault
that changes nothing, although settings with any text as the level are taken. -/
theorem starts_iff_level (disabled : settings.file.enabled = false) :
    (∀ home logging files,
      ((Logging.run (Logging.setUp settings none none home) logging files).1 = .ok () ↔
        ∃ rank, Logging.levels.lookup settings.level.upper = some rank) ∧
      (∀ rank, Logging.levels.lookup settings.level.upper = some rank →
        Logging.run (Logging.setUp settings none none home) logging files =
          (.ok (), Logging.setTo settings none rank, files)) ∧
      (Logging.levels.lookup settings.level.upper = none → ∃ kind message,
        Logging.run (Logging.setUp settings none none home) logging files =
          (.error (.fault kind message), logging, files))) ∧
    (∀ (invocation : Invocation) environment files, invocation.TakesLogging environment files settings →
      ((∃ ready, invocation.prepare environment files = .ok ready) ↔
        ∃ rank, Logging.levels.lookup settings.level.upper = some rank)) ∧
    ∀ name level, Config.ofDocument name (Logging.levelDocument level) = .ok { logging := { level } } := by
  refine ⟨fun home logging files => ⟨Logging.setUp_ok_iff disabled, fun rank named => ?_, fun unnamed => ?_⟩,
    fun invocation environment files takes => ?_, Logging.ofDocument_levelDocument⟩
  · exact Logging.run_setUp_of_level disabled (Logging.level_of_named named)
  · obtain ⟨kind, message, fails⟩ := Logging.level_of_unnamed unnamed
    exact ⟨kind, message, Logging.run_setUp_of_failure fails⟩
  · exact (prepare_ok_iff takes).trans (Logging.setUp_ok_iff disabled)

/-- A command line that names its settings file. -/
def configured : List Text :=
  ["--config", "config.yaml", "--rpaas-url", "http://rpaas.test", "autoscale", "remove", "-i", "my-instance"]

def lowerCase : Files := [("config.yaml", "logging:\n  level: info\n")]

def unknownLevel : Files := [("config.yaml", "logging:\n  level: bogus\n")]

/-- The level may be written in lower case. -/
theorem starts_with_lower_case : ∃ invocation, Invocation.ofWords configured = .ok invocation ∧
    invocation.TakesLogging [] lowerCase { level := "info" } ∧
    (∃ ready, invocation.prepare [] lowerCase = .ok ready) ∧
    Logging.run (Logging.setUp { level := "info" } none none []) {} [] =
      (.ok (), Logging.setTo { level := "info" } none 20, []) := by
  have disabled : ({ level := "info" } : LogSettings).file.enabled = false := rfl
  have named : Logging.levels.lookup (Text.upper "info") = some 20 := by decide +kernel
  have found : (Invocation.ofWords configured).toOption.bind (fun invocation =>
      (ConfigCache.getConfig {} [] lowerCase invocation.configPath).1.toOption.map fun found =>
        (invocation.verbosity, found.2.logging)) = some (Verbosity.asConfigured, { level := "info" }) := by
    decide +kernel
  obtain ⟨invocation, parsed, found⟩ := Option.bind_eq_some_iff.mp found
  obtain ⟨⟨path, config⟩, loaded, same⟩ := Option.map_eq_some_iff.mp found
  obtain ⟨usual, logging⟩ := Prod.mk.inj same
  rw [toOption_eq_some] at parsed loaded
  have takes : invocation.TakesLogging [] lowerCase { level := "info" } := ⟨⟨path, config, loaded, logging⟩, usual⟩
  obtain ⟨setups, starts, _⟩ := starts_iff_level disabled
  exact ⟨invocation, parsed, takes, (starts invocation [] lowerCase takes).mpr ⟨20, named⟩,
    (setups [] {} []).2.1 20 named⟩

/-- A level that is no name of a weight is taken from the settings file; then logging is not set up, and nothing is
sent. -/
theorem unstarted_of_unknown_level :
    Config.load unknownLevel (Path.ofText "config.yaml") true = .ok { logging := { level := "bogus" } } ∧
      Logging.run (Logging.setUp { level := "bogus" } none none []) {} unknownLevel =
        (.error (.fault .noSuchName "module 'logging' has no attribute 'BOGUS'"), {}, unknownLevel) ∧
      (run ⟨[], unknownLevel, .error (.broken .connectError "refused"), []⟩ configured).requests.length = 0 := by
  refine ⟨toOption_eq_some.mp ?_, Logging.run_setUp_of_failure (Outcome.fault?_eq_some.mp ?_), ?_⟩
  all_goals decide +kernel

end ProxyControl.CommandLine
