import ProxyControl.Config
import ProxyControl.Logging
import ProxyControl.Proofs.Outcome

namespace ProxyControl.Logging

variable {settings : LogSettings} {levelName formatName : Option Text} {home : Text} {logging : Logging}
  {files : Files} {rank : Nat}

theorem level_of_named {name : Text} (named : levels.lookup name.upper = some rank) : level name = .ok rank := by
  rw [level, named]

theorem level_of_unnamed {name : Text} (unnamed : levels.lookup name.upper = none) :
    ∃ kind message, level name = .error (.fault kind message) := by
  rw [level, unnamed]
  dsimp only
  split
  · exact ⟨_, _, rfl⟩
  split
  · exact ⟨_, _, rfl⟩
  · exact ⟨_, _, rfl⟩

/-- The logging after a setup without a log file. -/
def setTo (settings : LogSettings) (formatName : Option Text) (rank : Nat) : Logging where
  threshold := rank
  libraryThreshold := libraryLevel rank
  console := if settings.consoleEnabled then some ((formatName.map LogFormat.ofName).getD settings.format) else none
  file := none

/-- The log file that the settings ask for, with its name, and the files once it is open. -/
def opened (settings : LogSettings) (home : Text) (files : Files) : Outcome (Option (Text × LogFile) × Files) :=
  if settings.file.enabled then
    (openFile settings.file home files).map fun (name, files) => (some (name, settings.file), files)
  else .ok (none, files)

/-- What a setup ends with once it is known whether the log file opens. -/
def ended (settings : LogSettings) (formatName : Option Text) (rank : Nat) (logging : Logging) (files : Files) :
    Outcome (Option (Text × LogFile) × Files) → Outcome Unit × Logging × Files
  | .ok (file, files) => (.ok (), { setTo settings formatName rank with file }, files)
  | .error failure =>
    (.error failure, { setTo settings formatName rank with libraryThreshold := logging.libraryThreshold }, files)

/-- A setup with a level: nothing but opening the log file can fail, and then the new level and console are in force
already. -/
theorem run_setUp (weighs : level (levelName.getD settings.level) = .ok rank) :
    run (setUp settings levelName formatName home) logging files =
      ended settings formatName rank logging files (opened settings home files) := by
  rw [setUp, weighs, opened]
  cases settings.file.enabled with
  | false => rfl
  | true =>
    have rest (opening : Outcome (Text × Files)) :
        run (do
            let found ← MonadExcept.ofExcept opening
            let file := some (found.1, settings.file)
            set ({ setTo settings formatName rank with libraryThreshold := logging.libraryThreshold, file }, found.2)
            modify fun state => ({ state.1 with libraryThreshold := libraryLevel rank }, state.2))
          { setTo settings formatName rank with libraryThreshold := logging.libraryThreshold } files =
        ended settings formatName rank logging files
          (opening.map fun (name, files) => (some (name, settings.file), files)) := by
      cases opening with
      | error failure => rfl
      | ok found => rfl
    exact rest (openFile settings.file home files)

theorem run_setUp_of_level (disabled : settings.file.enabled = false)
    (weighs : level (levelName.getD settings.level) = .ok rank) :
    run (setUp settings levelName formatName home) logging files =
      (.ok (), setTo settings formatName rank, files) := by
  rw [setUp, weighs, disabled]
  rfl

theorem run_setUp_of_failure {failure : Failure} (fails : level (levelName.getD settings.level) = .error failure) :
    run (setUp settings levelName formatName home) logging files = (.error failure, logging, files) := by
  rw [setUp, fails]
  rfl

/-- The document of a settings file that names nothing but a level. -/
def levelDocument (level : Text) : Datum := .mapping [(.text "logging", .mapping [(.text "level", .text level)])]

/-- Whatever text stands for the level, the settings are taken. -/
theorem ofDocument_levelDocument (name level : Text) :
    Config.ofDocument name (levelDocument level) = .ok { logging := { level } } := rfl

/-- Without a log file, and with nothing given that wins over the settings, logging is set up exactly if the level is
the name of a weight, in any case. -/
theorem setUp_ok_iff (disabled : settings.file.enabled = false) :
    (run (setUp settings none none home) logging files).1 = .ok () ↔
      ∃ rank, levels.lookup settings.level.upper = some rank := by
  cases named : levels.lookup settings.level.upper with
  | some rank =>
    have finishes : run (setUp settings none none home) logging files = (.ok (), setTo settings none rank, files) :=
      run_setUp_of_level disabled (level_of_named named)
    rw [finishes]
    exact ⟨fun _ => ⟨rank, rfl⟩, fun _ => rfl⟩
  | none =>
    obtain ⟨kind, message, fails⟩ := level_of_unnamed named
    have breaks : run (setUp settings none none home) logging files = (.error (.fault kind message), logging, files) :=
      run_setUp_of_failure fails
    rw [breaks]
    constructor
    · intro impossible
      cases impossible
    · rintro ⟨_, impossible⟩
      cases impossible

end ProxyControl.Logging
