import ProxyControl.Proofs.Logging.Rotation
import ProxyControl.Proofs.Logging.Setup

namespace ProxyControl

/-- The name under which a log file is opened, if its path has a meaning. -/
def LogFile.name? (file : LogFile) (home : Text) : Option Text :=
  ((Path.ofText file.path).expandHome home).toOption.map (·.resolved.toText)

/-- Neither the log file is there nor any that was set aside. -/
def Files.WithoutLogs (name : Text) (files : Files) : Prop :=
  files.read? name = none ∧ ∀ number, files.read? (Files.backupName name (number + 1)) = none

theorem LogFile.isSome_read?_append {file : LogFile} {name line : Text} {files : Files} :
    ((file.append name line files).read? name).isSome = true := by
  rw [LogFile.append, Files.read?_append_self, Option.isSome_some]

theorem LogFile.isFull_of_unlimited {file : LogFile} (unlimited : file.maxBytes ≤ 0) {size : Nat} {line : Text} :
    file.isFull size line = false := by
  rw [isFull, decide_eq_false (by omega), Bool.false_and]

namespace Logging

variable {file : LogFile} {home name : Text} {files : Files}

/-- Opening a log file makes sure that it is there, and changes nothing else. -/
theorem openFile_eq_ok {opened : Text × Files} (opens : openFile file home files = .ok opened) :
    file.name? home = some opened.1 ∧ opened.2 = files.append opened.1 [] := by
  obtain ⟨path, expanded, opens⟩ := bind_eq_ok.mp opens
  obtain ⟨_, _, opens⟩ := bind_eq_ok.mp opens
  rw [LogFile.name?, expanded]
  dsimp only at opens
  split at opens
  · cases opens
  · cases opens
    exact ⟨rfl, rfl⟩

/-- A record changes the files only by a line in the log file that is open, if it weighs what is asked for. -/
theorem write_files (logging : Logging) (stamp : Text) (record : Record) (written : Written) :
    (logging.write stamp record written).files =
      match logging.file with
      | none => written.files
      | some (name, file) =>
        if record.severity.rank < logging.thresholdFor record.logger then written.files
        else file.append name (record.jsonLine stamp ++ "\n") written.files := by
  unfold write
  dsimp only
  split
  · split <;> rfl
  · cases logging.console with
    | none =>
      cases logging.file with
      | none =>
        dsimp only
        split <;> rfl
      | some opened => rfl
    | some format =>
      cases logging.file with
      | none => rfl
      | some opened => rfl

section

variable {settings : LogSettings} {levelName formatName : Option Text}

theorem opened_of_disabled {opening : Option (Text × LogFile)} {left : Files}
    (disabled : settings.file.enabled = false) (opens : opened settings home files = .ok (opening, left)) :
    opening = none ∧ left = files := by
  rw [opened, if_neg (Bool.eq_false_iff.mp disabled)] at opens
  cases opens
  exact ⟨rfl, rfl⟩

/-- The log file that is opened is the one that the settings name, and opening it leaves its content as it is. -/
theorem opened_of_enabled {opening : Option (Text × LogFile)} {left : Files}
    (enabled : settings.file.enabled = true) (opens : opened settings home files = .ok (opening, left)) :
    ∃ name, settings.file.name? home = some name ∧ opening = some (name, settings.file) ∧
      left = files.append name [] := by
  rw [opened, if_pos enabled] at opens
  obtain ⟨found, here, same⟩ := map_eq_ok.mp opens
  cases same
  obtain ⟨named, grown⟩ := openFile_eq_ok here
  exact ⟨found.1, named, rfl, grown⟩

/-- What a setup that returns leaves behind. Nothing of it comes from what was set up before. -/
theorem run_setUp_of_returned {logging : Logging}
    (returned : (run (setUp settings levelName formatName home) logging files).1 = .ok ()) :
    ∃ rank opening left, level (levelName.getD settings.level) = .ok rank ∧
      opened settings home files = .ok (opening, left) ∧
      ∀ logging, run (setUp settings levelName formatName home) logging files =
        (.ok (), { setTo settings formatName rank with file := opening }, left) := by
  cases weighs : level (levelName.getD settings.level) with
  | error failure =>
    rw [run_setUp_of_failure weighs] at returned
    cases returned
  | ok rank =>
    rw [run_setUp weighs] at returned
    cases opens : opened settings home files with
    | error failure =>
      rw [opens] at returned
      cases returned
    | ok found =>
      refine ⟨rank, found.1, found.2, rfl, rfl, fun logging => ?_⟩
      rw [run_setUp weighs, opens]
      rfl

end

/-- What a program does with its logging. -/
inductive Act where
  | setUp (settings : LogSettings) (levelName formatName : Option Text)
  | log (entry : Entry)

/-- The logging and the files of a program, what was due for the log file so far, and how often the file was full. A
record is due if it weighs what is asked for when it is logged; before the first setup and after one that failed, no log
file is open for it. -/
structure History where
  logging : Logging
  files : Files
  due : List Entry := []
  rollovers : Nat := 0

namespace History

def step (home : Text) (history : History) : Act → History
  | .setUp settings levelName formatName =>
    let (_, logging, files) := run (setUp settings levelName formatName home) history.logging history.files
    { history with logging, files }
  | .log entry =>
    let files := (history.logging.write entry.1 entry.2 ⟨history.files, []⟩).files
    match history.logging.file with
    | none => { history with files }
    | some (name, file) =>
      if entry.2.severity.rank < history.logging.thresholdFor entry.2.logger then { history with files }
      else
        let full := file.isFull (history.files.size name) (entry.line ++ "\n")
        { history with files, due := history.due ++ [entry], rollovers := history.rollovers + full.toNat }

/-- The history once some more was done. -/
def after (home : Text) (history : History) (acts : List Act) : History := acts.foldl (step home) history

/-- What holds of every history with one log file: it is the one that is open, and the entries that were due are kept
in it and in those set aside. -/
structure Sound (file : LogFile) (name : Text) (history : History) : Prop where
  isOpen : ∀ opened ∈ history.logging.file, opened = (name, file) ∧ (history.files.read? name).isSome = true
  sayable : ∀ entry ∈ history.due, entry.2.Sayable
  unlimited : file.maxBytes ≤ 0 → history.rollovers = 0
  kept : ∃ dropped current older,
    Kept name file.backupCount.toNat history.files history.due history.rollovers dropped current older

end History

/-- An act that uses the given log file, or logs a record that a line can tell. -/
def Act.Uses (file : LogFile) : Act → Prop
  | setUp settings _ _ => settings.file = file
  | log entry => entry.2.Sayable

namespace History

variable {history : History}

theorem Sound.setUp {settings : LogSettings} (sound : Sound file name history) (named : file.name? home = some name)
    (same : settings.file = file) (levelName formatName : Option Text) :
    Sound file name (history.step home (.setUp settings levelName formatName)) := by
  rw [step]
  cases weighs : level (levelName.getD settings.level) with
  | error failure =>
    rw [run_setUp_of_failure weighs]
    exact sound
  | ok rank =>
    rw [run_setUp weighs, opened, same]
    have closed : ∀ opened ∈ (none : Option (Text × LogFile)),
        opened = (name, file) ∧ (history.files.read? name).isSome = true := by
      rintro _ ⟨⟩
    cases file.enabled with
    | false => exact ⟨closed, sound.sayable, sound.unlimited, sound.kept⟩
    | true =>
      cases opens : openFile file home history.files with
      | error failure => exact ⟨closed, sound.sayable, sound.unlimited, sound.kept⟩
      | ok opened =>
        obtain ⟨isNamed, grown⟩ := openFile_eq_ok opens
        obtain rfl : name = opened.1 := Option.some.inj (named.symm.trans isNamed)
        obtain ⟨dropped, current, older, kept⟩ := sound.kept
        have stored : Files.Stored opened.1 (history.files.append opened.1 []) (textOf current ++ [])
            (older.map textOf) := kept.stored.append
        rw [List.append_nil, ← grown] at stored
        refine ⟨?_, sound.sayable, sound.unlimited, dropped, current, older, stored, kept.due, kept.aside, kept.whole⟩
        rintro _ ⟨⟩
        refine ⟨rfl, ?_⟩
        simp only [if_true, Except.map, ended, grown, Files.read?_append_self, Option.isSome_some]

theorem Sound.log {entry : Entry} (sound : Sound file name history) (sayable : entry.2.Sayable) :
    Sound file name (history.step home (.log entry)) := by
  rw [step, write_files]
  -- The invariant speaks of the one log file that is open, and only a record that is due for it changes anything.
  cases opened : history.logging.file with
  | none => exact ⟨by simp [opened], sound.sayable, sound.unlimited, sound.kept⟩
  | some found =>
    obtain ⟨rfl, there⟩ := sound.isOpen found opened
    dsimp only
    split
    · exact sound
    · obtain ⟨dropped, current, older, kept⟩ := sound.kept
      refine ⟨fun other isOpen => ?_, fun due member => ?_, fun unlimited => ?_, kept.log there entry⟩
      · rw [opened] at isOpen
        cases isOpen
        exact ⟨rfl, LogFile.isSome_read?_append⟩
      · rcases List.mem_append.mp member with old | new
        · exact sound.sayable due old
        · rwa [List.mem_singleton.mp new]
      · rw [sound.unlimited unlimited, LogFile.isFull_of_unlimited unlimited]
        rfl

theorem Sound.step {act : Act} (sound : Sound file name history) (named : file.name? home = some name)
    (uses : act.Uses file) : Sound file name (history.step home act) := by
  cases act with
  | setUp settings levelName formatName => exact sound.setUp named uses levelName formatName
  | log entry => exact sound.log uses

theorem Sound.after {acts : List Act} (sound : Sound file name history) (named : file.name? home = some name)
    (uses : ∀ act ∈ acts, act.Uses file) : Sound file name (history.after home acts) := by
  induction acts generalizing history with
  | nil => exact sound
  | cons act acts ih =>
    refine ih (sound.step named (uses act List.mem_cons_self)) fun later member => ?_
    exact uses later (List.mem_cons_of_mem _ member)

theorem sound_start {logging : Logging} (closed : logging.file = none) (fresh : files.WithoutLogs name) :
    Sound file name ⟨logging, files, [], 0⟩ := by
  refine ⟨by simp [closed], fun entry none => absurd none List.not_mem_nil, fun _ => rfl, [], [], [],
    ⟨?_, fun number => ?_⟩, rfl, ?_, fun _ => rfl⟩
  · rw [fresh.1]
    rfl
  · rw [fresh.2]
    rfl
  · simp

/-- However a program sets up its logging with one log file and whatever it logs, what is read from the files in which
the log is kept, the oldest first, are whole lines. They tell about the last records that were due for the log, in
their order, and about all of them if the files are not limited, if none is set aside, or if no more were set aside than
are kept. -/
theorem after_tells_last_due {logging : Logging} {acts : List Act} (named : file.name? home = some name)
    (closed : logging.file = none) (fresh : files.WithoutLogs name) (uses : ∀ act ∈ acts, act.Uses file) :
    let history := History.after home ⟨logging, files, [], 0⟩ acts
    ∃ kept, kept <:+ history.due ∧
      TellInTurn (history.files.logTexts name file.backupCount.toNat) kept ∧
      (file.maxBytes ≤ 0 ∨ file.backupCount ≤ 0 ∨ (history.rollovers : Int) ≤ file.backupCount →
        kept = history.due) := by
  intro history
  have sound : Sound file name history := (sound_start closed fresh).after named uses
  obtain ⟨dropped, current, older, kept⟩ := sound.kept
  refine ⟨(current :: older).reverse.flatten, ?_, kept.told sound.sayable, fun complete => ?_⟩
  · rw [kept.due]
    exact List.suffix_append _ _
  · have few : history.rollovers ≤ file.backupCount.toNat ∨ file.backupCount.toNat = 0 := by
      rcases complete with unlimited | none | few
      · exact .inl (by rw [sound.unlimited unlimited]; exact Nat.zero_le _)
      · exact .inr (by omega)
      · exact .inl (by omega)
    rw [kept.due, kept.whole few, List.nil_append]

end History

/-- A file for less than one line, of which one is set aside. -/
def narrowFile : LogFile where
  enabled := true
  path := "log"
  maxBytes := 60
  backupCount := 1

/-- A log in a narrow file: the first record is not due for it, and the second one is dropped. -/
def narrowLog : List Act :=
  let record (severity : Severity) (event : Text) : Entry := ("now", ⟨severity, "app", event, []⟩)
  [.setUp { file := narrowFile, consoleEnabled := false } (some "INFO") none, .log (record .debug "one"),
    .log (record .info "two"), .log (record .warning "three"), .log (record .error "four")]

theorem narrowLog_tells_last_due :
    let history := History.after "home" ⟨{}, [], [], 0⟩ narrowLog
    history.due.map (fun entry => entry.2.event) = ["two", "three", "four"] ∧
      history.files.logTexts "log" 1 =
        ["\x7b\"event\": \"three\", \"level\": \"warning\", \"logger\": \"app\", \"timestamp\": \"now\"\x7d\n",
          "\x7b\"event\": \"four\", \"level\": \"error\", \"logger\": \"app\", \"timestamp\": \"now\"\x7d\n"] ∧
      ∃ kept, kept <:+ history.due ∧ TellInTurn (history.files.logTexts "log" 1) kept := by
  have uses : ∀ act ∈ narrowLog, act.Uses narrowFile := by
    have sayable : Json.Expressible (.object []) := .object (by simp) (by simp) (by simp)
    simp only [narrowLog, List.mem_cons, List.not_mem_nil, or_false]
    rintro _ (rfl | rfl | rfl | rfl | rfl)
    · rfl
    all_goals exact sayable
  have named : narrowFile.name? "home" = some "log" := by decide +kernel
  obtain ⟨kept, last, told, _⟩ :=
    @History.after_tells_last_due narrowFile "home" "log" [] {} narrowLog named rfl ⟨rfl, fun _ => rfl⟩ uses
  exact ⟨by decide +kernel, by decide +kernel, kept, last, told⟩

end Logging

end ProxyControl
