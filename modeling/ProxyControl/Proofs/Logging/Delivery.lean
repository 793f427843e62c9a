import ProxyControl.Proofs.Logging.History

namespace ProxyControl

namespace LogFile

open Logging (Entry textOf textOf_append textOf_singleton)

variable {name : Text} {files : Files}

/-- A line goes to the end of the log. Only a file that is set aside can make the log lose something, at its start. -/
theorem logText_append (file : LogFile) (line : Text) (there : (files.read? name).isSome = true) :
    ∃ dropped, files.logText name file.backupCount.toNat ++ line =
        dropped ++ (file.append name line files).logText name file.backupCount.toNat ∧
      (file.maxBytes ≤ 0 ∨ file.backupCount ≤ 0 → dropped = []) := by
  rw [append, Files.logText_append]
  cases full : file.isFull (files.size name) line with
  | false => exact ⟨[], rfl, fun _ => rfl⟩
  | true =>
    cases kept : file.backupCount.toNat with
    | zero => exact ⟨[], rfl, fun _ => rfl⟩
    | succ count =>
      obtain ⟨dropped, same⟩ := Files.logText_rotate count there
      refine ⟨dropped, by rw [same, List.append_assoc]; rfl, fun unlimited => ?_⟩
      rcases unlimited with unlimited | none
      · rw [isFull_of_unlimited unlimited] at full
        cases full
      · omega

/-- The files once entries were appended to a log file. -/
def appendAll (file : LogFile) (name : Text) (files : Files) (entries : List Entry) : Files :=
  entries.foldl (fun files entry => file.append name (entry.line ++ "\n") files) files

theorem logText_appendAll (file : LogFile) (there : (files.read? name).isSome = true) (entries : List Entry) :
    ∃ dropped, files.logText name file.backupCount.toNat ++ textOf entries =
        dropped ++ (file.appendAll name files entries).logText name file.backupCount.toNat ∧
      (file.maxBytes ≤ 0 ∨ file.backupCount ≤ 0 → dropped = []) := by
  induction entries generalizing files with
  | nil => exact ⟨[], List.append_nil _, fun _ => rfl⟩
  | cons entry entries ih =>
    obtain ⟨first, appended, whole⟩ := file.logText_append (entry.line ++ "\n") there
    have opened : ((file.append name (entry.line ++ "\n") files).read? name).isSome = true := isSome_read?_append
    obtain ⟨second, others, rest⟩ := ih opened
    have split : textOf (entry :: entries) = (entry.line ++ "\n") ++ textOf entries := List.flatMap_cons
    refine ⟨first ++ second, ?_, fun kept => by rw [whole kept, rest kept]; rfl⟩
    rw [split, ← List.append_assoc, appended, List.append_assoc, others, List.append_assoc]
    rfl

/-- What was logged last is at the end of the file. -/
theorem read?_appendAll {file : LogFile} {entries : List Entry} {last : Entry} (ends : entries.getLast? = some last) :
    ∃ before, (file.appendAll name files entries).read? name = some (before ++ (last.line ++ "\n")) := by
  obtain ⟨earlier, rfl⟩ := List.getLast?_eq_some_iff.mp ends
  rw [appendAll, List.foldl_append, List.foldl_cons, List.foldl_nil, append]
  exact ⟨_, Files.read?_append_self⟩

end LogFile

namespace Logging

/-- The entries that weigh what their loggers ask for. -/
def due (logging : Logging) (entries : List Entry) : List Entry :=
  entries.filter fun entry => logging.thresholdFor entry.2.logger ≤ entry.2.severity.rank

/-- What is written once all entries were logged, one after the other. -/
def writeAll (logging : Logging) (written : Written) (entries : List Entry) : Written :=
  entries.foldl (fun written entry => logging.write entry.1 entry.2 written) written

/-- What an entry that is due adds to the error stream. -/
def displayed (logging : Logging) (entry : Entry) : Text :=
  match logging.console, logging.file with
  | some format, _ => entry.2.line format entry.1 ++ "\n"
  | none, some _ => []
  | none, none => if Severity.warning.rank ≤ entry.2.severity.rank then entry.2.bareLine entry.1 ++ "\n" else []

/-- What an entry that is due adds to the files and to the error stream. -/
def deliver (logging : Logging) (written : Written) (entry : Entry) : Written where
  files := logging.file.elim written.files fun (name, file) => file.append name (entry.line ++ "\n") written.files
  errors := written.errors ++ logging.displayed entry

variable {logging : Logging} {settings : LogSettings} {levelName formatName : Option Text} {home : Text} {rank : Nat}

theorem write_eq_deliver (logging : Logging) (written : Written) (entry : Entry) :
    logging.write entry.1 entry.2 written =
      if logging.thresholdFor entry.2.logger ≤ entry.2.severity.rank then logging.deliver written entry else written := by
  rw [write]
  dsimp only
  by_cases light : entry.2.severity.rank < logging.thresholdFor entry.2.logger
  · rw [if_pos light, if_neg (Nat.not_le.mpr light)]
  · rw [if_neg light, if_pos (Nat.not_lt.mp light), deliver, displayed]
    cases logging.console with
    | some format =>
      cases logging.file with
      | none => simp only [Option.elim_none, List.append_assoc]
      | some opened => simp only [Option.elim_some, List.append_assoc, Entry.line]
    | none =>
      cases logging.file with
      | some opened => simp only [Option.elim_some, List.append_nil, Entry.line]
      | none =>
        dsimp only
        split
        · simp only [Option.elim_none, List.append_assoc]
        · simp only [Option.elim_none, List.append_nil]

/-- Each entry that is due is delivered once, and no other one is. -/
theorem writeAll_eq_deliver (logging : Logging) (written : Written) (entries : List Entry) :
    logging.writeAll written entries = (logging.due entries).foldl logging.deliver written := by
  rw [due, List.foldl_filter, writeAll]
  congr 1
  funext written entry
  rw [write_eq_deliver]
  simp only [decide_eq_true_eq]

theorem errors_writeAll (logging : Logging) (written : Written) (entries : List Entry) :
    (logging.writeAll written entries).errors = written.errors ++ (logging.due entries).flatMap logging.displayed := by
  rw [writeAll_eq_deliver]
  induction logging.due entries generalizing written with
  | nil => exact (List.append_nil _).symm
  | cons entry entries ih => rw [List.foldl_cons, ih, deliver, List.flatMap_cons, List.append_assoc]

theorem files_writeAll (logging : Logging) (written : Written) (entries : List Entry) :
    (logging.writeAll written entries).files =
      logging.file.elim written.files fun (name, file) => file.appendAll name written.files (logging.due entries) := by
  rw [writeAll_eq_deliver]
  induction logging.due entries generalizing written with
  | nil => cases logging.file <;> rfl
  | cons entry entries ih =>
    rw [List.foldl_cons, ih]
    cases opened : logging.file with
    | none => simp only [deliver, opened, Option.elim_none]
    | some found => simp only [deliver, opened, Option.elim_some, LogFile.appendAll, List.foldl_cons]

/-- What the records of a logger have to weigh under a level. The HTTP library has a level of its own. -/
def levelFor (rank : Nat) (logger : Text) : Nat :=
  if libraryLoggers.any (isBelow logger) then libraryLevel rank else rank

theorem thresholdFor_setTo {opening : Option (Text × LogFile)} (logger : Text) :
    { setTo settings formatName rank with file := opening }.thresholdFor logger = levelFor rank logger := by
  rw [thresholdFor, levelFor, setTo]
  dsimp only
  by_cases library : libraryLoggers.any (isBelow logger) = true
  · rw [if_pos library, library, Bool.true_and]
    split
    · rfl
    · rename_i unset
      -- Only where everything is logged, the library is left to the general level.
      have zero : libraryLevel rank = 0 := by simpa using unset
      rw [zero]
      unfold libraryLevel at zero
      split at zero
      · exact zero
      · cases zero
  · rw [if_neg library, Bool.eq_false_iff.mpr library, Bool.false_and]
    rfl

/-- The lines of entries on a console. -/
def consoleText (format : LogFormat) (entries : List Entry) : Text :=
  entries.flatMap fun entry => entry.2.line format entry.1 ++ "\n"

/-- What entries that are due leave behind under the settings of a setup. -/
structure Delivered (settings : LogSettings) (format : LogFormat) (home : Text) (due : List Entry)
    (before after : Written) : Prop where
  console : settings.consoleEnabled = true → after.errors = before.errors ++ consoleText format due
  silence : settings.consoleEnabled = false → (after.errors = before.errors ↔
    settings.file.enabled = true ∨ ∀ entry ∈ due, entry.2.severity.rank < Severity.warning.rank)
  /-- The log grows at its end. What it loses stood at its start, and is lost only when a file is set aside. -/
  log : settings.file.enabled = true → ∃ name dropped, settings.file.name? home = some name ∧
    before.files.logText name settings.file.backupCount.toNat ++ textOf due =
      dropped ++ after.files.logText name settings.file.backupCount.toNat ∧
    (settings.file.maxBytes ≤ 0 ∨ settings.file.backupCount ≤ 0 → dropped = []) ∧
    ∀ last ∈ due.getLast?, ∃ start, after.files.read? name = some (start ++ (last.line ++ "\n"))
  unlogged : settings.file.enabled = false → after.files = before.files

/-- Without a console, an entry is shown only if there is no log file and it is a heavy one. -/
theorem displayed_eq_nil_iff (disabled : logging.console = none) (entry : Entry) :
    logging.displayed entry = [] ↔ logging.file.isSome = true ∨ entry.2.severity.rank < Severity.warning.rank := by
  rw [displayed, disabled]
  cases logging.file with
  | some opened => simp
  | none =>
    dsimp only
    split
    · rename_i heavy
      have lineEnd : entry.2.bareLine entry.1 ++ ("\n" : Text) ≠ [] := List.append_ne_nil_of_right_ne_nil _ (by decide)
      simp only [lineEnd, Option.isSome_none, Bool.false_eq_true, false_or, false_iff]
      omega
    · rename_i light
      simp only [Option.isSome_none, Bool.false_eq_true, false_or, true_iff]
      omega

theorem flatMap_displayed_of_console {format : LogFormat} (enabled : logging.console = some format) (entries : List Entry) :
    entries.flatMap logging.displayed = consoleText format entries := by
  refine List.flatMap_congr fun entry _ => ?_
  rw [displayed, enabled]

theorem flatMap_displayed_eq_nil_iff (disabled : logging.console = none) (entries : List Entry) :
    entries.flatMap logging.displayed = [] ↔
      logging.file.isSome = true ∨ ∀ entry ∈ entries, entry.2.severity.rank < Severity.warning.rank := by
  rw [List.flatMap_eq_nil_iff]
  simp only [displayed_eq_nil_iff disabled]
  by_cases opened : logging.file.isSome = true
  · simp only [opened, true_or, implies_true]
  · simp only [opened, Bool.false_eq_true, false_or]

/-- After a setup that returns, each entry that weighs what its logger asks for is written once to the console and once
to the log, if they are enabled. Without a console nothing is shown, unless there is no log file either: then the
heavier entries are. -/
theorem delivers_due_once {files : Files}
    (returned : (run (setUp settings levelName formatName home) logging files).1 = .ok ()) (entries : List Entry)
    (errors : Text) :
    let (logging, files) := (run (setUp settings levelName formatName home) logging files).2
    ∃ rank, level (levelName.getD settings.level) = .ok rank ∧
      Delivered settings ((formatName.map LogFormat.ofName).getD settings.format) home
        (entries.filter fun entry => levelFor rank entry.2.logger ≤ entry.2.severity.rank) ⟨files, errors⟩
        (logging.writeAll ⟨files, errors⟩ entries) := by
  obtain ⟨rank, opening, left, weighs, opens, leaves⟩ := run_setUp_of_returned returned
  rw [leaves logging]
  have console : { setTo settings formatName rank with file := opening }.console =
      if settings.consoleEnabled then some ((formatName.map LogFormat.ofName).getD settings.format) else none := rfl
  have file : { setTo settings formatName rank with file := opening }.file = opening := rfl
  have filtered : { setTo settings formatName rank with file := opening }.due entries =
      entries.filter fun entry => levelFor rank entry.2.logger ≤ entry.2.severity.rank := by
    simp only [due, thresholdFor_setTo]
  refine ⟨rank, weighs, ?_⟩
  rw [← filtered]
  generalize { setTo settings formatName rank with file := opening } = logging at console file ⊢
  refine ⟨fun enabled => ?_, fun disabled => ?_, fun enabled => ?_, fun disabled => ?_⟩
  · rw [enabled, if_pos rfl] at console
    rw [errors_writeAll, flatMap_displayed_of_console console]
  · rw [disabled, if_neg Bool.false_ne_true] at console
    rw [errors_writeAll, List.append_right_eq_self, flatMap_displayed_eq_nil_iff console, file]
    cases logs : settings.file.enabled with
    | false =>
      obtain ⟨rfl, _⟩ := opened_of_disabled logs opens
      rfl
    | true =>
      obtain ⟨_, _, rfl, _⟩ := opened_of_enabled logs opens
      rfl
  · obtain ⟨name, named, rfl, rfl⟩ := opened_of_enabled enabled opens
    have there : ((files.append name []).read? name).isSome = true := by
      rw [Files.read?_append_self, Option.isSome_some]
    obtain ⟨dropped, grown, whole⟩ := settings.file.logText_appendAll there (logging.due entries)
    rw [files_writeAll, file]
    exact ⟨name, dropped, named, grown, whole, fun last ends => LogFile.read?_appendAll ends⟩
  · obtain ⟨rfl, _⟩ := opened_of_disabled disabled opens
    rw [files_writeAll, file]
    rfl

/-- Entries of four weights. -/
def fourEntries : List Entry :=
  let record (severity : Severity) (event : Text) : Entry := ("now", ⟨severity, "app", event, []⟩)
  [record .debug "one", record .info "two", record .warning "three", record .error "four"]

theorem delivers_due_once_to_both :
    let settings : LogSettings := { file := narrowFile, format := .json }
    let (logging, files) := (run (setUp settings (some "ERROR") none "home") {} []).2
    Delivered settings .json "home" (fourEntries.drop 3) ⟨files, []⟩ (logging.writeAll ⟨files, []⟩ fourEntries) ∧
      (logging.writeAll ⟨files, []⟩ fourEntries).errors =
        "\x7b\"event\": \"four\", \"level\": \"error\", \"logger\": \"app\", \"timestamp\": \"now\"\x7d\n" := by
  have returned : (run (setUp { file := narrowFile, format := .json } (some "ERROR") none "home") {} []).1 = .ok () :=
    toOption_eq_some.mp (by decide +kernel)
  obtain ⟨rank, weighs, delivered⟩ := delivers_due_once returned fourEntries []
  cases weighs
  exact ⟨delivered, by decide +kernel⟩

/-- With both places disabled, a warning is shown. -/
theorem shown_without_console :
    let settings : LogSettings := { consoleEnabled := false }
    let (outcome, logging, files) := run (setUp settings none none "home") {} []
    outcome = .ok () ∧ (logging.write "now" ⟨.warning, "app", "three", []⟩ ⟨files, []⟩).errors =
      "\x7b'event': 'three', 'level': 'warning', 'logger': 'app', 'timestamp': 'now'\x7d\n" :=
  ⟨rfl, by decide +kernel⟩

end Logging

end ProxyControl
