import ProxyControl.Proofs.Logging.Delivery

namespace ProxyControl.Logging

/-- A place to which records are handed. -/
inductive Handler where
  | console (format : LogFormat)
  | file (name : Text) (file : LogFile)
  deriving DecidableEq

/-- The places that are set up, in the order in which they get a record. -/
def handlers (logging : Logging) : List Handler :=
  (logging.console.map Handler.console).toList ++ (logging.file.map fun (name, file) => Handler.file name file).toList

/-- The logging that settings ask for, with its level and the name of its log file. -/
structure Meets (settings : LogSettings) (format : LogFormat) (home : Text) (rank : Nat) (logging : Logging) :
    Prop where
  threshold : logging.threshold = rank
  libraryThreshold : logging.libraryThreshold = libraryLevel rank
  handlers : ∃ name, (settings.file.enabled = true → settings.file.name? home = some name) ∧ logging.handlers =
    (if settings.consoleEnabled then [.console format] else []) ++
      (if settings.file.enabled then [.file name settings.file] else [])

variable {settings : LogSettings} {levelName formatName : Option Text} {home : Text}

theorem meets_setTo {rank : Nat} {opening : Option (Text × LogFile)} {files left : Files}
    (opens : opened settings home files = .ok (opening, left)) :
    Meets settings ((formatName.map LogFormat.ofName).getD settings.format) home rank
      { setTo settings formatName rank with file := opening } := by
  refine ⟨rfl, rfl, ?_⟩
  cases logs : settings.file.enabled with
  | false =>
    obtain ⟨rfl, _⟩ := opened_of_disabled logs opens
    refine ⟨[], Bool.noConfusion, ?_⟩
    cases shows : settings.consoleEnabled <;> simp [Logging.handlers, setTo, shows]
  | true =>
    obtain ⟨name, named, rfl, _⟩ := opened_of_enabled logs opens
    refine ⟨name, fun _ => named, ?_⟩
    cases shows : settings.consoleEnabled <;> simp [Logging.handlers, setTo, shows]

/-- Which log file is opened does not depend on the files that are there. -/
theorem opening_unique {files others left left' : Files} {opening opening' : Option (Text × LogFile)}
    (opens : opened settings home files = .ok (opening, left))
    (alone : opened settings home others = .ok (opening', left')) : opening' = opening := by
  cases logs : settings.file.enabled with
  | false =>
    obtain ⟨rfl, _⟩ := opened_of_disabled logs opens
    obtain ⟨rfl, _⟩ := opened_of_disabled logs alone
    rfl
  | true =>
    obtain ⟨name, named, rfl, _⟩ := opened_of_enabled logs opens
    obtain ⟨other, named', rfl, _⟩ := opened_of_enabled logs alone
    obtain rfl : name = other := Option.some.inj (named.symm.trans named')
    rfl

namespace History

/-- A setup that returns leaves nothing of what was set up before it, whether that returned or failed. The levels and
the places are those that its settings ask for, and they are the same in a program that does nothing else, with
whatever files: so is all that is shown afterwards. -/
theorem setUp_forgets {start : History} {acts : List Act}
    (returned : (run (setUp settings levelName formatName home) (start.after home acts).logging
      (start.after home acts).files).1 = .ok ()) :
    let before := start.after home acts
    let (_, logging, files) := run (setUp settings levelName formatName home) before.logging before.files
    (∃ rank, level (levelName.getD settings.level) = .ok rank ∧
      Meets settings ((formatName.map LogFormat.ofName).getD settings.format) home rank logging) ∧
    run (setUp settings levelName formatName home) {} before.files = (.ok (), logging, files) ∧
    ∀ others fresh left, run (setUp settings levelName formatName home) {} others = (.ok (), fresh, left) →
      fresh = logging ∧ ∀ errors entries,
        (fresh.writeAll ⟨left, errors⟩ entries).errors = (logging.writeAll ⟨files, errors⟩ entries).errors := by
  obtain ⟨rank, opening, left, weighs, opens, leaves⟩ := run_setUp_of_returned returned
  dsimp only
  rw [leaves]
  refine ⟨⟨rank, weighs, meets_setTo opens⟩, leaves {}, fun others fresh left' alone => ?_⟩
  have alone_returned : (run (setUp settings levelName formatName home) {} others).1 = .ok () := congrArg Prod.fst alone
  obtain ⟨rank', opening', _, weighs', opens', leaves'⟩ := run_setUp_of_returned alone_returned
  obtain rfl : rank' = rank := Except.ok.inj (weighs'.symm.trans weighs)
  obtain rfl : opening' = opening := opening_unique opens opens'
  rw [leaves'] at alone
  cases alone
  refine ⟨rfl, fun errors entries => ?_⟩
  rw [errors_writeAll, errors_writeAll]

/-- A setup with a log file, one with an unknown level, and one whose log would have to stand below the log file. The
last of them breaks off half-way. -/
def unsettled : List Act :=
  [.setUp { file := narrowFile } (some "DEBUG") none, .log ("now", ⟨.info, "httpx", "asked", []⟩),
    .setUp { consoleEnabled := false } (some "loud") none,
    .setUp { consoleEnabled := false, file := { narrowFile with path := "log/below" } } none none]

theorem setUp_forgets_unsettled :
    let before := after "home" ⟨{}, [], [], 0⟩ unsettled
    let settings : LogSettings := { level := "error", format := .json }
    let (_, logging, files) := run (setUp settings none none "home") before.logging before.files
    before.logging.handlers = [] ∧ before.logging.libraryThreshold = 10 ∧
      Meets settings .json "home" 40 logging ∧
      run (setUp settings none none "home") {} before.files = (.ok (), logging, files) := by
  have returned : (run (setUp { level := "error", format := .json } none none "home")
      (after "home" ⟨{}, [], [], 0⟩ unsettled).logging (after "home" ⟨{}, [], [], 0⟩ unsettled).files).1 = .ok () :=
    toOption_eq_some.mp (by decide +kernel)
  obtain ⟨⟨rank, weighs, meets⟩, alone, _⟩ := setUp_forgets returned
  cases weighs
  exact ⟨by decide +kernel, by decide +kernel, meets, alone⟩

end History

end ProxyControl.Logging
