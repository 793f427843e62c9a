import ProxyControl.Logging.Rotation
import ProxyControl.Unicode.Case

namespace ProxyControl

/-- Where log records go, and how heavy they have to be. -/
structure Logging where
  threshold : Nat := Severity.warning.rank
  /-- What the records of the HTTP library have to weigh; zero leaves them to the general threshold. -/
  libraryThreshold : Nat := 0
  console : Option LogFormat := none
  /-- The log file with its name. -/
  file : Option (Text × LogFile) := none
  deriving Repr

namespace Logging

/-- The weights that a setting may name. -/
def levels : List (Text × Nat) :=
  [("NOTSET", 0), ("DEBUG", 10), ("INFO", 20), ("WARN", 30), ("WARNING", 30), ("ERROR", 40), ("CRITICAL", 50),
    ("FATAL", 50)]

/-- The usual line of a log record, under the name that the logging library has for it. -/
def basicFormat : Text := "%(levelname)s:%(name)s:%(message)s"

/-- The styles of log lines, as the logging library shows them under the name it has for them. -/
def styles : Text :=
  "\x7b'%': (<class 'logging.PercentStyle'>, '%(levelname)s:%(name)s:%(message)s'), " ++
    "'\x7b': (<class 'logging.StrFormatStyle'>, '\x7blevelname\x7d:\x7bname\x7d:\x7bmessage\x7d'), " ++
    "'$': (<class 'logging.StringTemplateStyle'>, '$\x7blevelname\x7d:$\x7bname\x7d:$\x7bmessage\x7d')\x7d"

/-- The weight that a name stands for. Two other things of the logging library have names without lower case letters;
they are found, and are no weights. -/
def level (name : Text) : Outcome Nat :=
  let name := name.upper
  match levels.lookup name with
  | some rank => .ok rank
  | none =>
    if name = "BASIC_FORMAT" then .error (.fault .value ("Unknown level: " ++ basicFormat.quoted))
    else if name = "_STYLES" then .error (.fault .wrongKind ("Level not an integer or a valid string: " ++ styles))
    else .error (.fault .noSuchName ("module 'logging' has no attribute '" ++ name ++ "'"))

/-- Makes sure that the directory of a log file can hold it. -/
def checkDirectory (files : Files) (path : Path) : Outcome Unit :=
  let directory : Path := ⟨path.root, path.parts.dropLast⟩
  match files.entry directory with
  | .file _ => .error (.fault .fileExists ("[Errno 17] File exists: " ++ directory.toText.quoted))
  | _ =>
    if (List.range directory.parts.length).any fun n => files.isFile (directory.parts.take n) then
      .error (.fault .notDirectory ("[Errno 20] Not a directory: " ++ directory.toText.quoted))
    else .ok ()

/-- Opens the log file, which is there from then on. -/
def openFile (file : LogFile) (home : Text) (files : Files) : Outcome (Text × Files) := do
  let path ← (Path.ofText file.path).expandHome home
  checkDirectory files path
  let name := path.resolved.toText
  if let .directory := files.entry path.resolved then
    throw (.fault .directory ("[Errno 21] Is a directory: " ++ name.quoted))
  return (name, files.append name [])

/-- A change of the logging, which may also add to the files. What was changed before a failure stays so. -/
abbrev Setup := ExceptT Failure (StateM (Logging × Files))

/-- The HTTP library tells about every request, which is of interest only when everything is logged. -/
def libraryLevel (threshold : Nat) : Nat :=
  if threshold ≤ Severity.debug.rank then threshold else Severity.warning.rank

/-- Sets up logging. A level or a format that is given wins over the settings. -/
def setUp (settings : LogSettings) (levelName formatName : Option Text) (home : Text) : Setup Unit := do
  let threshold ← MonadExcept.ofExcept (level (levelName.getD settings.level))
  let format := (formatName.map LogFormat.ofName).getD settings.format
  let console := if settings.consoleEnabled then some format else none
  modify fun (logging, files) => ({ logging with threshold, console, file := none }, files)
  if settings.file.enabled then
    let (logging, files) ← get
    let (name, files) ← MonadExcept.ofExcept (openFile settings.file home files)
    set ({ logging with file := some (name, settings.file) }, files)
  modify fun (logging, files) => ({ logging with libraryThreshold := libraryLevel threshold }, files)

/-- The outcome of a setup, and the logging and the files after it. -/
def run (setup : Setup Unit) (logging : Logging) (files : Files) : Outcome Unit × Logging × Files :=
  Id.run (StateT.run (ExceptT.run setup) (logging, files))

/-- The loggers of the HTTP library. -/
def libraryLoggers : List Text := ["httpx", "httpcore"]

/-- Whether a logger is the given one or below it. -/
def isBelow (logger ancestor : Text) : Bool := logger == ancestor || (ancestor ++ ".").isPrefixOf logger

def thresholdFor (logging : Logging) (logger : Text) : Nat :=
  if libraryLoggers.any (isBelow logger) && logging.libraryThreshold != 0 then logging.libraryThreshold
  else logging.threshold

/-- Where the lines of log records end up: the files, and the text for the error stream. -/
structure Written where
  files : Files
  errors : Text := []

/-- Writes a record wherever it has to go. Where nothing is set up, the heavier records are still shown. -/
def write (logging : Logging) (stamp : Text) (record : Record) (written : Written) : Written :=
  if record.severity.rank < logging.thresholdFor record.logger then written
  else
    let shown (line : Text) (written : Written) : Written :=
      { written with errors := written.errors ++ line ++ "\n" }
    let kept (name : Text) (file : LogFile) (written : Written) : Written :=
      { written with files := file.append name (record.jsonLine stamp ++ "\n") written.files }
    match logging.console, logging.file with
    | none, none =>
      if Severity.warning.rank ≤ record.severity.rank then shown (record.bareLine stamp) written else written
    | some format, none => shown (record.line format stamp) written
    | none, some (name, file) => kept name file written
    | some format, some (name, file) => kept name file (shown (record.line format stamp) written)

end Logging

end ProxyControl
