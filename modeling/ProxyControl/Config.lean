import ProxyControl.Files
import ProxyControl.Logging.Settings
import ProxyControl.Settings
import ProxyControl.Yaml.Document

namespace ProxyControl

/-- The settings file. Every part of it may be left out. -/
structure Config where
  timeout : Binary64 := Client.defaultTimeout
  userAgent : Option Text := none
  logging : LogSettings := {}
  deriving DecidableEq, Repr

open Validation

namespace Config

def checkClient (input : Datum) : Checked (Binary64 × Option Text) := do
  let entries ← entries "ClientSchema" input
  let usual : Config := {}
  let build (timeout : Option Binary64) (userAgent : Option (Option Text)) (_ : Unit) : Binary64 × Option Text :=
    (timeout.getD usual.timeout, userAgent.getD usual.userAgent)
  (Checked.with (.ok build) (field ["timeout"] positiveNumber entries))
    |>.with (field ["user_agent"] (optional text) entries)
    |>.with (noOthers ["timeout", "user_agent"] entries)

def check (input : Datum) : Checked Config := do
  let entries ← entries "ConfigSchema" input
  let usual : Config := {}
  let build (client : Option (Binary64 × Option Text)) (logging : Option LogSettings) (_ : Unit) : Config :=
    let (timeout, userAgent) := client.getD (usual.timeout, usual.userAgent)
    ⟨timeout, userAgent, logging.getD usual.logging⟩
  (Checked.with (.ok build) (field ["client"] checkClient entries))
    |>.with (field ["logging"] LogSettings.check entries)
    |>.with (noOthers ["client", "logging"] entries)

/-- Whether a document counts as empty: null, false, zero, or without content. -/
def isBlank : Datum → Bool
  | .none | .bool false | .int 0 | .text [] | .bytes [] | .list [] | .set [] | .mapping [] => true
  | .float (.finite _ 0 _) => true
  | _ => false

def hasTextKeys (entries : List (Datum × Datum)) : Bool :=
  entries.all fun (key, _) =>
    match key with
    | .text _ => true
    | _ => false

/-- Line ends of other systems become line feeds. -/
def plainLines (t : Text) : Text := (Text.replace "\r\n" "\n" t).map fun p => if p = .char '\r' then .char '\n' else p

/-- The settings in a mapping. Its keys become the names of arguments. -/
def ofMapping (name : Text) (entries : List (Datum × Datum)) : Outcome Config :=
  if !hasTextKeys entries then .error (.fault .wrongKind "keywords must be strings")
  else
    (Validation.report "ConfigSchema" (check (.mapping entries))).mapError fun report =>
      .misconfigured (.schema name report)

/-- The settings in the document of a file of the given name. -/
def ofDocument (name : Text) (document : Datum) : Outcome Config :=
  if isBlank document then ofMapping name []
  else
    match document with
    | .mapping entries => ofMapping name entries
    | _ => .error (.misconfigured (.notMapping name))

/-- Reads the settings file of the given name. -/
def ofText (name content : Text) : Outcome Config := do
  let document ← (Yaml.load (plainLines content)).mapError (Yaml.LoadError.failure name)
  ofDocument name document

/-- Loads the settings file at a path. A missing file stands for the usual settings, unless it is required. -/
def load (files : Files) (path : Path) (isRequired : Bool) : Outcome Config :=
  match files.entry path with
  | .file content => ofText path.toText content
  | .directory => .error (.fault .directory ("[Errno 21] Is a directory: " ++ path.toText.quoted))
  | .missing => if isRequired then .error (.misconfigured (.fileMissing path.toText)) else .ok {}

end Config

end ProxyControl
