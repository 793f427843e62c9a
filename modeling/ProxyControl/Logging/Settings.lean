import ProxyControl.Logging.Format
import ProxyControl.Validation.Coerce

namespace ProxyControl

/-- The file that log records are written to. It is set aside once it would grow beyond `maxBytes`, and
`backupCount` such files are kept. -/
structure LogFile where
  enabled : Bool := false
  path : Text := "~/.rpaasv2/rpaasv2.jsonl"
  maxBytes : Int := 10485760
  backupCount : Int := 5
  deriving DecidableEq, Repr

structure LogSettings where
  level : Text := "WARNING"
  format : LogFormat := .console
  consoleEnabled : Bool := true
  file : LogFile := {}
  deriving DecidableEq, Repr

open Validation

namespace LogFile

def check (input : Datum) : Checked LogFile := do
  let entries ← entries "FileHandlerSchema" input
  let usual : LogFile := {}
  let build (enabled : Option Bool) (path : Option Text) (maxBytes backupCount : Option Int) (_ : Unit) : LogFile :=
    ⟨enabled.getD usual.enabled, path.getD usual.path, maxBytes.getD usual.maxBytes,
      backupCount.getD usual.backupCount⟩
  (Checked.with (.ok build) (field ["enabled"] boolean entries))
    |>.with (field ["path"] text entries)
    |>.with (field ["max_bytes"] integer entries)
    |>.with (field ["backup_count"] integer entries)
    |>.with (noOthers ["enabled", "path", "max_bytes", "backup_count"] entries)

end LogFile

namespace LogSettings

def formatPattern : Text := "^(console|json)$"

def checkFormat (input : Datum) : Checked LogFormat := do
  let name ← text input
  let name ← encodable input name
  if name = LogFormat.console.name then .ok .console
  else if name = LogFormat.json.name then .ok .json
  else reject input (.pattern formatPattern)

def checkConsole (input : Datum) : Checked Bool := do
  let entries ← entries "ConsoleHandlerSchema" input
  (Checked.with (.ok fun enabled _ => enabled.getD true) (field ["enabled"] boolean entries))
    |>.with (noOthers ["enabled"] entries)

def checkHandlers (input : Datum) : Checked (Bool × LogFile) := do
  let entries ← entries "HandlersSchema" input
  let build (console : Option Bool) (file : Option LogFile) (_ : Unit) : Bool × LogFile :=
    (console.getD true, file.getD {})
  (Checked.with (.ok build) (field ["console"] checkConsole entries))
    |>.with (field ["file"] LogFile.check entries)
    |>.with (noOthers ["console", "file"] entries)

def check (input : Datum) : Checked LogSettings := do
  let entries ← entries "LoggingSchema" input
  let usual : LogSettings := {}
  let build (level : Option Text) (format : Option LogFormat) (handlers : Option (Bool × LogFile)) (_ : Unit) :
      LogSettings :=
    let (console, file) := handlers.getD (usual.consoleEnabled, usual.file)
    ⟨level.getD usual.level, format.getD usual.format, console, file⟩
  (Checked.with (.ok build) (field ["level"] text entries))
    |>.with (field ["format"] checkFormat entries)
    |>.with (field ["handlers"] checkHandlers entries)
    |>.with (noOthers ["level", "format", "handlers"] entries)

end LogSettings

end ProxyControl
