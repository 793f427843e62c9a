import ProxyControl.CommandLine.Run
import ProxyControl.Logging.Stamp
import Std.Time.DateTime.Timestamp

namespace ProxyControl.Program

/-- The variables that count, as they may be written. -/
def variableNames : List String :=
  let names := ["RPAAS_URL", "RPAAS_USER", "RPAAS_PASSWORD", "TSURU_TARGET", "TSURU_TOKEN", "RPAASV2_CONFIG"]
  "HOME" :: names.map String.toLower ++ names

def readEnvironment : IO Environment := do
  let found ← variableNames.mapM fun name => do
    return (← IO.getEnv name).map fun value => (Text.ofString name, Text.ofString value)
  return found.filterMap id

/-- The files of the given names that can be read. -/
def readFiles (names : List Text) : IO Files := do
  let found ← names.mapM fun name => do
    try return some (name, Text.ofString (← IO.FS.readFile name.toString))
    catch _ => return none
  return found.filterMap id

/-- Brings the files from their contents before to those after. -/
def writeFiles (before after : Files) : IO Unit := do
  for (name, content) in after do
    if before.read? name != some content then
      let path := Path.ofText name
      IO.FS.createDirAll (Path.toText ⟨path.root, path.parts.dropLast⟩).toString
      IO.FS.writeFile name.toString content.toString
  for (name, _) in before do
    if (after.read? name).isNone then IO.FS.removeFile name.toString

def now : IO Text := do
  let time ← Std.Time.Timestamp.now
  return Stamp.ofMicroseconds (time.toNanosecondsSinceUnixEpoch.val.toNat / 1000)

/-- There is no transport below this program: no API is ever reached. -/
def unreachable : Http.Answer := .error (.broken .connectError "All connection attempts failed")

end ProxyControl.Program

open ProxyControl ProxyControl.Program in
def main (arguments : List String) : IO UInt32 := do
  let words := arguments.map Text.ofString
  let environment ← readEnvironment
  let config ← readFiles (CommandLine.configFile? environment words).toList
  let logs ← readFiles (CommandLine.logFiles environment config words)
  let files := config ++ logs
  let result := CommandLine.run ⟨environment, files, unreachable, ← now⟩ words
  writeFiles files result.files
  IO.print result.output.toString
  IO.eprint result.shownErrors.toString
  return UInt32.ofNat result.ending.status
