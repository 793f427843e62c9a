import ProxyControl.CommandLine.Perform
import ProxyControl.ConfigCache
import ProxyControl.Logging
import ProxyControl.Terminal

namespace ProxyControl.CommandLine

/-- What an invocation finds: the environment, the files, what the API will answer, and the time that log
records are stamped with. -/
structure Surroundings where
  environment : Environment
  files : Files
  answer : Http.Answer
  stamp : Text

/-- How an invocation ends. -/
inductive Ending where
  | completed
  | failed (failure : Failure)
  | misused (error : UsageError)
  deriving Repr

/-- The exit status of the process. -/
def Ending.status : Ending → Nat
  | completed => 0
  | failed _ => 1
  | misused _ => 2

/-- What an invocation leaves behind. -/
structure Result where
  ending : Ending
  output : Text := []
  errors : Text := []
  files : Files
  requests : List Http.Request := []
  context : Context := {}

/-- The line that tells about a failure. -/
def errorLine (failure : Failure) : Text := Terminal.plain ("Error: " ++ failure.message) ++ "\n"

namespace Result

/-- Ends with a failure, which is shown if it is one that commands report. -/
def fail (failure : Failure) (result : Result) : Result :=
  { result with
    ending := .failed failure
    errors := if failure.isReported then result.errors ++ errorLine failure else result.errors }

/-- Ends before there is a command. -/
def stop (reason : Stop) (result : Result) : Result :=
  match reason with
  | .help page => { result with output := result.output ++ page }
  | .misuse error => { result with ending := .misused error }

end Result

/-- The record of an invocation. -/
def invoked (context : Context) (invocation : Invocation) : Record :=
  ⟨.debug, "rpaasv2.cli.app", "CLI invoked",
    [("command", .text invocation.name), ("direct", .bool (Text.present context.target.rpaasUrl).isSome)]⟩

/-- Reads and carries out the command of an invocation, with logging set up. -/
def Invocation.carryOut (invocation : Invocation) (surroundings : Surroundings) (logging : Logging)
    (context : Context) (files : Files) : Result :=
  let write (written : Logging.Written) (record : Record) := logging.write surroundings.stamp record written
  let written := write ⟨files, []⟩ (invoked context invocation)
  match Command.ofInvocation invocation with
  | .error reason =>
    Result.stop reason { ending := .completed, errors := written.errors, files := written.files, context }
  | .ok command =>
    let (outcome, session) := Session.run {} (command.perform context surroundings.answer)
    let written := session.records.foldl write written
    let result : Result :=
      { ending := .completed, output := session.written, errors := written.errors, files := written.files,
        requests := session.requests, context }
    match outcome with
    | .ok _ => result
    | .error failure => result.fail failure

/-- The settings file, and logging set up as it says, with the files after that. -/
def Invocation.prepare (invocation : Invocation) (environment : Environment) (files : Files) :
    Outcome (Config × Logging × Files) := do
  let (_, config) ← (ConfigCache.getConfig {} environment files invocation.configPath).1
  let setup := Logging.setUp config.logging invocation.verbosity.level? none environment.home
  let (outcome, logging, files) := Logging.run setup {} files
  outcome.map fun () => (config, logging, files)

/-- Runs a command line. -/
def run (surroundings : Surroundings) (words : List Text) : Result :=
  let nothing : Result := { ending := .completed, files := surroundings.files }
  match Invocation.ofWords words with
  | .error reason => nothing.stop reason
  | .ok invocation =>
    match invocation.prepare surroundings.environment surroundings.files with
    | .error failure => nothing.fail failure
    | .ok (config, logging, files) =>
      let context := ({} : Context).configure surroundings.environment.settings (some config) invocation.target
      invocation.carryOut surroundings logging context files

/-- The name of the settings file that a command line makes use of. -/
def configFile? (environment : Environment) (words : List Text) : Option Text :=
  match Invocation.ofWords words with
  | .error _ => none
  | .ok invocation =>
    match (ConfigCache.resolvePath {} environment invocation.configPath).1 with
    | .ok path => some path.toText
    | .error _ => none

/-- The names of the log files that a command line may touch, once its settings file is known. -/
def logFiles (environment : Environment) (files : Files) (words : List Text) : List Text :=
  match Invocation.ofWords words with
  | .error _ => []
  | .ok invocation =>
    match invocation.prepare environment files with
    | .ok (_, { file := some (name, file), .. }, _) =>
      name :: (List.range file.backupCount.toNat).map fun number => Files.backupName name (number + 1)
    | _ => []

/-- What the error stream gets. A failure that no command reports ends it too. -/
def Result.shownErrors (result : Result) : Text :=
  match result.ending with
  | .completed => result.errors
  | .misused error => result.errors ++ "Error: " ++ error.message ++ "\n"
  | .failed failure =>
    if failure.isReported then result.errors else result.errors ++ "Failure: " ++ failure.message ++ "\n"

end ProxyControl.CommandLine
