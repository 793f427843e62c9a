import ProxyControl.CommandLine.Words
import ProxyControl.Validation.Coerce

namespace ProxyControl.CommandLine

/-- The value of a flag. -/
inductive Value where
  | mark
  | text (t : Text)
  | texts (ts : List Text)
  | number (n : Int)
  deriving DecidableEq, Repr

/-- The flags of a command that have a value. -/
abbrev Arguments := List (Flag × Value)

/-- The value of a flag that was given with these texts; the last one counts unless all are kept. -/
def Flag.value (flag : Flag) (texts : List Text) : Except UsageError Value :=
  let last := texts.getLast?.getD []
  match flag.content with
  | .mark => .ok .mark
  | .text => .ok (.text last)
  | .texts => .ok (.texts texts)
  | .number =>
    match Validation.integer (.text last) with
    | .ok n => .ok (.number n)
    | .error problems =>
      .error (.valueInvalid flag.names ((problems.head?.map fun problem => problem.defect.message).getD []))

/-- The flags in the order in which they are looked at: as they were given, then as they are listed. -/
def inOrder (flags : List Flag) (given : Given) : List Flag := (given.map Prod.fst ++ flags).eraseDups

namespace Arguments

/-- The value of a flag, if it was given. One that is required has to be. -/
def entry (given : Given) (flag : Flag) : Except UsageError (Option (Flag × Value)) :=
  match (given.filter fun (other, _) => other == flag).map Prod.snd with
  | [] => if flag.isRequired then .error (.flagMissing flag.names) else .ok none
  | texts => (flag.value texts).map fun value => some (flag, value)

def ofGiven (flags : List Flag) (given : Given) : Except UsageError Arguments :=
  ((inOrder flags given).mapM (entry given)).map fun entries => entries.filterMap id

def isSet (arguments : Arguments) (flag : Flag) : Bool := (arguments.lookup flag).isSome

def text? (arguments : Arguments) (flag : Flag) : Option Text :=
  match arguments.lookup flag with
  | some (.text t) => some t
  | _ => none

def texts (arguments : Arguments) (flag : Flag) : List Text :=
  match arguments.lookup flag with
  | some (.texts ts) => ts
  | _ => []

def number? (arguments : Arguments) (flag : Flag) : Option Int :=
  match arguments.lookup flag with
  | some (.number n) => some n
  | _ => none

end Arguments

def helpFlag : Flag := { names := ["--help"], content := .mark }

/-- What a command or a group of commands is called and takes. -/
structure Usage where
  path : Text
  flags : List Flag := []
  commands : List Text := []

namespace Usage

def flagLine (flag : Flag) : Text :=
  let value : Text :=
    match flag.content with
    | .mark => ""
    | .number => " INTEGER"
    | .text | .texts => " TEXT"
  "  " ++ Text.join ", " flag.names ++ value

/-- The help page. -/
def page (usage : Usage) : Text :=
  let words : Text := if usage.commands.isEmpty then "" else " COMMAND [ARGS]..."
  let commands : List Text :=
    if usage.commands.isEmpty then []
    else "" :: "Commands:" :: usage.commands.map fun name => ("  " : Text) ++ name
  Text.join "\n" (["Usage: " ++ usage.path ++ " [OPTIONS]" ++ words, "", "Options:"] ++
    (usage.flags ++ [helpFlag]).map flagLine ++ commands) ++ "\n"

/-- Reads the flags of a command or group, and leaves the other words. -/
def readFlags (usage : Usage) (mixed : Bool) (words : List Text) : Except Stop (Arguments × List Text) := do
  let flags := usage.flags ++ [helpFlag]
  let reading ← (read flags mixed words).mapError .misuse
  if reading.given.any fun (flag, _) => flag == helpFlag then throw (.help usage.page)
  let arguments ← (Arguments.ofGiven flags reading.given).mapError .misuse
  return (arguments, reading.words)

/-- Reads the words of a command, which takes flags only. -/
def readCommand (usage : Usage) (words : List Text) : Except Stop Arguments := do
  let (arguments, others) ← usage.readFlags true words
  if !others.isEmpty then throw (.misuse (.extraWords others))
  return arguments

/-- Reads the flags of a group, the name of one of its commands, and the words that are left for it. -/
def readGroup (usage : Usage) (words : List Text) : Except Stop (Arguments × Text × List Text) := do
  if words.isEmpty then throw (.misuse (.nothingGiven usage.page))
  let (arguments, others) ← usage.readFlags false words
  match others with
  | [] => throw (.misuse .commandMissing)
  | name :: rest =>
    if usage.commands.contains name then return (arguments, name, rest)
    if isFlagWord name then
      let _ ← usage.readFlags false (name :: rest)
    throw (.misuse (.unknownCommand name (Text.similarTo name usage.commands)))

end Usage

end ProxyControl.CommandLine
