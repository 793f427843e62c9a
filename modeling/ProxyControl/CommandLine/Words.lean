import ProxyControl.CommandLine.Usage
import ProxyControl.Text.Similarity

namespace ProxyControl.CommandLine

/-- What a flag stands with. -/
inductive Content where
  | mark
  | text
  | texts
  | number
  deriving DecidableEq, Repr

/-- A flag with its names in the order messages show them. -/
structure Flag where
  names : List Text
  content : Content := .text
  isRequired : Bool := false
  deriving DecidableEq, Repr

/-- A flag as it was given, with the text that goes with it. A mark has none. -/
abbrev Given := List (Flag × Text)

/-- The start of one word: the flags it holds, and the flag that still needs the next word, as it was
written. -/
structure WordReading where
  given : Given := []
  awaiting : Option (Text × Flag) := none

def isLong (name : Text) : Bool := List.isPrefixOf ([.char '-', .char '-'] : Text) name

def longNames (flags : List Flag) : List Text := (flags.flatMap Flag.names).filter isLong

def named? (flags : List Flag) (name : Text) : Option Flag := flags.find? fun flag => flag.names.contains name

/-- Reads short names that follow one dash. The first one that takes a value takes the rest of the word. -/
def readShort (flags : List Flag) : Text → Except UsageError WordReading
  | [] => .ok {}
  | p :: rest =>
    let name : Text := [.char '-', p]
    match named? flags name with
    | none => .error (.unknownFlag name [])
    | some flag =>
      if flag.content = .mark then
        (readShort flags rest).map fun more => { more with given := (flag, []) :: more.given }
      else if rest.isEmpty then .ok { awaiting := some (name, flag) }
      else .ok { given := [(flag, rest)] }

/-- Reads a word that begins with a dash. A long name may have its value after an equals sign. -/
def readFlags (flags : List Flag) (word : Text) : Except UsageError WordReading :=
  let (name, value) : Text × Option Text :=
    match Text.cut? (.char '=') word with
    | some (name, value) => (name, some value)
    | none => (word, none)
  match if isLong name then named? flags name else none with
  | some flag =>
    match flag.content, value with
    | .mark, some _ => .error (.valueUnwanted name)
    | .mark, none => .ok { given := [(flag, [])] }
    | _, some value => .ok { given := [(flag, value)] }
    | _, none => .ok { awaiting := some (name, flag) }
  | none =>
    if isLong word then
      .error (.unknownFlag name ((Text.similarTo name (longNames flags)).mergeSort Text.le))
    else readShort flags (word.drop 1)

/-- What the words of a command line say: the flags in the order they were given, and the other words. -/
structure Reading where
  given : Given := []
  words : List Text := []

def Reading.before (given : Given) (reading : Reading) : Reading := { reading with given := given ++ reading.given }

def isFlagWord (word : Text) : Bool := word.head? == some (.char '-') && 1 < word.length

/-- Reads the words of a command line. Two dashes end the flags; unless flags may stand among the other
words, so does the first of those. -/
def read (flags : List Flag) (mixed : Bool) : List Text → Except UsageError Reading
  | [] => .ok {}
  | word :: rest =>
    if word = ([.char '-', .char '-'] : Text) then .ok { words := rest }
    else if isFlagWord word then
      match readFlags flags word with
      | .error error => .error error
      | .ok ⟨given, none⟩ => (read flags mixed rest).map (.before given)
      | .ok ⟨given, some (name, flag)⟩ =>
        match rest with
        | [] => .error (.valueMissing name)
        | value :: rest => (read flags mixed rest).map (.before (given ++ [(flag, value)]))
    else if mixed then (read flags mixed rest).map fun reading => { reading with words := word :: reading.words }
    else .ok { words := word :: rest }

end ProxyControl.CommandLine
