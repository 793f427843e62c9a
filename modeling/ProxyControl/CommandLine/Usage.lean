import ProxyControl.Text.Quote

namespace ProxyControl.CommandLine

/-- Why a command line cannot be understood. -/
inductive UsageError where
  | nothingGiven (page : Text)
  | commandMissing
  | unknownCommand (name : Text) (similar : List Text)
  | unknownFlag (name : Text) (similar : List Text)
  | valueMissing (name : Text)
  | valueUnwanted (name : Text)
  | valueInvalid (names : List Text) (reason : Text)
  | flagMissing (names : List Text)
  | extraWords (words : List Text)
  deriving DecidableEq, Repr

namespace UsageError

/-- The names of a flag as messages show them. -/
def shownNames (names : List Text) : Text := Text.join " / " (names.map fun name => "'" ++ name ++ "'")

def message : UsageError → Text
  | nothingGiven page => page
  | commandMissing => "Missing command."
  | unknownCommand name [] => "No such command " ++ name.quoted ++ "."
  | unknownCommand name similar =>
    "No such command " ++ name.quoted ++ ". Did you mean " ++ Text.join ", " (similar.map Text.quoted) ++ "?"
  | unknownFlag name [] => "No such option: " ++ name
  | unknownFlag name similar => "No such option: " ++ name ++ " (Possible options: " ++ Text.join ", " similar ++ ")"
  | valueMissing name => "Option " ++ name.quoted ++ " requires an argument."
  | valueUnwanted name => "Option " ++ name.quoted ++ " does not take a value."
  | valueInvalid names reason => "Invalid value for " ++ shownNames names ++ ": " ++ reason
  | flagMissing names => "Missing option " ++ shownNames names ++ "."
  | extraWords words => "Got unexpected extra argument(s) (" ++ Text.join " " words ++ ")"

end UsageError

/-- Why reading a command line ends before there is a command: its help page is asked for, or it is wrong. -/
inductive Stop where
  | help (page : Text)
  | misuse (error : UsageError)
  deriving DecidableEq, Repr

end ProxyControl.CommandLine
