import ProxyControl.Validation.Datum

namespace ProxyControl.Validation

/-- What is wrong with a value. -/
inductive Defect where
  | missing
  | notModel (model : Text)
  | notList
  | notText
  | notUnicode
  | notInteger
  | integerText
  | integerFraction
  | integerSize
  | notFinite
  | notNumber
  | numberText
  | notBoolean
  | booleanText
  | below (bound : Nat)
  | notAbove (bound : Nat)
  | pattern (source : Text)
  | extraKey
  | keyNotText
  deriving DecidableEq, Repr

def Defect.message : Defect → Text
  | missing => "Field required"
  | notModel model => "Input should be a valid dictionary or instance of " ++ model
  | notList => "Input should be a valid list"
  | notText => "Input should be a valid string"
  | notUnicode => "Input should be a valid string, unable to parse raw data as a unicode string"
  | notInteger => "Input should be a valid integer"
  | integerText => "Input should be a valid integer, unable to parse string as an integer"
  | integerFraction => "Input should be a valid integer, got a number with a fractional part"
  | integerSize => "Unable to parse input string as an integer, exceeded maximum size"
  | notFinite => "Input should be a finite number"
  | notNumber => "Input should be a valid number"
  | numberText => "Input should be a valid number, unable to parse string as a number"
  | notBoolean => "Input should be a valid boolean"
  | booleanText => "Input should be a valid boolean, unable to interpret input"
  | below bound => "Input should be greater than or equal to " ++ Text.ofNat bound
  | notAbove bound => "Input should be greater than " ++ Text.ofNat bound
  | pattern source => "String should match pattern '" ++ source ++ "'"
  | extraKey => "Extra inputs are not permitted"
  | keyNotText => "Keys should be strings"

/-- The name under which the manual lists a defect. -/
def Defect.code : Defect → Text
  | missing => "missing"
  | notModel _ => "model_type"
  | notList => "list_type"
  | notText => "string_type"
  | notUnicode => "string_unicode"
  | notInteger => "int_type"
  | integerText => "int_parsing"
  | integerFraction => "int_from_float"
  | integerSize => "int_parsing_size"
  | notFinite => "finite_number"
  | notNumber => "float_type"
  | numberText => "float_parsing"
  | notBoolean => "bool_type"
  | booleanText => "bool_parsing"
  | below _ => "greater_than_equal"
  | notAbove _ => "greater_than"
  | pattern _ => "string_pattern_mismatch"
  | extraKey => "extra_forbidden"
  | keyNotText => "invalid_key"

/-- A step from a value into its parts. -/
inductive Step where
  | key (name : Text)
  | index (n : Int)
  deriving DecidableEq, Repr

def Step.plain : Step → Text
  | key name => name
  | index n => Text.ofInt n

/-- A step in a report; a name with a point in it stands between back quotes. -/
def Step.shown : Step → Text
  | key name => if name.contains (.char '.') then [.ofNat 0x60] ++ name ++ [.ofNat 0x60] else name
  | index n => Text.ofInt n

/-- A defect, where it is, and the value that has it. -/
structure Problem where
  location : List Step
  defect : Defect
  input : Datum
  deriving Repr

def Problem.under (step : Step) (problem : Problem) : Problem :=
  { problem with location := step :: problem.location }

/-- The problems found in one value that was to become a `model`. -/
structure Report where
  model : Text
  problems : List Problem
  deriving Repr

/-- The longest beginning of a text that fits into the given number of bytes. -/
def prefixWithin (bytes : Nat) : Text → Text
  | [] => []
  | p :: rest =>
    let size := (Utf8.encodePoint p).length
    if size ≤ bytes then p :: prefixWithin (bytes - size) rest else []

/-- The longest end of a text that fits into the given number of bytes. -/
def suffixWithin (bytes : Nat) (t : Text) : Text := (prefixWithin bytes t.reverse).reverse

/-- A shown value of more than 50 bytes keeps only its two ends. -/
def shorten (t : Text) : Text :=
  if (Utf8.encodeLoosely t).length > 50 then prefixWithin 25 t ++ "..." ++ suffixWithin 24 t else t

def Problem.lines (problem : Problem) : List Text :=
  let place := Text.join "." (problem.location.map Step.shown)
  (if problem.location.isEmpty then [] else [place]) ++
  [ "  " ++ problem.defect.message ++ " [type=" ++ problem.defect.code ++ ", input_value=" ++
      shorten problem.input.shown ++ ", input_type=" ++ problem.input.kind ++ "]",
    "    For further information visit https://errors.pydantic.dev/2.14/v/" ++ problem.defect.code ]

def Report.text (report : Report) : Text :=
  let count := report.problems.length
  let head := Text.ofNat count ++ (if count = 1 then " validation error for " else " validation errors for ") ++
    report.model
  Text.join "\n" (head :: report.problems.flatMap Problem.lines)

end ProxyControl.Validation
