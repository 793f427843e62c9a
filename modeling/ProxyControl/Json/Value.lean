import ProxyControl.Number.Decimal
import ProxyControl.Text.Quote

namespace ProxyControl

/-- A JSON value. Members keep their order; keys are unique when the value was parsed. -/
inductive Json where
  | null
  | bool (b : Bool)
  | int (n : Int)
  | float (x : Binary64)
  | text (t : Text)
  | list (items : List Json)
  | object (members : List (Text × Json))
  deriving Repr, Inhabited

namespace Json

/-- Sets a member: a key that is there already keeps its place. -/
def setMember (key : Text) (value : Json) : List (Text × Json) → List (Text × Json)
  | [] => [(key, value)]
  | (k, v) :: rest => if k = key then (k, value) :: rest else (k, v) :: setMember key value rest

def member? (key : Text) : Json → Option Json
  | object members => members.lookup key
  | _ => none

/-- The escape of a UTF-16 code unit. -/
def unitEscape (unit : Nat) : Text := "\\u" ++ hexDigits 4 unit

/-- How a code point is written inside a string literal. -/
def escapePoint (asciiOnly : Bool) (p : CodePoint) : Text :=
  let n := p.toNat
  if n = 0x22 then "\\\""
  else if n = 0x5C then "\\\\"
  else if n = 0x0A then "\\n"
  else if n = 0x0D then "\\r"
  else if n = 0x09 then "\\t"
  else if n = 0x0C then "\\f"
  else if n = 0x08 then "\\b"
  else if 0x20 ≤ n ∧ (n < 0x7F ∨ !asciiOnly) then [p]
  else if n < 0x10000 then unitEscape n
  else unitEscape (0xD800 + (n - 0x10000) / 0x400) ++ unitEscape (0xDC00 + (n - 0x10000) % 0x400)

def literal (asciiOnly : Bool) (t : Text) : Text := .char '"' :: t.flatMap (escapePoint asciiOnly) ++ [.char '"']

def floatText : Binary64 → Text
  | .nan => "NaN"
  | .infinite false => "Infinity"
  | .infinite true => "-Infinity"
  | x => x.toText

/-- How a value is laid out on one line: what stands between its parts, and whether code points beyond
ASCII are escaped. -/
structure Style where
  item : Text
  key : Text
  asciiOnly : Bool

def spaced : Style := ⟨", ", ": ", true⟩

def compact : Style := ⟨",", ":", true⟩

/-- The form of request bodies. -/
def wire : Style := ⟨",", ":", false⟩

mutual

/-- The value on one line. -/
def render (style : Style) : Json → Text
  | null => "null"
  | bool true => "true"
  | bool false => "false"
  | int n => Text.ofInt n
  | float x => floatText x
  | text t => literal style.asciiOnly t
  | list items => "[" ++ renderItems style items ++ "]"
  | object members => "\x7b" ++ renderMembers style members ++ "\x7d"

def renderItems (style : Style) : List Json → Text
  | [] => []
  | [last] => render style last
  | item :: rest => render style item ++ style.item ++ renderItems style rest

def renderMembers (style : Style) : List (Text × Json) → Text
  | [] => []
  | [(key, last)] => literal style.asciiOnly key ++ style.key ++ render style last
  | (key, value) :: rest =>
    literal style.asciiOnly key ++ style.key ++ render style value ++ style.item ++ renderMembers style rest

end

mutual

/-- The integers in a value. -/
def integers : Json → List Int
  | int n => [n]
  | list items => integersInItems items
  | object members => integersInMembers members
  | _ => []

def integersInItems : List Json → List Int
  | [] => []
  | item :: rest => integers item ++ integersInItems rest

def integersInMembers : List (Text × Json) → List Int
  | [] => []
  | (_, value) :: rest => integers value ++ integersInMembers rest

end

/-- The start of a line at a nesting depth, one tab per level. -/
def lineStart (depth : Nat) : Text := .char '\n' :: List.replicate depth (.char '\t')

mutual

/-- The value over several lines, indented with tabs. -/
def renderIndented (depth : Nat) : Json → Text
  | list [] => "[]"
  | list items => "[" ++ renderIndentedItems (depth + 1) items ++ lineStart depth ++ "]"
  | object [] => "\x7b\x7d"
  | object members => "\x7b" ++ renderIndentedMembers (depth + 1) members ++ lineStart depth ++ "\x7d"
  | value => render compact value

def renderIndentedItems (depth : Nat) : List Json → Text
  | [] => []
  | [last] => lineStart depth ++ renderIndented depth last
  | item :: rest => lineStart depth ++ renderIndented depth item ++ "," ++ renderIndentedItems depth rest

def renderIndentedMembers (depth : Nat) : List (Text × Json) → Text
  | [] => []
  | [(key, last)] => lineStart depth ++ literal true key ++ ": " ++ renderIndented depth last
  | (key, value) :: rest =>
    lineStart depth ++ literal true key ++ ": " ++ renderIndented depth value ++ "," ++
      renderIndentedMembers depth rest

end

mutual

/-- The value with the members of every object in the order of their keys. -/
def sortKeys : Json → Json
  | list items => list (sortKeysInItems items)
  | object members => object ((sortKeysInMembers members).mergeSort fun (k, _) (l, _) => k.le l)
  | value => value

def sortKeysInItems : List Json → List Json
  | [] => []
  | item :: rest => sortKeys item :: sortKeysInItems rest

def sortKeysInMembers : List (Text × Json) → List (Text × Json)
  | [] => []
  | (key, value) :: rest => (key, sortKeys value) :: sortKeysInMembers rest

end

end Json

end ProxyControl
