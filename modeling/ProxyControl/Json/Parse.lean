import ProxyControl.Json.Value
import ProxyControl.Number.Integer

namespace ProxyControl.Json

/-- What a JSON text lacks or has too much of. -/
inductive Fault where
  | value
  | propertyName
  | colon
  | comma
  | extraData
  | unterminatedString
  | controlCharacter
  | escape
  | unicodeEscape
  | byteOrderMark
  deriving DecidableEq, Repr

def Fault.text : Fault → Text
  | value => "Expecting value"
  | propertyName => "Expecting property name enclosed in double quotes"
  | colon => "Expecting ':' delimiter"
  | comma => "Expecting ',' delimiter"
  | extraData => "Extra data"
  | unterminatedString => "Unterminated string starting at"
  | controlCharacter => "Invalid control character at"
  | escape => "Invalid \\escape"
  | unicodeEscape => "Invalid \\uXXXX escape"
  | byteOrderMark => "Unexpected UTF-8 BOM (decode using utf-8-sig)"

/-- Integers of more digits are refused. -/
def digitLimit : Nat := 4300

/-- An integer with no more digits than a text may have. -/
def Printable (n : Int) : Prop := n.natAbs < Nat.pow 10 digitLimit

instance (n : Int) : Decidable (Printable n) := Nat.decLt _ _

/-- How many lists and objects may stand inside each other. What limits them is the stack: a thousand calls exhaust
it, and those that lead to reading a document count too. The exact number is thus none of the reader's own; it depends
on the caller, and this is the one that a command meets, up to a few. -/
def nestingLimit : Nat := 950

inductive ParseError where
  | syntaxError (fault : Fault) (position : Nat)
  | tooManyDigits (count : Nat)
  | tooDeep (collection : Text)
  deriving DecidableEq, Repr

/-- Line and column of a position, both counted from one. -/
def lineAndColumn (source : Text) (position : Nat) : Nat × Nat :=
  let before := source.take position
  (before.count (.char '\n') + 1, (before.reverse.takeWhile (· != .char '\n')).length + 1)

def ParseError.message (source : Text) : ParseError → Text
  | .syntaxError fault position =>
    let (line, column) := lineAndColumn source position
    fault.text ++ ": line " ++ Text.ofNat line ++ " column " ++ Text.ofNat column ++
      " (char " ++ Text.ofNat position ++ ")"
  | .tooManyDigits count => Text.tooManyDigits count
  | .tooDeep collection =>
    "maximum recursion depth exceeded while decoding a JSON " ++ collection ++ " from a unicode string"

/-- A parser's place: the number of code points consumed and what follows. -/
structure Place where
  position : Nat
  rest : Text

def Place.skip (place : Place) (n : Nat) : Place := ⟨place.position + n, place.rest.drop n⟩

def isBlank (p : CodePoint) : Bool :=
  p == .char ' ' || p == .char '\t' || p == .char '\n' || p == .char '\r'

def Place.skipBlanks (place : Place) : Place :=
  place.skip (place.rest.takeWhile isBlank).length

abbrev Read := Except ParseError

def fail {α : Type} (fault : Fault) (position : Nat) : Read α :=
  .error (.syntaxError fault position)

/-- The four hexadecimal digits at the head of a text. -/
def hexUnit? : Text → Option Nat
  | a :: b :: c :: d :: _ => do
    return (((← a.hexValue?) * 16 + (← b.hexValue?)) * 16 + (← c.hexValue?)) * 16 + (← d.hexValue?)
  | _ => none

def isHighSurrogate (unit : Nat) : Bool := 0xD800 ≤ unit && unit ≤ 0xDBFF

def isLowSurrogate (unit : Nat) : Bool := 0xDC00 ≤ unit && unit ≤ 0xDFFF

/-- The low half that an escape right after a high surrogate spells, if more text follows it. -/
def lowHalf? : Text → Option Nat
  | .char '\\' :: .char 'u' :: rest =>
    match hexUnit? rest with
    | some unit => if isLowSurrogate unit ∧ 4 < rest.length then some unit else none
    | none => none
  | _ => none

def simpleEscape? : CodePoint → Option CodePoint
  | .char '"' => some (.char '"')
  | .char '\\' => some (.char '\\')
  | .char '/' => some (.char '/')
  | .char 'b' => some (.ofNat 0x08)
  | .char 'f' => some (.ofNat 0x0C)
  | .char 'n' => some (.char '\n')
  | .char 'r' => some (.char '\r')
  | .char 't' => some (.char '\t')
  | _ => none

/-- The rest of a string whose opening quote stands at `opening`. `skip` counts code points of an escape
that were read already. -/
def stringFrom (opening position skip : Nat) : Text → Read (Text × Place)
  | [] => fail .unterminatedString opening
  | p :: rest =>
    match skip with
    | skip + 1 => stringFrom opening (position + 1) skip rest
    | 0 =>
      if p = .char '"' then .ok ([], ⟨position + 1, rest⟩)
      else if p = .char '\\' then
        match rest with
        | [] => fail .unterminatedString opening
        | .char 'u' :: digits =>
          match hexUnit? digits with
          | none => fail .unicodeEscape (position + 1)
          | some unit =>
            if digits.length ≤ 4 then fail .unicodeEscape (position + 1)
            else
              match (if isHighSurrogate unit then lowHalf? (digits.drop 4) else none) with
              | some low => do
                let (t, after) ← stringFrom opening (position + 1) 11 rest
                return (.ofNat (0x10000 + (unit - 0xD800) * 0x400 + (low - 0xDC00)) :: t, after)
              | none => do
                let (t, after) ← stringFrom opening (position + 1) 5 rest
                return (.ofNat unit :: t, after)
        | escaped :: _ =>
          match simpleEscape? escaped with
          | none => fail .escape position
          | some meant => do
            let (t, after) ← stringFrom opening (position + 1) 1 rest
            return (meant :: t, after)
      else if p.toNat < 0x20 then fail .controlCharacter position
      else do
        let (t, after) ← stringFrom opening (position + 1) 0 rest
        return (p :: t, after)

def digitsValue (t : Text) : Nat := t.foldl (fun n p => n * 10 + p.digitValue) 0

/-- The digits of an exponent at the head of a text, their sign and the length of all of it. -/
def exponentPart? : Text → Option (Bool × Text × Nat)
  | mark :: rest =>
    if mark = .char 'e' ∨ mark = .char 'E' then
      let (negative, signLength, digits) : Bool × Nat × Text :=
        match rest with
        | .char '-' :: digits => (true, 1, digits)
        | .char '+' :: digits => (false, 1, digits)
        | digits => (false, 0, digits)
      let digits := digits.takeWhile CodePoint.isAsciiDigit
      if digits.isEmpty then none else some (negative, digits, 1 + signLength + digits.length)
    else none
  | [] => none

/-- The digits after a point at the head of a text. -/
def fractionPart? : Text → Option Text
  | .char '.' :: rest =>
    let digits := rest.takeWhile CodePoint.isAsciiDigit
    if digits.isEmpty then none else some digits
  | _ => none

/-- The digits before the point at the head of a text. A leading zero ends them. -/
def wholePart : Text → Text
  | .char '0' :: _ => "0"
  | body => body.takeWhile CodePoint.isAsciiDigit

/-- A number at the head of a text and its length. -/
def number (place : Place) : Read (Json × Place) :=
  let negative := place.rest.head? == some (.char '-')
  let body := if negative then place.rest.drop 1 else place.rest
  let whole := wholePart body
  if whole.isEmpty then fail .value place.position
  else
    let signLength := if negative then 1 else 0
    let afterWhole := body.drop whole.length
    let part := fractionPart? afterWhole
    let partLength := part.elim 0 (·.length + 1)
    let exponent := exponentPart? (afterWhole.drop partLength)
    let exponentLength := exponent.elim 0 fun (_, _, length) => length
    let after := place.skip (signLength + whole.length + partLength + exponentLength)
    if part.isNone ∧ exponent.isNone then
      if whole.length > digitLimit then .error (.tooManyDigits whole.length)
      else
        let n := digitsValue whole
        .ok (.int (if negative then -(n : Int) else n), after)
    else
      let decimals := part.getD []
      let power : Int := exponent.elim 0 fun (below, digits, _) =>
        if below then -(digitsValue digits : Int) else digitsValue digits
      .ok (.float (.ofDecimal negative (digitsValue (whole ++ decimals)) (power - decimals.length)), after)

/-- The names that stand for a value. -/
def names : List (Text × Json) :=
  [("null", .null), ("true", .bool true), ("false", .bool false), ("NaN", .float .nan),
    ("Infinity", .float (.infinite false)), ("-Infinity", .float (.infinite true))]

def named? (place : Place) : Option (Json × Place) :=
  (names.find? fun (name, _) => name.isPrefixOf place.rest).map fun (name, value) =>
    (value, place.skip name.length)

mutual

/-- A value at a place, in which `depth` more lists and objects may stand inside each other. Every nested call uses
one unit of fuel; twice the length of the text is enough. -/
def value (depth : Nat) (place : Place) : Nat → Read (Json × Place)
  | 0 => fail .value place.position
  | fuel + 1 =>
    match place.rest with
    | .char '"' :: rest => do
      let (t, after) ← stringFrom place.position (place.position + 1) 0 rest
      return (.text t, after)
    | .char '{' :: _ =>
      match depth with
      | 0 => .error (.tooDeep "object")
      | depth + 1 =>
        let inner := (place.skip 1).skipBlanks
        match inner.rest with
        | .char '}' :: _ => .ok (.object [], inner.skip 1)
        | _ => do
          let (members, after) ← members depth [] inner fuel
          return (.object members, after)
    | .char '[' :: _ =>
      match depth with
      | 0 => .error (.tooDeep "array")
      | depth + 1 =>
        let inner := (place.skip 1).skipBlanks
        match inner.rest with
        | .char ']' :: _ => .ok (.list [], inner.skip 1)
        | _ => do
          let (items, after) ← items depth inner fuel
          return (.list items, after)
    | _ =>
      match named? place with
      | some found => .ok found
      | none => number place

/-- The items of a list up to its closing bracket. -/
def items (depth : Nat) (place : Place) : Nat → Read (List Json × Place)
  | 0 => fail .value place.position
  | fuel + 1 => do
    let (item, after) ← value depth place fuel
    let after := after.skipBlanks
    match after.rest with
    | .char ']' :: _ => return ([item], after.skip 1)
    | .char ',' :: _ => do
      let (more, last) ← items depth (after.skip 1).skipBlanks fuel
      return (item :: more, last)
    | _ => fail .comma after.position

/-- The members of an object up to its closing brace, added to those read before. -/
def members (depth : Nat) (read : List (Text × Json)) (place : Place) : Nat → Read (List (Text × Json) × Place)
  | 0 => fail .propertyName place.position
  | fuel + 1 =>
    match place.rest with
    | .char '"' :: rest => do
      let (key, after) ← stringFrom place.position (place.position + 1) 0 rest
      let after := after.skipBlanks
      match after.rest with
      | .char ':' :: _ => do
        let (value, after) ← value depth (after.skip 1).skipBlanks fuel
        let read := setMember key value read
        let after := after.skipBlanks
        match after.rest with
        | .char '}' :: _ => return (read, after.skip 1)
        | .char ',' :: _ => members depth read (after.skip 1).skipBlanks fuel
        | _ => fail .comma after.position
      | _ => fail .colon after.position
    | _ => fail .propertyName place.position

end

/-- Parses a whole JSON text. `NaN` and the infinities are numbers; of equal keys the last one wins. -/
def parse (source : Text) : Read Json :=
  if source.head? = some (.char '\uFEFF') then fail .byteOrderMark 0
  else do
    let (parsed, after) ← value nestingLimit (Place.mk 0 source).skipBlanks (2 * source.length + 2)
    let after := after.skipBlanks
    if after.rest.isEmpty then return parsed else fail .extraData after.position

end ProxyControl.Json
