import ProxyControl.Text.Basic

namespace ProxyControl.Yaml

/-- The tags of the common schema have this beginning. -/
def commonTag (name : Text) : Text := "tag:yaml.org,2002:" ++ name

namespace Tag

def isSign (p : CodePoint) : Bool := p = .char '+' || p = .char '-'

def dropSign : Text → Text
  | [] => []
  | p :: rest => if isSign p then rest else p :: rest

def isDigitOrBar (p : CodePoint) : Bool := p.isAsciiDigit || p = .char '_'

def isOneOf (words : List Text) (t : Text) : Bool := words.contains t

def isBoolean : Text → Bool :=
  isOneOf ["yes", "Yes", "YES", "no", "No", "NO", "true", "True", "TRUE", "false", "False", "FALSE", "on", "On", "ON",
    "off", "Off", "OFF"]

def isNull : Text → Bool := isOneOf ["", "~", "null", "Null", "NULL"]

/-- Digits with bars between them, after a first digit. -/
def isDigitRun (t : Text) : Bool := (t.head?.any CodePoint.isAsciiDigit) && t.all isDigitOrBar

/-- Minutes or seconds: one digit, or two up to 59. -/
def isSexagesimalDigit : Text → Bool
  | [p] => p.isAsciiDigit
  | [p, q] => p.isAsciiDigit && p.digitValue < 6 && q.isAsciiDigit
  | _ => false

/-- An exponent with a sign, or nothing. -/
def isExponent : Text → Bool
  | [] => true
  | p :: sign :: digits =>
    (p = .char 'e' || p = .char 'E') && isSign sign && !digits.isEmpty && digits.all CodePoint.isAsciiDigit
  | _ => false

/-- The part of a number after its point: digits, bars and an exponent. -/
def isFraction (t : Text) : Bool := isExponent (t.dropWhile isDigitOrBar)

/-- Base 60 digits after a first group, the last one perhaps with a fraction. -/
def isSexagesimal (first : CodePoint → Bool) (t : Text) : Bool :=
  match Text.splitOn (.char ':') t with
  | head :: group :: more =>
    (head.head?.any first) && head.all isDigitOrBar && (group :: more).all isSexagesimalDigit
  | _ => false

def isFloat (t : Text) : Bool :=
  let unsigned := dropSign t
  let isPlain :=
    match Text.cut? (.char '.') unsigned with
    | some (whole, fraction) =>
      (isDigitRun whole && isFraction fraction) ||
        (isSexagesimal CodePoint.isAsciiDigit whole && fraction.all isDigitOrBar)
    | none => false
  let isBare :=
    match t with
    | .char '.' :: fraction => (fraction.head?.any CodePoint.isAsciiDigit) && isFraction fraction
    | _ => false
  isPlain || isBare || isOneOf [".inf", ".Inf", ".INF"] unsigned || isOneOf [".nan", ".NaN", ".NAN"] t

def isNonZeroDigit (p : CodePoint) : Bool := p.isAsciiDigit && p.digitValue != 0

def isInteger (t : Text) : Bool :=
  let isRun (accept : CodePoint → Bool) (digits : Text) : Bool :=
    !digits.isEmpty && digits.all fun p => accept p || p = .char '_'
  match dropSign t with
  | .char '0' :: .char 'b' :: digits => isRun (fun p => p.isAsciiDigit && p.digitValue < 2) digits
  | .char '0' :: .char 'x' :: digits => isRun (fun p => p.hexValue?.isSome) digits
  | [.char '0'] => true
  | .char '0' :: digits => isRun (fun p => p.isAsciiDigit && p.digitValue < 8) digits
  | digits => ((digits.head?.any isNonZeroDigit) && digits.all isDigitOrBar) || isSexagesimal isNonZeroDigit digits

/-- The parts of a date, and of a time on it with its offset in minutes, as they are written. -/
structure Timestamp where
  year : Nat
  month : Nat
  day : Nat
  time : Option (Nat × Nat × Nat × Text × Option Int)

/-- One or two digits. -/
def shortNumber? (t : Text) : Option Nat := if t.length ≤ 2 then Text.toNat? t else none

def twoDigits? (t : Text) : Option Nat := if t.length = 2 then Text.toNat? t else none

/-- The offset from UTC in minutes; nothing for a local time. -/
def zone? (t : Text) : Option (Option Int) :=
  match t with
  | [] => some none
  | [.char 'Z'] => some (some 0)
  | sign :: rest =>
    if !isSign sign then none
    else do
      let (hours, minutes) ←
        match Text.cut? (.char ':') rest with
        | some (hours, minutes) => do pure (← shortNumber? hours, ← twoDigits? minutes)
        | none => do pure (← shortNumber? rest, 0)
      let offset : Int := hours * 60 + minutes
      return some (if sign = .char '-' then -offset else offset)

def isBlank (p : CodePoint) : Bool := p = .char ' ' || p.toNat == 0x09

def time? (t : Text) : Option (Nat × Nat × Nat × Text × Option Int) := do
  let (hour, rest) ← Text.cut? (.char ':') t
  let (minute, rest) ← Text.cut? (.char ':') rest
  let second := rest.take 2
  let rest := rest.drop 2
  let (fraction, rest) : Text × Text :=
    match rest with
    | .char '.' :: rest => (rest.takeWhile CodePoint.isAsciiDigit, rest.dropWhile CodePoint.isAsciiDigit)
    | rest => ([], rest)
  let zoneText := rest.dropWhile isBlank
  if zoneText.isEmpty && !rest.isEmpty then none
  return (← shortNumber? hour, ← twoDigits? minute, ← twoDigits? second, fraction, ← zone? zoneText)

/-- Reads a date or a time. Whether a date may be written with single digits depends on the reader. -/
def timestamp? (t : Text) : Option Timestamp := do
  let (year, rest) ← Text.cut? (.char '-') t
  let (month, rest) ← Text.cut? (.char '-') rest
  let day := rest.takeWhile CodePoint.isAsciiDigit
  let rest := rest.dropWhile CodePoint.isAsciiDigit
  if year.length != 4 then none
  let time ←
    match rest with
    | [] => pure none
    | p :: after =>
      if p = .char 'T' || p = .char 't' then (time? after).map some
      else if isBlank p then (time? (after.dropWhile isBlank)).map some
      else none
  return ⟨← Text.toNat? year, ← shortNumber? month, ← shortNumber? day, time⟩

/-- A date alone needs two digits each for month and day. -/
def isTimestamp (t : Text) : Bool :=
  match timestamp? t with
  | none => false
  | some stamp => stamp.time.isSome || t.length == 10

/-- The text without a line feed at its end. -/
def withoutFinalBreak (t : Text) : Text := if t.getLast? = some (.ofNat 0x0A) then t.dropLast else t

/-- The tag of a scalar without quotes and without a tag of its own. -/
def implicit (t : Text) : Text :=
  let t := withoutFinalBreak t
  if isBoolean t then commonTag "bool"
  else if isFloat t then commonTag "float"
  else if isInteger t then commonTag "int"
  else if t = "<<" then commonTag "merge"
  else if isNull t then commonTag "null"
  else if isTimestamp t then commonTag "timestamp"
  else if t = "=" then commonTag "value"
  else if t = "!" ∨ t = "&" ∨ t = "*" then commonTag "yaml"
  else commonTag "str"

end Tag

end ProxyControl.Yaml
