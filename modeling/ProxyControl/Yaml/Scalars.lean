import ProxyControl.Number.Integer
import ProxyControl.Text.Base64
import ProxyControl.Text.Encoding
import ProxyControl.Unicode.Case
import ProxyControl.Validation.Coerce
import ProxyControl.Yaml.Complaint
import ProxyControl.Yaml.Tag

namespace ProxyControl.Yaml

namespace Scalars

def withoutBars (t : Text) : Text := t.filter (· ≠ .char '_')

/-- The sign of a number and the rest; a number must not be empty. -/
def signed (t : Text) : Except Misreading (Int × Text) :=
  match t with
  | [] => .error ⟨.noSuchIndex, "string index out of range"⟩
  | p :: rest =>
    if p = .char '-' then .ok (-1, rest) else if p = .char '+' then .ok (1, rest) else .ok (1, t)

def notInteger {α : Type} (base : Nat) (t : Text) : Except Misreading α :=
  .error ⟨.value, "invalid literal for int() with base " ++ Text.ofNat base ++ ": " ++ t.quoted⟩

def decimal (t : Text) : Except Misreading Int :=
  match Text.toInt t with
  | .ok n => .ok n
  | .error (.tooManyDigits count) => .error ⟨.value, Text.tooManyDigits count⟩
  | .error .notInteger => notInteger 10 t

/-- A number of base 2, 8 or 16 between blanks, with an optional sign, and after it an optional mark of the base. -/
def inBase (base : Nat) (letter : Char) (t : Text) : Except Misreading Int :=
  let (negative, body) := Text.unsigned (Text.trimBy Text.isNumberBlank (Text.asciiDigits t))
  let digits : Text :=
    match body with
    | .char '0' :: p :: rest => if p.asciiLower = .char letter then rest else body
    | _ => body
  match digits.mapM fun p => p.hexValue?.filter (· < base) with
  | some (d :: rest) =>
    let n : Nat := (d :: rest).foldl (fun n digit => n * base + digit) 0
    .ok (if negative then -(n : Int) else n)
  | _ => notInteger base t

/-- An integer: decimal, or after `0b`, `0x` or `0`, or groups of base 60. -/
def integer (t : Text) : Except Misreading Int := do
  let (sign, digits) ← signed (withoutBars t)
  let magnitude ←
    match digits with
    | [.char '0'] => pure 0
    | .char '0' :: .char 'b' :: rest => inBase 2 'b' rest
    | .char '0' :: .char 'x' :: rest => inBase 16 'x' rest
    | .char '0' :: _ => inBase 8 'o' digits
    | [] => throw ⟨.noSuchIndex, "string index out of range"⟩
    | _ => do
      let groups ← (Text.splitOn (.char ':') digits).mapM decimal
      pure (groups.foldl (fun n group => n * 60 + group) 0)
  return sign * magnitude

def number (t : Text) : Except Misreading Binary64 :=
  match Validation.numberOfText? (Text.trimBy Text.isNumberBlank (Text.asciiDigits t)) with
  | some x => .ok x
  | none => .error ⟨.value, "could not convert string to float: " ++ t.quoted⟩

/-- The sum of groups of base 60, the last one first. A power of the base has to be a finite number. -/
def sexagesimal (base : Nat) (sum : Binary64) : List Binary64 → Except Misreading Binary64
  | [] => .ok sum
  | group :: rest =>
    if (Binary64.ofNat base).isFinite then sexagesimal (base * 60) (sum + group * .ofNat base) rest
    else .error ⟨.overflow, "int too large to convert to float"⟩

def float (t : Text) : Except Misreading Binary64 := do
  let (sign, digits) ← signed (withoutBars t).lower
  if digits = ".inf" then return .infinite (decide (sign < 0))
  if digits = ".nan" then return .nan
  let groups ← (Text.splitOn (.char ':') digits).mapM number
  match groups with
  | [x] => return .ofInt sign * x
  | groups => return .ofInt sign * (← sexagesimal 1 (.zero false) groups.reverse)

def boolean (t : Text) : Except Misreading Bool :=
  let t := t.lower
  if t = "yes" ∨ t = "true" ∨ t = "on" then .ok true
  else if t = "no" ∨ t = "false" ∨ t = "off" then .ok false
  else .error ⟨.noSuchKey, t.quoted⟩

def binary (t : Text) (mark : Mark) : Except Located Utf8.Bytes := do
  let _ ← (t.toAscii).mapError fun e => .plain (.notAscii e.message) mark
  (Base64.decode t).mapError fun e => .plain (.notBase64 e.message) mark

def isLeapYear (year : Nat) : Bool := year % 4 == 0 && (year % 100 != 0 || year % 400 == 0)

def daysIn (year month : Nat) : Nat :=
  if month = 2 then (if isLeapYear year then 29 else 28)
  else if month = 4 ∨ month = 6 ∨ month = 9 ∨ month = 11 then 30
  else 31

def refuse {α : Type} (message : Text) : Except Misreading α := .error ⟨.value, message⟩

/-- Checks that a day exists. -/
def checkDay (year month day : Nat) : Except Misreading Unit :=
  if year = 0 then refuse "year 0 is out of range"
  else if month < 1 ∨ 12 < month then refuse "month must be in 1..12"
  else if day < 1 ∨ daysIn year month < day then refuse "day is out of range for month"
  else .ok ()

def checkTime (hour minute second : Nat) : Except Misreading Unit :=
  if 23 < hour then refuse "hour must be in 0..23"
  else if 59 < minute then refuse "minute must be in 0..59"
  else if 59 < second then refuse "second must be in 0..59"
  else .ok ()

/-- The first six digits of a fraction of a second. -/
def microseconds (fraction : Text) : Nat :=
  let digits := fraction.take 6
  (Text.toNat? (digits ++ List.replicate (6 - digits.length) (.char '0'))).getD 0

/-- A line feed at the end does not count. -/
def timestamp (t : Text) : Except Misreading Datum :=
  match Tag.timestamp? (Tag.withoutFinalBreak t) with
  | none => .error ⟨.noSuchName, "'NoneType' object has no attribute 'groupdict'"⟩
  | some ⟨year, month, day, none⟩ => do
    checkDay year month day
    return .date year month day
  | some ⟨year, month, day, some (hour, minute, second, fraction, zone)⟩ => do
    if let some minutes := zone then
      if 1440 ≤ minutes.natAbs then
        refuse ("offset must be a timedelta strictly between -timedelta(hours=24) and timedelta(hours=24), not " ++
          Datum.quotedDuration (minutes * 60000000))
    checkDay year month day
    checkTime hour minute second
    return .moment ⟨year, month, day, hour, minute, second, microseconds fraction, zone.map (· * 60)⟩

end Scalars

/-- How the text of a scalar with a tag of the common schema is read; nothing for any other tag. Base 64 is checked
along with the document, so that a fault in it has a place. -/
def scalarReader? (tag : Text) : Option (Text → Mark → Except Obstacle Datum) :=
  let reader {α : Type} (read : Text → Except Misreading α) (build : α → Datum) (content : Text) (_ : Mark) :
      Except Obstacle Datum :=
    ((read content).map build).mapError .misread
  if tag = commonTag "null" then some fun _ _ => .ok .none
  else if tag = commonTag "bool" then some (reader Scalars.boolean .bool)
  else if tag = commonTag "int" then some (reader Scalars.integer .int)
  else if tag = commonTag "float" then some (reader Scalars.float .float)
  else if tag = commonTag "binary" then
    some fun content mark => ((Scalars.binary content mark).map Datum.bytes).mapError .located
  else if tag = commonTag "timestamp" then some (reader Scalars.timestamp id)
  else if tag = commonTag "str" then some fun content _ => .ok (.text content)
  else none

end ProxyControl.Yaml
