import ProxyControl.Failure
import ProxyControl.Unicode.Digits

namespace ProxyControl

/-- A span of time in whole microseconds. -/
structure Duration where
  microseconds : Int
  deriving DecidableEq, Repr

namespace Duration

def zero : Duration := ⟨0⟩

/-- Whole days, rounded down. -/
def days (d : Duration) : Int := d.microseconds.fdiv 86400000000

/-- Whole seconds beyond the days. -/
def seconds (d : Duration) : Int := d.microseconds.fmod 86400000000 / 1000000

/-- Microseconds beyond the seconds. -/
def subseconds (d : Duration) : Int := d.microseconds.fmod 1000000

/-- The span in seconds, rounded up after it became a float. -/
def ceilingSeconds (d : Duration) : Int :=
  (Binary64.ofRatio (decide (d.microseconds < 0)) d.microseconds.natAbs 1000000).ceiling?.getD 0

/-- Spans of more days in either direction do not exist. -/
def dayLimit : Int := 999999999

/-- The largest number of days that is named in an overflow message. -/
def dayWordLimit : Int := 0x7FFFFFFF

/-- The span of a number of microseconds, if it is in range. -/
def ofMicroseconds (microseconds : Int) : Outcome Duration :=
  let d : Duration := ⟨microseconds⟩
  if d.days > dayWordLimit ∨ d.days < -dayWordLimit - 1 then
    .error (.fault .overflow "Python int too large to convert to C int")
  else if d.days > dayLimit ∨ d.days < -dayLimit then
    .error (.fault .overflow ("days=" ++ Text.ofInt d.days ++ "; must have magnitude <= 999999999"))
  else .ok d

/-- Adds what is left of a microsecond to whole microseconds: half of one goes to the even sum. -/
def absorb (whole : Int) (left : Binary64) : Int :=
  match left with
  | .finite negative mantissa exponent =>
    let (n, d) := Binary64.scale mantissa 1 exponent
    let up := 2 * n > d ∨ (2 * n = d ∧ whole % 2 ≠ 0)
    if up then (if negative then whole - 1 else whole + 1) else whole
  | _ => whole

/-- The span of a number of seconds. Whole seconds are exact; the fraction becomes microseconds. -/
def ofSeconds (x : Binary64) : Outcome Duration :=
  match x.truncate? with
  | none => .error (.fault .overflow "cannot convert float infinity to integer")
  | some (whole, _) =>
    let part := Binary64.ofNat 1000000 * x.fraction
    match part.truncate? with
    | none => ofMicroseconds (whole * 1000000)
    | some (microseconds, _) => ofMicroseconds (absorb (whole * 1000000 + microseconds) part.fraction)

/-- A unit of time and how many seconds it has. -/
structure TimeUnit where
  name : Text
  inSeconds : Binary64

/-- The units, a longer name before a shorter one that begins it. -/
def units : List TimeUnit :=
  [⟨"ns", .ofDecimal false 1 (-9)⟩, ⟨"us", .ofDecimal false 1 (-6)⟩, ⟨"µs", .ofDecimal false 1 (-6)⟩,
    ⟨"ms", .ofDecimal false 1 (-3)⟩, ⟨"s", .ofNat 1⟩, ⟨"m", .ofNat 60⟩, ⟨"h", .ofNat 3600⟩]

def digitsOf (t : Text) : List Nat := t.filterMap Unicode.decimalValue?

/-- A number with digits of any script at the head of a text, and what follows it. -/
def amount? (t : Text) : Option (Binary64 × Text) :=
  let whole := t.takeWhile Unicode.isDecimal
  let afterWhole := t.drop whole.length
  let (part, rest) : Text × Text :=
    match afterWhole with
    | .char '.' :: more => (more.takeWhile Unicode.isDecimal, more.dropWhile Unicode.isDecimal)
    | other => ([], other)
  let digits := digitsOf whole ++ digitsOf part
  if digits.isEmpty then none
  else some (.ofDecimal false (digits.foldl (fun n digit => n * 10 + digit) 0) (-(part.length : Int)), rest)

/-- The unit at the head of a text and what follows it. -/
def unit? (t : Text) : Option (TimeUnit × Text) :=
  (units.find? fun unit => unit.name.isPrefixOf t).map fun unit => (unit, t.drop unit.name.length)

/-- Adds up the parts of a duration. A part uses one unit of fuel; the length of the text is enough. -/
def sumParts (sum : Binary64) (t : Text) : Nat → Option Binary64
  | 0 => if t.isEmpty then some sum else none
  | fuel + 1 =>
    if t.isEmpty then some sum
    else
      match amount? t with
      | none => none
      | some (amount, afterAmount) =>
        match unit? afterAmount with
        | none => none
        | some (unit, rest) => sumParts (sum + amount * unit.inSeconds) rest fuel

/-- Reads a relative duration such as `5s`, `2m`, `3h` or `1h30m`; a bare zero needs no unit. -/
def parse (value : Text) : Outcome Duration :=
  let t := value.strip
  if t = "0" then .ok zero
  else
    match if t.isEmpty then none else sumParts (.zero false) t t.length with
    | none => .error (.refused (.duration value))
    | some seconds => ofSeconds seconds

end Duration

end ProxyControl
