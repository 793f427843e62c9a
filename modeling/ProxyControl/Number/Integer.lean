import ProxyControl.Unicode.Digits

namespace ProxyControl.Text

/-- Blank code points around a number; the information separators are not among them. -/
def isNumberBlank (p : CodePoint) : Bool :=
  let n := p.toNat
  (0x09 ≤ n && n ≤ 0x0D) || n == 0x20 || n == 0x85 || n == 0xA0 || n == 0x1680 ||
  (0x2000 ≤ n && n ≤ 0x200A) || n == 0x2028 || n == 0x2029 || n == 0x202F || n == 0x205F || n == 0x3000

/-- The text with the decimal digits of every script written in ASCII. -/
def asciiDigits (t : Text) : Text :=
  t.map fun p =>
    match Unicode.decimalValue? p with
    | some value => .ofNat (0x30 + value)
    | none => p

/-- Whether a number is negative, and the number without its sign. -/
def unsigned : Text → Bool × Text
  | .char '-' :: rest => (true, rest)
  | .char '+' :: rest => (false, rest)
  | t => (false, t)

/-- The digits that a text begins with, without single underscores between them, and what follows. `free` says that
a digit came right before; nothing where a digit has to come and does not. -/
def leadingDigits? (free : Bool) : Text → Option (Text × Text)
  | [] => if free then some ([], []) else none
  | p :: rest =>
    if p.isAsciiDigit then (leadingDigits? true rest).map fun (digits, after) => (p :: digits, after)
    else if !free then none
    else if p = .char '_' then leadingDigits? false rest
    else some ([], p :: rest)

/-- Numbers with more digits are not read. -/
def integerDigitLimit : Nat := 4300

/-- What is said of a number with too many digits. -/
def tooManyDigits (count : Nat) : Text :=
  "Exceeds the limit (4300 digits) for integer string conversion: value has " ++ ofNat count ++
    " digits; use sys.set_int_max_str_digits() to increase the limit"

/-- What is said of an integer that has too many digits to be written. -/
def unprintable : Text :=
  "Exceeds the limit (4300 digits) for integer string conversion; use sys.set_int_max_str_digits() to increase the " ++
    "limit"

/-- Why a text is not read as an integer. -/
inductive IntegerError where
  | notInteger
  | tooManyDigits (count : Nat)
  deriving DecidableEq, Repr

/-- An integer between blanks, with an optional sign and digits of any script. -/
def toInt (t : Text) : Except IntegerError Int :=
  let (negative, body) := unsigned (trimBy isNumberBlank (asciiDigits t))
  match leadingDigits? false body with
  | none => .error .notInteger
  | some (digits, after) =>
    if digits.length > integerDigitLimit then .error (.tooManyDigits digits.length)
    else if !after.isEmpty then .error .notInteger
    else
      let n : Nat := digits.foldl (fun n p => n * 10 + p.digitValue) 0
      .ok (if negative then -(n : Int) else n)

end ProxyControl.Text
