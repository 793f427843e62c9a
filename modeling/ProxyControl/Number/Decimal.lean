import ProxyControl.Number.Binary64
import ProxyControl.Text.Basic

namespace ProxyControl.Binary64

/-- The fraction `numerator / denominator` times a power of ten. -/
def scaleDecimal (numerator denominator : Nat) (exponent : Int) : Nat × Nat :=
  if 0 ≤ exponent then (numerator * Nat.pow 10 exponent.toNat, denominator)
  else (numerator, denominator * Nat.pow 10 (-exponent).toNat)

/-- The least `k` with the fraction below `10 ^ k`. -/
def pointPosition (numerator denominator : Nat) : Int :=
  let guess := (decimalDigits numerator : Int) - decimalDigits denominator
  let (n, d) := scaleDecimal numerator denominator (-guess)
  if n < d then guess else guess + 1

/-- The decimal of the given length nearest to the fraction among those that read back as `value`. -/
def decimalOf? (value : Binary64) (numerator denominator : Nat) (point : Int) (length : Nat) : Option Nat :=
  let exponent := point - length
  let (n, d) := scaleDecimal numerator denominator (-exponent)
  let below := n / d
  let readsBack (digits : Nat) : Bool := ofDecimal false digits exponent == value
  let closer := roundHalfEven n d
  let farther := if closer = below then below + 1 else below
  if readsBack closer then some closer else if readsBack farther then some farther else none

/-- The shortest decimal `digits * 10 ^ exponent` that reads back as a positive number, trying lengths
from the given one upwards. Seventeen digits always read back. -/
def shortestFrom (value : Binary64) (numerator denominator : Nat) (point : Int) (length : Nat) :
    Nat → Nat × Int
  | 0 => (0, 0)
  | fuel + 1 =>
    match decimalOf? value numerator denominator point length with
    | some digits => (digits, point - length)
    | none => shortestFrom value numerator denominator point (length + 1) fuel

def dropTrailingZeros (digits : Text) : Text := Text.dropWhileEnd (· == .char '0') digits

def zeros (n : Nat) : Text := List.replicate n (.char '0')

/-- Digits with the point at the given position, in plain notation up to 16 places before the point and
3 zeros after it, otherwise with an exponent of two digits at least. -/
def layOut (digits : Text) (point : Int) : Text :=
  if -4 < point ∧ point ≤ 16 then
    if point ≤ 0 then "0." ++ zeros (-point).toNat ++ digits
    else
      let whole := digits.take point.toNat
      let whole := whole ++ zeros (point.toNat - whole.length)
      let part := digits.drop point.toNat
      whole ++ "." ++ (if part.isEmpty then ("0" : Text) else part)
  else
    let exponent := point - 1
    let shown := Text.ofNat exponent.natAbs
    let shown := if shown.length < 2 then zeros (2 - shown.length) ++ shown else shown
    let mantissa : Text :=
      match digits with
      | first :: second :: rest => first :: .char '.' :: second :: rest
      | few => few
    mantissa ++ (if exponent < 0 then "e-" else "e+") ++ shown

/-- The shortest text that reads back as the number. -/
def toText : Binary64 → Text
  | nan => "nan"
  | infinite false => "inf"
  | infinite true => "-inf"
  | finite negative mantissa exponent =>
    let sign : Text := if negative then "-" else ""
    if mantissa = 0 then sign ++ "0.0"
    else
      let (n, d) := scale mantissa 1 exponent
      let (digits, exponent) :=
        shortestFrom (finite false mantissa exponent) n d (pointPosition n d) 1 17
      sign ++ layOut (dropTrailingZeros (Text.ofNat digits)) (exponent + decimalDigits digits)

end ProxyControl.Binary64
