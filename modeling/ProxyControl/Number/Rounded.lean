import ProxyControl.Number.Decimal

namespace ProxyControl.Binary64

/-- Digits with the point before the last `places` of them. Without places there is a point only if it is
asked for. -/
def withPoint (keepsPoint : Bool) (places : Nat) (digits : Nat) : Text :=
  let shown := Text.ofNat digits
  let shown := zeros (places + 1 - shown.length) ++ shown
  if places = 0 && !keepsPoint then shown
  else shown.take (shown.length - places) ++ "." ++ shown.drop (shown.length - places)

/-- A fraction with a fixed number of places. -/
def fixedText (keepsPoint : Bool) (places : Nat) (numerator denominator : Nat) : Text :=
  withPoint keepsPoint places (roundHalfEven (numerator * Nat.pow 10 places) denominator)

/-- The digits of a fraction, one before the point and `places` after it, and the power of ten they are
multiplied by. -/
def scientificDigits (places : Nat) (numerator denominator : Nat) : Nat × Int :=
  if numerator = 0 then (0, 0)
  else
    let exponent := pointPosition numerator denominator - 1
    let (n, d) := scaleDecimal numerator denominator (places - exponent)
    let digits := roundHalfEven n d
    if digits = Nat.pow 10 (places + 1) then (Nat.pow 10 places, exponent + 1) else (digits, exponent)

def exponentText (exponent : Int) : Text :=
  let shown := Text.ofNat exponent.natAbs
  (if exponent < 0 then "e-" else "e+") ++ zeros (2 - shown.length) ++ shown

def scientificText (keepsPoint : Bool) (places : Nat) (numerator denominator : Nat) : Text :=
  let (digits, exponent) := scientificDigits places numerator denominator
  withPoint keepsPoint places digits ++ exponentText exponent

/-- Drops zeros at the end of the places, and a point without places. -/
def dropPlaces (t : Text) : Text :=
  if t.contains (.char '.') then Text.dropWhileEnd (· == .char '.') (dropTrailingZeros t) else t

/-- A fraction with the given number of digits, with an exponent only if it is small or has more digits
before the point. -/
def generalText (keepsZeros : Bool) (digits : Nat) (numerator denominator : Nat) : Text :=
  let digits := max digits 1
  let (shown, exponent) := scientificDigits (digits - 1) numerator denominator
  let trimmed (t : Text) : Text := if keepsZeros then t else dropPlaces t
  if -4 ≤ exponent ∧ exponent < digits then
    trimmed (fixedText keepsZeros (digits - 1 - exponent).toNat numerator denominator)
  else trimmed (withPoint keepsZeros (digits - 1) shown) ++ exponentText exponent

end ProxyControl.Binary64
