import ProxyControl.Number.Rounding

namespace ProxyControl

/-- A double precision number, kept exactly: a finite one is `mantissa * 2 ^ exponent` with the sign
apart, so that zero has a sign too. Operations return canonical numbers: the mantissa is below `2 ^ 53`,
and not below `2 ^ 52` unless the exponent is the least one. -/
inductive Binary64 where
  | nan
  | infinite (negative : Bool)
  | finite (negative : Bool) (mantissa : Nat) (exponent : Int)
  deriving DecidableEq, Repr

namespace Binary64

def leastExponent : Int := -1074

def greatestExponent : Int := 971

def zero (negative : Bool) : Binary64 := finite negative 0 leastExponent

/-- Multiplies a fraction by a power of two, as numerator and denominator. -/
def scale (numerator denominator : Nat) (exponent : Int) : Nat × Nat :=
  if 0 ≤ exponent then (numerator * Nat.pow 2 exponent.toNat, denominator)
  else (numerator, denominator * Nat.pow 2 (-exponent).toNat)

/-- The exponent at which the fraction has a mantissa of 53 bits, or the least exponent. -/
def exponentFor (numerator denominator : Nat) : Int :=
  let guess := max ((numerator.log2 : Int) - denominator.log2 - 53) leastExponent
  let (n, d) := scale numerator denominator (-guess)
  if n / d ≥ Nat.pow 2 53 then guess + 1 else guess

/-- The double nearest to a fraction with a non-zero denominator. -/
def ofRatio (negative : Bool) (numerator denominator : Nat) : Binary64 :=
  if numerator = 0 then zero negative
  else
    let exponent := exponentFor numerator denominator
    let (n, d) := scale numerator denominator (-exponent)
    let mantissa := roundHalfEven n d
    let (mantissa, exponent) := if mantissa = Nat.pow 2 53 then (Nat.pow 2 52, exponent + 1) else (mantissa, exponent)
    if exponent > greatestExponent then infinite negative else finite negative mantissa exponent

/-- The double nearest to `mantissa * 2 ^ exponent`. -/
def ofDyadic (negative : Bool) (mantissa : Nat) (exponent : Int) : Binary64 :=
  let (n, d) := scale mantissa 1 exponent
  ofRatio negative n d

def ofNat (n : Nat) : Binary64 := ofRatio false n 1

def ofInt (n : Int) : Binary64 := ofRatio (decide (n < 0)) n.natAbs 1

def decimalDigits (n : Nat) : Nat := (Nat.repr n).length

/-- The double nearest to `digits * 10 ^ exponent`. Exponents far out of range are cut off first, which
changes no result and keeps the powers small. -/
def ofDecimal (negative : Bool) (digits : Nat) (exponent : Int) : Binary64 :=
  let magnitude := exponent + decimalDigits digits
  if digits = 0 ∨ magnitude < -400 then zero negative
  else if magnitude > 400 then infinite negative
  else if 0 ≤ exponent then ofRatio negative (digits * Nat.pow 10 exponent.toNat) 1
  else ofRatio negative digits (Nat.pow 10 (-exponent).toNat)

def isNaN : Binary64 → Bool
  | nan => true
  | _ => false

def isFinite : Binary64 → Bool
  | finite .. => true
  | _ => false

def isPositive : Binary64 → Bool
  | nan => false
  | infinite negative => !negative
  | finite negative mantissa _ => !negative && mantissa != 0

/-- A signed mantissa at a common exponent. -/
def signed (negative : Bool) (mantissa : Nat) : Int := if negative then -mantissa else mantissa

def add : Binary64 → Binary64 → Binary64
  | nan, _ => nan
  | _, nan => nan
  | infinite a, infinite b => if a = b then infinite a else nan
  | infinite a, finite .. => infinite a
  | finite .., infinite b => infinite b
  | finite a m e, finite b n f =>
    let low := min e f
    let sum := signed a (m * Nat.pow 2 (e - low).toNat) + signed b (n * Nat.pow 2 (f - low).toNat)
    if sum = 0 then zero (a && b) else ofDyadic (decide (sum < 0)) sum.natAbs low

def mul : Binary64 → Binary64 → Binary64
  | nan, _ => nan
  | _, nan => nan
  | infinite a, infinite b => infinite (a != b)
  | infinite a, finite b n _ => if n = 0 then nan else infinite (a != b)
  | finite a m _, infinite b => if m = 0 then nan else infinite (a != b)
  | finite a m e, finite b n f => if m * n = 0 then zero (a != b) else ofDyadic (a != b) (m * n) (e + f)

instance : Add Binary64 := ⟨add⟩

instance : Mul Binary64 := ⟨mul⟩

/-- A finite number cut towards zero, and whether nothing was cut off. -/
def truncate? : Binary64 → Option (Int × Bool)
  | finite negative mantissa exponent =>
    let (n, d) := scale mantissa 1 exponent
    some (signed negative (n / d), n % d == 0)
  | _ => none

/-- The fraction that cutting towards zero takes away, exactly. -/
def fraction : Binary64 → Binary64
  | finite negative mantissa exponent =>
    let (n, d) := scale mantissa 1 exponent
    ofRatio negative (n % d) d
  | other => other

/-- The least integer that is not below a finite number. -/
def ceiling? : Binary64 → Option Int
  | finite negative mantissa exponent =>
    let (n, d) := scale mantissa 1 exponent
    some (if negative then -(n / d : Nat) else ((n + d - 1) / d : Nat))
  | _ => none

end Binary64

end ProxyControl
