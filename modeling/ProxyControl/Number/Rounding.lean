namespace ProxyControl

/-- The integer nearest to a fraction, the even one of two at the same distance. -/
def roundHalfEven (numerator denominator : Nat) : Nat :=
  let quotient := numerator / denominator
  let twice := 2 * (numerator % denominator)
  if twice > denominator ∨ (twice = denominator ∧ quotient % 2 = 1) then quotient + 1 else quotient

end ProxyControl
