import Mathlib.Data.Rat.Floor
import ProxyControl.Proofs.Number.Nearest

namespace ProxyControl.Binary64

variable {x y : Binary64} {a b q : ℚ}

theorem rounds_ofNat (n : ℕ) : Rounds (ofNat n) n := ⟨n, 1, Nat.one_pos, rfl, by simp⟩

theorem rounds_ofDyadic (mantissa : ℕ) (exponent : ℤ) : Rounds (ofDyadic false mantissa exponent) (mantissa * 2 ^ exponent) := by
  obtain ⟨positive, value⟩ := scale_spec mantissa Nat.one_pos exponent
  refine ⟨(scale mantissa 1 exponent).1, (scale mantissa 1 exponent).2, positive, rfl, ?_⟩
  rw [value, Nat.cast_one, div_one]

theorem rounds_zero : Rounds (zero false) 0 := ⟨0, 1, Nat.one_pos, rfl, by simp⟩

/-- The sum is rounded once. -/
theorem Stands.add (first : Stands x a) (second : Stands y b) : Rounds (x + y) (a + b) := by
  obtain ⟨m, e, rfl, _, _, rfl⟩ := first
  obtain ⟨n, f, rfl, _, _, rfl⟩ := second
  change Rounds (add _ _) _
  rw [add]
  obtain ⟨i, left⟩ : ∃ i : ℕ, e = min e f + i := ⟨(e - min e f).toNat, by omega⟩
  obtain ⟨j, right⟩ : ∃ j : ℕ, f = min e f + j := ⟨(f - min e f).toNat, by omega⟩
  generalize min e f = low at left right
  subst left right
  have total : signed false (m * Nat.pow 2 (low + i - low).toNat) + signed false (n * Nat.pow 2 (low + j - low).toNat) =
      ((m * 2 ^ i + n * 2 ^ j : ℕ) : ℤ) := by
    simp [signed]
  have value : (m : ℚ) * 2 ^ (low + i) + n * 2 ^ (low + j) = (m * 2 ^ i + n * 2 ^ j : ℕ) * 2 ^ low := by
    rw [zpow_add₀ (by norm_num), zpow_add₀ (by norm_num), zpow_natCast, zpow_natCast]
    push_cast
    ring
  rw [total, value]
  generalize m * 2 ^ i + n * 2 ^ j = sum
  split
  · rename_i nothing
    have nothing : sum = 0 := by exact_mod_cast nothing
    rw [nothing, Nat.cast_zero, zero_mul]
    exact rounds_zero
  · rw [decide_eq_false (by omega), Int.natAbs_natCast]
    exact rounds_ofDyadic sum low

/-- The product is rounded once. -/
theorem Stands.mul (first : Stands x a) (second : Stands y b) : Rounds (x * y) (a * b) := by
  obtain ⟨m, e, rfl, _, _, rfl⟩ := first
  obtain ⟨n, f, rfl, _, _, rfl⟩ := second
  have value : (m : ℚ) * 2 ^ e * (n * 2 ^ f) = (m * n : ℕ) * 2 ^ (e + f) := by
    rw [zpow_add₀ (by norm_num)]
    push_cast
    ring
  change Rounds (mul _ _) _
  rw [mul, value]
  split
  · rename_i nothing
    rw [nothing, Nat.cast_zero, zero_mul]
    exact rounds_zero
  · exact rounds_ofDyadic (m * n) (e + f)

/-- Cutting a number to a whole one takes its fraction away. -/
theorem Stands.truncate (stands : Stands x q) : ∃ exact, x.truncate? = some (⌊q⌋, exact) := by
  obtain ⟨m, e, rfl, _, _, rfl⟩ := stands
  obtain ⟨positive, value⟩ := scale_spec m Nat.one_pos e
  rw [Nat.cast_one, div_one] at value
  refine ⟨(scale m 1 e).1 % (scale m 1 e).2 == 0, ?_⟩
  rw [← value, Rat.floor_natCast_div_natCast]
  rfl

/-- The fraction is exact. -/
theorem Stands.fraction (stands : Stands x q) : Stands x.fraction (Int.fract q) := by
  obtain ⟨m, e, rfl, fits, least, rfl⟩ := stands
  obtain ⟨positive, value⟩ := scale_spec m Nat.one_pos e
  rw [Nat.cast_one, div_one] at value
  have rounds : Rounds (Binary64.fraction (finite false m e)) (Int.fract (m * 2 ^ e)) := by
    refine ⟨(scale m 1 e).1 % (scale m 1 e).2, (scale m 1 e).2, positive, rfl, ?_⟩
    rw [← value, Int.fract_div_natCast_eq_div_natCast_mod]
  by_cases whole : 0 ≤ e
  · obtain ⟨k, rfl⟩ := Int.eq_ofNat_of_zero_le whole
    have nothing : Int.fract ((m : ℚ) * 2 ^ (k : ℤ)) = 0 := by
      rw [zpow_natCast]
      exact_mod_cast Int.fract_natCast (R := ℚ) (m * 2 ^ k)
    rw [nothing] at rounds ⊢
    exact rounds.exact_natural (k := 0) (by norm_num)
  · -- What is left of the mantissa keeps the exponent.
    have shape : scale m 1 e = (m, 1 * Nat.pow 2 (-e).toNat) := if_neg whole
    refine rounds.exact (k := m % (1 * Nat.pow 2 (-e).toNat)) ((Nat.mod_le _ _).trans_lt fits) least
      (by rw [greatestExponent]; omega) ?_
    rw [← value, shape, Int.fract_div_natCast_eq_div_natCast_mod]
    obtain ⟨k, rfl⟩ : ∃ k : ℕ, e = -k := ⟨(-e).toNat, by omega⟩
    simp [div_eq_mul_inv]

/-- A number that is neither negative nor undefined. -/
def Unsigned (x : Binary64) : Prop := x = infinite false ∨ ∃ q, Stands x q

theorem Rounds.unsigned (rounds : Rounds x q) : Unsigned x := by
  obtain ⟨n, d, positive, rfl, rfl⟩ := rounds
  rcases Nat.eq_zero_or_pos n with rfl | some
  · exact .inr ⟨0, stands_zero⟩
  obtain ⟨_, _, _, _, _, stands | ⟨infinite, _⟩⟩ := exists_of_ofRatio some positive
  · exact .inr ⟨_, stands⟩
  · exact .inl infinite

theorem Unsigned.add (first : Unsigned x) (second : Unsigned y) : Unsigned (x + y) := by
  rcases first with rfl | ⟨a, first⟩
  · rcases second with rfl | ⟨b, _, _, rfl, _⟩
    · exact .inl rfl
    · exact .inl rfl
  · rcases second with rfl | ⟨b, second⟩
    · obtain ⟨_, _, rfl, _⟩ := first
      exact .inl rfl
    · exact (first.add second).unsigned

theorem infinite_mul (second : Stands y b) (positive : 0 < b) : infinite false * y = infinite false := by
  obtain ⟨n, f, rfl, _, _, rfl⟩ := second
  have some : n ≠ 0 := by
    rintro rfl
    simp at positive
  exact if_neg some

/-- Multiplying by a positive number leads to no undefined one. -/
theorem Unsigned.mul (first : Unsigned x) (second : Stands y b) (positive : 0 < b) : Unsigned (x * y) := by
  rcases first with rfl | ⟨a, first⟩
  · exact .inl (infinite_mul second positive)
  · exact (first.mul second).unsigned

/-- Only what is finite has a finite product with a positive number. -/
theorem Unsigned.stands_of_mul (first : Unsigned x) (second : Stands y b) (positive : 0 < b)
    (product : Stands (x * y) q) : ∃ a, Stands x a := by
  rcases first with rfl | finite
  · rw [infinite_mul second positive] at product
    obtain ⟨_, _, finite, _⟩ := product
    cases finite
  · exact finite

theorem unsigned_ofDecimal (digits : ℕ) (exponent : ℤ) : Unsigned (ofDecimal false digits exponent) := by
  unfold ofDecimal
  dsimp only
  split
  · exact .inr ⟨0, stands_zero⟩
  split
  · exact .inl rfl
  split
  · exact Rounds.unsigned ⟨_, _, Nat.one_pos, rfl, rfl⟩
  · exact Rounds.unsigned ⟨_, _, Nat.pow_pos (by decide), rfl, rfl⟩

theorem decimalDigits_le {n k : ℕ} (small : n < 10 ^ k) (some : 0 < k) : decimalDigits n ≤ k := by
  rw [decimalDigits, ← String.length_toList, Nat.toList_repr]
  exact (Nat.length_toDigits_le_iff (by decide) some).mpr small

theorem lt_pow_decimalDigits (n : ℕ) : n < 10 ^ decimalDigits n := by
  have some : 0 < decimalDigits n := by
    rw [decimalDigits, ← String.length_toList, Nat.toList_repr]
    exact Nat.length_toDigits_pos
  refine (Nat.length_toDigits_le_iff (by decide) some).mp ?_
  rw [decimalDigits, ← String.length_toList, Nat.toList_repr]

/-- A decimal is rounded once, unless it is so large that it is taken for infinite, or so small that it is taken for
zero. -/
theorem rounds_ofDecimal (digits places : ℕ) : ofDecimal false digits (-places) = infinite false ∨
    Rounds (ofDecimal false digits (-places)) (digits / 10 ^ places) ∨ (digits : ℚ) / 10 ^ places < 1 / 10 ^ 400 := by
  unfold ofDecimal
  dsimp only
  split
  · rename_i low
    rcases low with none | small
    · rw [none, Nat.cast_zero, zero_div]
      exact .inr (.inl rounds_zero)
    · right
      right
      obtain ⟨rest, shape⟩ : ∃ rest : ℕ, places = rest + 400 + decimalDigits digits :=
        ⟨places - 400 - decimalDigits digits, by omega⟩
      have few : (digits : ℚ) < 10 ^ decimalDigits digits := by exact_mod_cast lt_pow_decimalDigits digits
      have one : (1 : ℚ) ≤ 10 ^ rest := one_le_pow₀ (by norm_num)
      rw [shape, pow_add, pow_add, div_lt_div_iff₀ (by positivity) (by positivity)]
      calc (digits : ℚ) * 10 ^ 400 < 10 ^ decimalDigits digits * 10 ^ 400 := by gcongr
        _ ≤ 1 * (10 ^ rest * 10 ^ 400 * 10 ^ decimalDigits digits) := by
          rw [one_mul, mul_assoc, mul_comm (10 ^ 400)]
          exact le_mul_of_one_le_left (by positivity) one
  split
  · exact .inl rfl
  right
  left
  split
  · rename_i whole
    have none : places = 0 := by omega
    rw [none]
    exact ⟨_, 1, Nat.one_pos, rfl, by simp⟩
  · refine ⟨digits, _, Nat.pow_pos (by decide), rfl, ?_⟩
    simp

/-- A whole number in decimal is exact if its mantissa fits. -/
theorem stands_ofDecimal {n : ℕ} (fits : n < 2 ^ 53) : Stands (ofDecimal false n 0) n := by
  have few : decimalDigits n ≤ 16 := decimalDigits_le (by omega) (by decide)
  unfold ofDecimal
  dsimp only
  split
  · rename_i none
    have none : n = 0 := by omega
    rw [none, Nat.cast_zero]
    exact stands_zero
  · rw [if_neg (by omega), if_pos (Int.le_refl 0)]
    exact Rounds.exact_natural ⟨n, 1, Nat.one_pos, by simp, by simp⟩ fits

end ProxyControl.Binary64
