import ProxyControl.Proofs.Number.Operations

namespace ProxyControl.Binary64

variable {x y : Binary64} {a b q : ℚ}

theorem Stands.unique (first : Stands x a) (second : Stands x b) : a = b := by
  obtain ⟨m, e, rfl, _, _, rfl⟩ := first
  obtain ⟨_, _, same, _, _, rfl⟩ := second
  cases same
  rfl

theorem Fits.le {e f : ℤ} (first : Fits q e) (second : Fits q f) : e ≤ f := by
  rcases first.above with least | above
  · rw [least]
    exact second.least
  · have order := (zpow_lt_zpow_iff_right₀ (by norm_num : (1 : ℚ) < 2)).mp (above.trans_lt second.below)
    omega

/-- A fraction has one exponent. -/
theorem Fits.unique {e f : ℤ} (first : Fits q e) (second : Fits q f) : e = f :=
  le_antisymm (first.le second) (second.le first)

/-- What a positive fraction was rounded to, if it is finite: a multiple of the power of two that fits, at most half of
which it is off. -/
theorem Rounds.exists_mantissa (rounds : Rounds x q) (stands : Stands x a) (positive : 0 < q) :
    ∃ (exponent : ℤ) (mantissa : ℕ), Fits q exponent ∧ a = mantissa * 2 ^ exponent ∧
      |(mantissa : ℚ) - q / 2 ^ exponent| ≤ 1 / 2 := by
  obtain ⟨n, d, above, rfl, rfl⟩ := rounds
  have some : 0 < n := by
    rcases Nat.eq_zero_or_pos n with rfl | some
    · simp at positive
    · exact some
  obtain ⟨exponent, mantissa, fits, near, _, finite | ⟨infinite, _⟩⟩ := exists_of_ofRatio some above
  · refine ⟨exponent, mantissa, fits, stands.unique finite, ?_⟩
    have power : (0 : ℚ) < 2 ^ exponent := by positivity
    have parts : (mantissa : ℚ) * 2 ^ exponent - n / d = (mantissa - n / d / 2 ^ exponent) * 2 ^ exponent := by
      field_simp
    rw [parts, abs_mul, abs_of_pos power] at near
    exact le_of_mul_le_mul_right (by linarith) power
  · obtain ⟨_, _, finite, _⟩ := stands
    rw [infinite] at finite
    cases finite

/-- A multiple of a power of two is one of every smaller power. -/
theorem exists_multiple {e g : ℤ} (k : ℕ) (le : e ≤ g) : ∃ j : ℕ, (k : ℚ) * 2 ^ g = j * 2 ^ e := by
  obtain ⟨shift, rfl⟩ : ∃ shift : ℕ, g = e + shift := ⟨(g - e).toNat, by omega⟩
  refine ⟨k * 2 ^ shift, ?_⟩
  rw [zpow_add₀ (by norm_num), zpow_natCast]
  push_cast
  ring

theorem Stands.lt_of_exponent (stands : Stands y b) :
    ∃ (k : ℕ) (g : ℤ), b = k * 2 ^ g ∧ leastExponent ≤ g ∧ b < 2 ^ (g + 53) := by
  obtain ⟨k, g, rfl, fits, least, rfl⟩ := stands
  refine ⟨k, g, rfl, least, ?_⟩
  have bits : (k : ℚ) < 2 ^ (53 : ℤ) := by exact_mod_cast fits
  rw [zpow_add₀ (by norm_num), mul_comm]
  gcongr

/-- Rounding goes up to a number, and not beyond it. -/
theorem Rounds.le_of_le (rounds : Rounds x q) (stands : Stands x a) (other : Stands y b) (below : q ≤ b) : a ≤ b := by
  rcases rounds.natural.eq_or_lt with rfl | positive
  · obtain ⟨n, d, above, rfl, nothing⟩ := rounds
    have none : n = 0 := by
      rcases div_eq_zero_iff.mp nothing.symm with none | none
      · exact_mod_cast none
      · exact absurd none (by positivity)
    rw [none] at stands
    rw [stands.unique stands_zero]
    exact below
  obtain ⟨e, m, fits, rfl, near⟩ := rounds.exists_mantissa stands positive
  obtain ⟨k, g, rfl, least, bound⟩ := other.lt_of_exponent
  have order : e ≤ g := by
    rcases fits.above with same | above
    · omega
    · have order := (zpow_lt_zpow_iff_right₀ (by norm_num : (1 : ℚ) < 2)).mp (above.trans_lt (below.trans_lt bound))
      omega
  obtain ⟨j, multiple⟩ := exists_multiple k order
  have power : (0 : ℚ) < 2 ^ e := by positivity
  rw [multiple] at below ⊢
  have most : q / 2 ^ e ≤ j := (div_le_iff₀ power).mpr below
  have half := (abs_le.mp near).2
  have order : (m : ℚ) < j + 1 := by linarith
  have order : m < j + 1 := by exact_mod_cast order
  have order : (m : ℚ) ≤ j := by exact_mod_cast Nat.le_of_lt_succ order
  gcongr

/-- Rounding goes down to a number, and not beyond it. -/
theorem Rounds.ge_of_ge (rounds : Rounds x q) (stands : Stands x a) (other : Stands y b) (above : b ≤ q) : b ≤ a := by
  rcases rounds.natural.eq_or_lt with rfl | positive
  · exact above.trans stands.natural
  obtain ⟨e, m, fits, rfl, near⟩ := rounds.exists_mantissa stands positive
  obtain ⟨k, g, rfl, least, bound⟩ := other.lt_of_exponent
  have power : (0 : ℚ) < 2 ^ e := by positivity
  have half := (abs_le.mp near).1
  by_cases order : e ≤ g
  · obtain ⟨j, multiple⟩ := exists_multiple k order
    rw [multiple] at above ⊢
    have most : (j : ℚ) ≤ q / 2 ^ e := (le_div_iff₀ power).mpr above
    have order : (j : ℚ) < m + 1 := by linarith
    have order : j < m + 1 := by exact_mod_cast order
    have order : (j : ℚ) ≤ m := by exact_mod_cast Nat.le_of_lt_succ order
    gcongr
  · -- The other number is below the power of two that the fraction reaches.
    have reached : (2 : ℚ) ^ (e + 52) ≤ q := fits.above.resolve_left (by omega)
    have room : (2 : ℚ) ^ (g + 53) ≤ 2 ^ (e + 52) := zpow_le_zpow_right₀ (by norm_num) (by omega)
    rw [zpow_add₀ (by norm_num)] at reached
    rw [zpow_add₀ (by norm_num) e] at room
    have most : (2 : ℚ) ^ (52 : ℤ) ≤ q / 2 ^ e := (le_div_iff₀ power).mpr (by linarith)
    have order : ((2 ^ 52 : ℕ) : ℚ) < m + 1 := by
      push_cast
      norm_num at most ⊢
      linarith
    have order : 2 ^ 52 < m + 1 := by exact_mod_cast order
    have order : ((2 ^ 52 : ℕ) : ℚ) ≤ m := by exact_mod_cast Nat.le_of_lt_succ order
    calc (k : ℚ) * 2 ^ g ≤ 2 ^ e * 2 ^ (52 : ℤ) := bound.le.trans room
      _ = 2 ^ e * (2 ^ 52 : ℕ) := by norm_num
      _ ≤ m * 2 ^ e := by rw [mul_comm]; gcongr

/-- A fraction is rounded beyond a multiple of the power of two that fits just if it is more than half of the power away
from it. -/
theorem Rounds.lt_iff_of_fits {e : ℤ} {k : ℕ} (rounds : Rounds x q) (stands : Stands x a) (fits : Fits q e)
    (positive : 0 < q) (below : k * 2 ^ e ≤ q) (untied : q - k * 2 ^ e ≠ 2 ^ e / 2) :
    k * 2 ^ e < a ↔ 2 ^ e / 2 < q - k * 2 ^ e := by
  obtain ⟨f, m, same, rfl, near⟩ := rounds.exists_mantissa stands positive
  obtain rfl := same.unique fits
  have power : (0 : ℚ) < 2 ^ f := by positivity
  obtain ⟨rest, shape⟩ : ∃ rest, q / 2 ^ f = k + rest := ⟨q / 2 ^ f - k, by ring⟩
  have value : q - k * 2 ^ f = rest * 2 ^ f := by
    rw [← div_mul_cancel₀ q power.ne', shape]
    ring
  rw [value] at untied ⊢
  rw [shape, abs_le] at near
  have split : rest ≠ 1 / 2 := by
    rintro rfl
    exact untied (by ring)
  have far : 2 ^ f / 2 < rest * 2 ^ f ↔ 1 / 2 < rest := by
    rw [div_eq_inv_mul, one_div]
    exact mul_lt_mul_iff_left₀ power
  rw [far, mul_lt_mul_iff_left₀ power, Nat.cast_lt]
  constructor
  · intro more
    have more : (k : ℚ) + 1 ≤ m := by exact_mod_cast more
    exact lt_of_le_of_ne (by linarith) split.symm
  · intro more
    have order : (k : ℚ) < m := by linarith
    exact_mod_cast order

/-- Rounding a number up to a whole one. -/
theorem Stands.ceiling (stands : Stands x a) : x.ceiling? = some ⌈a⌉ := by
  obtain ⟨m, e, rfl, _, _, rfl⟩ := stands
  obtain ⟨positive, value⟩ := scale_spec m Nat.one_pos e
  rw [Nat.cast_one, div_one] at value
  change some (((((scale m 1 e).1 + (scale m 1 e).2 - 1) / (scale m 1 e).2 : ℕ) : ℤ)) = _
  rw [← value]
  generalize (scale m 1 e).1 = n
  generalize (scale m 1 e).2 = d at positive
  have above : (0 : ℚ) < d := by exact_mod_cast positive
  have low : (n + d - 1) / d * d ≤ n + d - 1 := Nat.div_mul_le_self _ _
  have high : n + d - 1 < ((n + d - 1) / d + 1) * d := Nat.lt_mul_of_div_lt (Nat.lt_succ_self _) positive
  generalize (n + d - 1) / d = c at low high
  have low : ((c * d : ℕ) : ℚ) < (n + d : ℕ) := by exact_mod_cast (by omega : c * d < n + d)
  have high : (n : ℚ) ≤ (c * d : ℕ) := by
    rw [Nat.add_mul, Nat.one_mul] at high
    exact_mod_cast (by omega : n ≤ c * d)
  push_cast at low high
  refine congrArg some (Int.ceil_eq_iff.mpr ⟨?_, ?_⟩).symm
  · rw [lt_div_iff₀ above, Int.cast_natCast]
    linarith
  · rw [div_le_iff₀ above, Int.cast_natCast]
    exact high

end ProxyControl.Binary64
