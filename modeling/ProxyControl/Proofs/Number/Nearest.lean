import Mathlib.Algebra.Order.Field.Power
import Mathlib.Algebra.Order.Archimedean.Basic
import Mathlib.Data.Rat.Floor
import Mathlib.Tactic.FieldSimp
import Mathlib.Tactic.Linarith
import Mathlib.Tactic.Positivity
import ProxyControl.Number.Binary64

namespace ProxyControl

/-- A fraction is its whole part and what the division leaves over. -/
theorem cast_div_add_mod (n d : ℕ) : ((n / d : ℕ) : ℚ) + (n % d : ℕ) / d = n / d := by
  have whole : ((n / d : ℕ) : ℤ) = ⌊(n : ℚ) / d⌋ := (Rat.floor_natCast_div_natCast n d).symm
  rw [← Int.fract_div_natCast_eq_div_natCast_mod, ← Int.cast_natCast, whole, Int.floor_add_fract]

/-- Rounding goes at most half way. -/
theorem roundHalfEven_near (n : ℕ) {d : ℕ} (positive : 0 < d) : |(roundHalfEven n d : ℚ) - n / d| ≤ 1 / 2 := by
  have parts := cast_div_add_mod n d
  have above : (0 : ℚ) < d := by positivity
  have rest : ((n % d : ℕ) : ℚ) / d < 1 := by
    rw [div_lt_one above]
    exact_mod_cast Nat.mod_lt n positive
  have natural : (0 : ℚ) ≤ (n % d : ℕ) / d := by positivity
  unfold roundHalfEven
  dsimp only
  split
  · rename_i up
    have half : (1 : ℚ) / 2 ≤ (n % d : ℕ) / d := by
      rw [div_le_div_iff₀ (by norm_num) above]
      exact_mod_cast (by omega : 1 * d ≤ n % d * 2)
    rw [abs_le]
    push_cast
    constructor <;> linarith
  · rename_i down
    have half : ((n % d : ℕ) : ℚ) / d ≤ 1 / 2 := by
      rw [div_le_div_iff₀ above (by norm_num)]
      exact_mod_cast (by omega : n % d * 2 ≤ 1 * d)
    rw [abs_le]
    constructor <;> linarith

/-- A fraction that is a whole number is not changed by rounding. -/
theorem roundHalfEven_whole {n d k : ℕ} (positive : 0 < d) (whole : (n : ℚ) / d = k) : roundHalfEven n d = k := by
  have near := roundHalfEven_near n positive
  rw [whole, abs_le] at near
  have below : (roundHalfEven n d : ℚ) < k + 1 := by linarith
  have above : (k : ℚ) < roundHalfEven n d + 1 := by linarith
  have below : roundHalfEven n d < k + 1 := by exact_mod_cast below
  have above : k < roundHalfEven n d + 1 := by exact_mod_cast above
  omega

theorem roundHalfEven_le {n d k : ℕ} (positive : 0 < d) (below : (n : ℚ) / d ≤ k) : roundHalfEven n d ≤ k := by
  have near := roundHalfEven_near n positive
  rw [abs_le] at near
  have bound : (roundHalfEven n d : ℚ) < k + 1 := by linarith
  have bound : roundHalfEven n d < k + 1 := by exact_mod_cast bound
  omega

namespace Binary64

/-- Scaling multiplies a fraction by a power of two. -/
theorem scale_spec (n : ℕ) {d : ℕ} (positive : 0 < d) (exponent : ℤ) :
    0 < (scale n d exponent).2 ∧
      ((scale n d exponent).1 : ℚ) / (scale n d exponent).2 = n / d * 2 ^ exponent := by
  unfold scale
  split
  · rename_i natural
    obtain ⟨k, rfl⟩ := Int.eq_ofNat_of_zero_le natural
    refine ⟨positive, ?_⟩
    simp only [Int.toNat_natCast, Nat.pow_eq, Nat.cast_mul, Nat.cast_pow, Nat.cast_ofNat, zpow_natCast]
    ring
  · rename_i negative
    obtain ⟨k, rfl⟩ : ∃ k : ℕ, exponent = -k := ⟨(-exponent).toNat, by omega⟩
    have power : 0 < d * Nat.pow 2 (- -(k : ℤ)).toNat := Nat.mul_pos positive (Nat.two_pow_pos _)
    refine ⟨power, ?_⟩
    simp only [neg_neg, Int.toNat_natCast, Nat.pow_eq, Nat.cast_mul, Nat.cast_pow, Nat.cast_ofNat, zpow_neg,
      zpow_natCast]
    field_simp

/-- A positive fraction lies between powers of two that its logarithms tell. -/
theorem fraction_bounds {n d : ℕ} (some : 0 < n) (positive : 0 < d) :
    (2 : ℚ) ^ ((n.log2 : ℤ) - d.log2 - 1) < n / d ∧ (n : ℚ) / d < 2 ^ ((n.log2 : ℤ) - d.log2 + 1) := by
  have above : (0 : ℚ) < d := by positivity
  have lowN : (2 : ℚ) ^ n.log2 ≤ n := by exact_mod_cast Nat.log2_self_le (by omega)
  have lowD : (2 : ℚ) ^ d.log2 ≤ d := by exact_mod_cast Nat.log2_self_le (by omega)
  have highN : (n : ℚ) < 2 ^ n.log2 * 2 := by exact_mod_cast Nat.lt_log2_self
  have highD : (d : ℚ) < 2 ^ d.log2 * 2 := by exact_mod_cast Nat.lt_log2_self
  have powN : (0 : ℚ) < 2 ^ n.log2 := by positivity
  have powD : (0 : ℚ) < 2 ^ d.log2 := by positivity
  constructor
  · rw [zpow_sub₀ (by norm_num), zpow_sub₀ (by norm_num), zpow_natCast, zpow_natCast, zpow_one, div_div,
      div_lt_div_iff₀ (by positivity) above]
    calc (2 : ℚ) ^ n.log2 * d < 2 ^ n.log2 * (2 ^ d.log2 * 2) := by gcongr
      _ ≤ n * (2 ^ d.log2 * 2) := by gcongr
  · rw [zpow_add₀ (by norm_num), zpow_sub₀ (by norm_num), zpow_natCast, zpow_natCast, zpow_one, div_mul_eq_mul_div,
      div_lt_div_iff₀ above powD]
    calc (n : ℚ) * 2 ^ d.log2 < 2 ^ n.log2 * 2 * 2 ^ d.log2 := by gcongr
      _ ≤ 2 ^ n.log2 * 2 * d := by gcongr

/-- The exponent that belongs to a positive fraction: the mantissa has 53 bits, or fewer at the least exponent. -/
structure Fits (q : ℚ) (exponent : ℤ) : Prop where
  least : leastExponent ≤ exponent
  below : q < 2 ^ (exponent + 53)
  above : exponent = leastExponent ∨ (2 : ℚ) ^ (exponent + 52) ≤ q

theorem fits_exponentFor {n d : ℕ} (some : 0 < n) (positive : 0 < d) : Fits (n / d) (exponentFor n d) := by
  obtain ⟨low, high⟩ := fraction_bounds some positive
  unfold exponentFor
  generalize guessed : max ((n.log2 : ℤ) - d.log2 - 53) leastExponent = guess
  have most : (n.log2 : ℤ) - d.log2 - 53 ≤ guess := guessed ▸ le_max_left _ _
  have least : leastExponent ≤ guess := guessed ▸ le_max_right _ _
  have either : guess = leastExponent ∨ guess = n.log2 - d.log2 - 53 := by omega
  obtain ⟨scaled, value⟩ := scale_spec n positive (-guess)
  have test : (scale n d (-guess)).1 / (scale n d (-guess)).2 ≥ Nat.pow 2 53 ↔ (2 : ℚ) ^ (guess + 53) ≤ n / d := by
    have power : (0 : ℚ) < 2 ^ guess := by positivity
    rw [ge_iff_le, Nat.le_div_iff_mul_le scaled, ← Nat.cast_le (α := ℚ), Nat.cast_mul, ← le_div_iff₀ (by positivity),
      value, zpow_neg, ← div_eq_mul_inv, le_div_iff₀ power, zpow_add₀ (by norm_num)]
    norm_num [mul_comm]
  dsimp only
  split
  · rename_i large
    rw [test] at large
    refine ⟨by omega, high.trans_le (zpow_le_zpow_right₀ (by norm_num) (by omega)), .inr ?_⟩
    rwa [show guess + 1 + 52 = guess + 53 by ring]
  · rename_i small
    rw [test, not_le] at small
    refine ⟨least, small, either.imp_right fun same => ?_⟩
    exact ((zpow_le_zpow_right₀ (by norm_num) (by omega)).trans_lt low).le

/-- A finite number that is not negative, with a mantissa that fits, and its exact value. -/
def Stands (x : Binary64) (q : ℚ) : Prop :=
  ∃ (mantissa : ℕ) (exponent : ℤ), x = finite false mantissa exponent ∧ mantissa < 2 ^ 53 ∧ leastExponent ≤ exponent ∧
    q = mantissa * 2 ^ exponent

/-- A number that was rounded from a fraction that is not negative. -/
def Rounds (x : Binary64) (q : ℚ) : Prop := ∃ n d : ℕ, 0 < d ∧ x = ofRatio false n d ∧ q = n / d

variable {x y : Binary64} {a b q : ℚ}

theorem Stands.natural (stands : Stands x q) : 0 ≤ q := by
  obtain ⟨mantissa, exponent, _, _, _, rfl⟩ := stands
  positivity

theorem Rounds.natural (rounds : Rounds x q) : 0 ≤ q := by
  obtain ⟨n, d, _, _, rfl⟩ := rounds
  positivity

theorem stands_zero : Stands (zero false) 0 := ⟨0, leastExponent, rfl, by norm_num, le_rfl, by simp⟩

/-- The mantissa to which a positive fraction is rounded at its exponent, and what becomes of it. -/
theorem exists_of_ofRatio {n d : ℕ} (some : 0 < n) (positive : 0 < d) :
    ∃ (exponent : ℤ) (mantissa : ℕ), Fits (n / d) exponent ∧
      |(mantissa : ℚ) * 2 ^ exponent - n / d| ≤ 2 ^ exponent / 2 ∧
      (∀ k : ℕ, (n : ℚ) / d = k * 2 ^ exponent → mantissa = k) ∧
      (Stands (ofRatio false n d) (mantissa * 2 ^ exponent) ∨
        ofRatio false n d = infinite false ∧ greatestExponent ≤ exponent) := by
  have fits := fits_exponentFor some positive
  rw [ofRatio, if_neg (by omega)]
  dsimp only
  generalize exponentFor n d = exponent at fits
  have power : (0 : ℚ) < 2 ^ exponent := by positivity
  obtain ⟨scaled, value⟩ := scale_spec n positive (-exponent)
  rw [zpow_neg, ← div_eq_mul_inv] at value
  refine ⟨exponent, roundHalfEven (scale n d (-exponent)).1 (scale n d (-exponent)).2, fits, ?_, fun k whole => ?_, ?_⟩
  · have near := roundHalfEven_near (scale n d (-exponent)).1 scaled
    rw [value] at near
    have error := mul_le_mul_of_nonneg_right near power.le
    rw [← abs_of_pos power, ← abs_mul, abs_of_pos power, sub_mul, div_mul_cancel₀ _ power.ne'] at error
    linarith
  · refine roundHalfEven_whole scaled ?_
    rw [value, whole, mul_div_assoc, div_self power.ne', mul_one]
  · have most : roundHalfEven (scale n d (-exponent)).1 (scale n d (-exponent)).2 ≤ 2 ^ 53 := by
      refine roundHalfEven_le scaled ?_
      rw [value, div_le_iff₀ power]
      have below := fits.below
      rw [zpow_add₀ (by norm_num), mul_comm] at below
      push_cast
      exact below.le
    generalize roundHalfEven (scale n d (-exponent)).1 (scale n d (-exponent)).2 = mantissa at most ⊢
    by_cases carry : mantissa = Nat.pow 2 53
    · rw [if_pos carry]
      dsimp only
      split
      · exact .inr ⟨rfl, by omega⟩
      · have least := fits.least
        refine .inl ⟨Nat.pow 2 52, exponent + 1, rfl, by norm_num, by omega, ?_⟩
        rw [carry, zpow_add₀ (by norm_num)]
        norm_num
        ring
    · rw [if_neg carry]
      dsimp only
      split
      · exact .inr ⟨rfl, by omega⟩
      · exact .inl ⟨mantissa, exponent, rfl, lt_of_le_of_ne most carry, fits.least, rfl⟩

/-- A fraction that is not too large is rounded to a number near it. -/
theorem Rounds.near (rounds : Rounds x q) (bound : q < 2 ^ (greatestExponent + 52)) :
    ∃ a, Stands x a ∧ |a - q| ≤ q / 2 ^ 53 + 2 ^ (leastExponent - 1) := by
  have natural := rounds.natural
  obtain ⟨n, d, positive, rfl, rfl⟩ := rounds
  rcases Nat.eq_zero_or_pos n with rfl | some
  · exact ⟨0, stands_zero, by simp only [Nat.cast_zero, zero_div, sub_zero, abs_zero, zero_add]; positivity⟩
  obtain ⟨exponent, mantissa, fits, near, _, outcome⟩ := exists_of_ofRatio some positive
  have half : (2 : ℚ) ^ exponent / 2 ≤ n / d / 2 ^ 53 + 2 ^ (leastExponent - 1) := by
    rcases fits.above with least | above
    · have tiny : (2 : ℚ) ^ exponent / 2 = 2 ^ (leastExponent - 1) := by
        rw [least, zpow_sub₀ (by norm_num), zpow_one]
      have natural : (0 : ℚ) ≤ n / d / 2 ^ 53 := by positivity
      linarith
    · rw [zpow_add₀ (by norm_num)] at above
      have tiny : (0 : ℚ) ≤ 2 ^ (leastExponent - 1) := by positivity
      have relative : (2 : ℚ) ^ exponent / 2 ≤ n / d / 2 ^ 53 := by
        rw [le_div_iff₀ (by positivity)]
        calc (2 : ℚ) ^ exponent / 2 * 2 ^ 53 = 2 ^ exponent * 2 ^ (52 : ℤ) := by norm_num; ring
          _ ≤ n / d := above
      linarith
  rcases outcome with stands | ⟨_, large⟩
  · exact ⟨_, stands, near.trans half⟩
  · -- A number that large has no place below the bound.
    exfalso
    rcases fits.above with least | above
    · rw [least] at large
      exact absurd large (by decide)
    · have beyond : (2 : ℚ) ^ (greatestExponent + 52) ≤ 2 ^ (exponent + 52) :=
        zpow_le_zpow_right₀ (by norm_num) (by omega)
      linarith

/-- A fraction that has a mantissa of 53 bits is not changed by rounding. -/
theorem Rounds.exact {k : ℕ} {g : ℤ} (rounds : Rounds x q) (fits : k < 2 ^ 53) (least : leastExponent ≤ g)
    (greatest : g < greatestExponent) (value : q = k * 2 ^ g) : Stands x q := by
  obtain ⟨n, d, positive, rfl, rfl⟩ := rounds
  rcases Nat.eq_zero_or_pos n with rfl | some
  · rw [Nat.cast_zero, zero_div]
    exact stands_zero
  obtain ⟨exponent, mantissa, place, _, whole, outcome⟩ := exists_of_ofRatio some positive
  have low : exponent ≤ g := by
    rcases place.above with same | above
    · omega
    · have below : (n : ℚ) / d < 2 ^ (g + 53) := by
        rw [value, zpow_add₀ (by norm_num), mul_comm]
        have bits : (k : ℚ) < 2 ^ (53 : ℤ) := by exact_mod_cast fits
        gcongr
      have order := (zpow_lt_zpow_iff_right₀ (by norm_num)).mp (above.trans_lt below)
      omega
  obtain ⟨shift, rfl⟩ : ∃ shift : ℕ, g = exponent + shift := ⟨(g - exponent).toNat, by omega⟩
  have scaled : (n : ℚ) / d = (k * 2 ^ shift : ℕ) * 2 ^ exponent := by
    rw [value, zpow_add₀ (by norm_num), zpow_natCast]
    push_cast
    ring
  rcases outcome with stands | ⟨_, large⟩
  · rw [whole _ scaled, ← scaled] at stands
    exact stands
  · omega

theorem Rounds.exact_natural {k : ℕ} (rounds : Rounds x k) (fits : k < 2 ^ 53) : Stands x k :=
  rounds.exact (g := 0) fits (by decide) (by decide) (by simp)

end Binary64

end ProxyControl
