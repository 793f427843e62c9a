import ProxyControl.Duration
import ProxyControl.Proofs.Number.Operations

namespace ProxyControl.Duration

open Binary64

/-- No span has as many seconds. -/
def secondLimit : ℕ := 86400 * 10 ^ 9

theorem ofMicroseconds_of_small {n : ℤ} (natural : 0 ≤ n) (small : n < secondLimit * 10 ^ 6) :
    ofMicroseconds n = .ok ⟨n⟩ := by
  have days : (⟨n⟩ : Duration).days = n / 86400000000 := Int.fdiv_eq_ediv_of_nonneg n (by decide)
  unfold secondLimit at small
  unfold ofMicroseconds dayLimit dayWordLimit
  simp only [days]
  rw [if_neg (by omega), if_neg (by omega)]

theorem ofMicroseconds_of_large {n : ℤ} (large : secondLimit * 10 ^ 6 ≤ n) :
    ∃ message, ofMicroseconds n = .error (.fault .overflow message) := by
  have days : (⟨n⟩ : Duration).days = n / 86400000000 := Int.fdiv_eq_ediv_of_nonneg n (by decide)
  unfold secondLimit at large
  unfold ofMicroseconds dayLimit
  simp only [days]
  split
  · exact ⟨_, rfl⟩
  · rw [if_pos (by omega)]
    exact ⟨_, rfl⟩

theorem ofMicroseconds_eq_ok {n : ℤ} {d : Duration} (told : ofMicroseconds n = .ok d) :
    d = ⟨n⟩ ∧ d.days ≤ dayLimit := by
  unfold ofMicroseconds at told
  dsimp only at told
  split at told
  · cases told
  split at told
  · cases told
  · rename_i existing
    cases told
    exact ⟨rfl, by omega⟩

theorem lt_of_days_le {d : Duration} (existing : d.days ≤ dayLimit) : d.microseconds < secondLimit * 10 ^ 6 := by
  unfold days dayLimit at existing
  unfold secondLimit
  rw [Int.fdiv_eq_ediv_of_nonneg _ (by decide)] at existing
  omega

variable {x : Binary64} {q : ℚ}

/-- More than half of a microsecond adds one, and half of one if the microseconds become even. -/
theorem absorb_eq (whole : ℤ) (stands : Stands x q) :
    absorb whole x = if 1 / 2 < q ∨ q = 1 / 2 ∧ whole % 2 ≠ 0 then whole + 1 else whole := by
  obtain ⟨m, e, rfl, _, _, rfl⟩ := stands
  obtain ⟨positive, value⟩ := scale_spec m Nat.one_pos e
  rw [Nat.cast_one, div_one] at value
  rw [← value]
  unfold absorb
  dsimp only
  generalize (scale m 1 e).1 = n at *
  generalize (scale m 1 e).2 = d at *
  have above : (0 : ℚ) < d := by positivity
  have more : 2 * n > d ↔ (1 : ℚ) / 2 < n / d := by
    rw [div_lt_div_iff₀ (by norm_num) above, one_mul, mul_comm (n : ℚ)]
    norm_cast
  have tie : 2 * n = d ↔ (n : ℚ) / d = 1 / 2 := by
    rw [div_eq_div_iff above.ne' (by norm_num), one_mul, mul_comm (n : ℚ)]
    norm_cast
  simp only [more, tie, Bool.false_eq_true, if_false]

/-- What is left of a microsecond adds one or nothing, whichever is nearer. -/
theorem absorb_spec (whole : ℤ) (stands : Stands x q) (small : q < 1) :
    whole ≤ absorb whole x ∧ |(absorb whole x : ℚ) - (whole + q)| ≤ 1 / 2 := by
  have natural := stands.natural
  rw [absorb_eq whole stands, abs_le]
  split
  · rename_i up
    have half : 1 / 2 ≤ q := up.elim le_of_lt fun tie => tie.1.ge
    push_cast
    exact ⟨by omega, by linarith, by linarith⟩
  · rename_i down
    have half : q ≤ 1 / 2 := not_lt.mp fun more => down (.inl more)
    exact ⟨le_rfl, by linarith, by linarith⟩

/-- The fraction of a finite number of seconds becomes microseconds by one product, which is rounded; what is left of a
microsecond is absorbed. -/
theorem ofSeconds_eq_absorb (stands : Stands x q) : ∃ p, Stands (ofNat 1000000 * x.fraction) p ∧
    Rounds (ofNat 1000000 * x.fraction) ((1000000 : ℕ) * Int.fract q) ∧
    |p - (1000000 : ℕ) * Int.fract q| ≤ (1000000 : ℕ) * Int.fract q / 2 ^ 53 + 2 ^ (leastExponent - 1) ∧
    ofSeconds x = ofMicroseconds (absorb (⌊q⌋ * 1000000 + ⌊p⌋) (ofNat 1000000 * x.fraction).fraction) := by
  obtain ⟨_, cut⟩ := stands.truncate
  have high := Int.fract_lt_one q
  have million : Stands (ofNat 1000000) (1000000 : ℕ) := (rounds_ofNat _).exact_natural (by norm_num)
  have product := million.mul stands.fraction
  have bound : ((1000000 : ℕ) : ℚ) * Int.fract q < 2 ^ (greatestExponent + 52) := by
    have room : (2 : ℚ) ^ (20 : ℤ) ≤ 2 ^ (greatestExponent + 52) := zpow_le_zpow_right₀ (by norm_num) (by decide)
    norm_num at room ⊢
    linarith
  obtain ⟨p, part, near⟩ := product.near bound
  obtain ⟨_, cutPart⟩ := part.truncate
  refine ⟨p, part, product, near, ?_⟩
  rw [ofSeconds, cut]
  dsimp only
  rw [cutPart]

/-- A finite number of seconds is told in microseconds, less than one of them off. -/
theorem ofSeconds_of_stands (stands : Stands x q) : ∃ total : ℤ, ofSeconds x = ofMicroseconds total ∧
    ⌊q⌋ * 10 ^ 6 ≤ total ∧ |(total : ℚ) - q * 10 ^ 6| < 1 := by
  obtain ⟨p, part, _, near, told⟩ := ofSeconds_eq_absorb stands
  have high := Int.fract_lt_one q
  have tiny : (2 : ℚ) ^ (leastExponent - 1) ≤ 2 ^ (-3 : ℤ) := zpow_le_zpow_right₀ (by norm_num) (by decide)
  have natural := part.natural
  obtain ⟨more, error⟩ := absorb_spec (⌊q⌋ * 1000000 + ⌊p⌋) part.fraction (Int.fract_lt_one p)
  refine ⟨absorb (⌊q⌋ * 1000000 + ⌊p⌋) (ofNat 1000000 * x.fraction).fraction, told, ?_, ?_⟩
  · have whole := Int.floor_nonneg.mpr natural
    omega
  · have wholeQ := Int.floor_add_fract q
    have wholeP := Int.floor_add_fract p
    rw [abs_le] at near error
    push_cast at near error
    norm_num at tiny near error
    rw [abs_lt]
    constructor <;> linarith

/-- Near the greatest span, numbers are the 64th part of a second apart. -/
theorem le_of_lt_secondLimit (stands : Stands x q) (small : q < secondLimit) : q ≤ secondLimit - 1 / 64 := by
  obtain ⟨m, e, _, fits, _, rfl⟩ := stands
  by_cases low : e < -6
  · have fits : (m : ℚ) ≤ 2 ^ 53 := by exact_mod_cast fits.le
    have power : (2 : ℚ) ^ e ≤ 2 ^ (-7 : ℤ) := zpow_le_zpow_right₀ (by norm_num) (by omega)
    calc (m : ℚ) * 2 ^ e ≤ 2 ^ 53 * 2 ^ (-7 : ℤ) := by gcongr
      _ ≤ secondLimit - 1 / 64 := by norm_num [secondLimit]
  · obtain ⟨k, rfl⟩ : ∃ k : ℕ, e = k - 6 := ⟨(e + 6).toNat, by omega⟩
    have parts : (m : ℚ) * 2 ^ ((k : ℤ) - 6) = (m * 2 ^ k : ℕ) / 64 := by
      rw [zpow_sub₀ (by norm_num), zpow_natCast]
      push_cast
      ring
    rw [parts] at small ⊢
    rw [div_lt_iff₀ (by norm_num)] at small
    have small : m * 2 ^ k < secondLimit * 64 := by exact_mod_cast small
    have small : ((m * 2 ^ k + 1 : ℕ) : ℚ) ≤ (secondLimit * 64 : ℕ) := by exact_mod_cast small
    push_cast at small ⊢
    linarith

/-- A number of seconds below the limit is the number of a span, which is less than a microsecond off. -/
theorem ofSeconds_of_lt (stands : Stands x q) (small : q < secondLimit) :
    ∃ d, ofSeconds x = .ok d ∧ |(d.microseconds : ℚ) - q * 10 ^ 6| < 1 := by
  obtain ⟨total, told, _, near⟩ := ofSeconds_of_stands stands
  have gap := le_of_lt_secondLimit stands small
  have natural := stands.natural
  have close := abs_lt.mp near
  have low : (-1 : ℚ) < total := by linarith
  have high : (total : ℚ) < (secondLimit * 10 ^ 6 : ℤ) := by
    push_cast
    linarith
  have low : -1 < total := by exact_mod_cast low
  have high : total < secondLimit * 10 ^ 6 := by exact_mod_cast high
  exact ⟨⟨total⟩, told.trans (ofMicroseconds_of_small (by omega) high), near⟩

/-- The greatest span ends before the limit. -/
theorem ofSeconds_of_ge (stands : Stands x q) (large : secondLimit ≤ q) :
    ∃ message, ofSeconds x = .error (.fault .overflow message) := by
  obtain ⟨total, told, above, _⟩ := ofSeconds_of_stands stands
  have whole : (secondLimit : ℤ) ≤ ⌊q⌋ := Int.le_floor.mpr large
  rw [told]
  exact ofMicroseconds_of_large (by omega)

theorem ofSeconds_infinite :
    ofSeconds (infinite false) = .error (.fault .overflow "cannot convert float infinity to integer") := rfl

/-- A whole number of seconds has no microseconds beyond them. -/
theorem ofSeconds_natural {n : ℕ} (stands : Stands x n) (small : n < secondLimit) : ofSeconds x = .ok ⟨n * 10 ^ 6⟩ := by
  obtain ⟨⟨total⟩, told, near⟩ := ofSeconds_of_lt stands (by exact_mod_cast small)
  rw [abs_lt] at near
  have low : ((n * 10 ^ 6 - 1 : ℤ) : ℚ) < total := by
    push_cast
    linarith
  have high : (total : ℚ) < (n * 10 ^ 6 + 1 : ℤ) := by
    push_cast
    linarith
  have low : (n * 10 ^ 6 - 1 : ℤ) < total := by exact_mod_cast low
  have high : total < n * 10 ^ 6 + 1 := by exact_mod_cast high
  rw [told, show total = n * 10 ^ 6 by omega]

/-- A number of seconds that a span can have. -/
def Representable (x : Binary64) : Prop := ∃ q, Stands x q ∧ q < secondLimit

/-- Of the numbers that are neither negative nor undefined, just those below the limit make a span. -/
theorem ofSeconds_ok_iff (unsigned : Unsigned x) : (∃ d, ofSeconds x = .ok d) ↔ Representable x := by
  constructor
  · rintro ⟨d, told⟩
    rcases unsigned with rfl | ⟨q, stands⟩
    · cases told
    refine ⟨q, stands, lt_of_not_ge fun large => ?_⟩
    obtain ⟨message, fails⟩ := ofSeconds_of_ge stands large
    rw [fails] at told
    cases told
  · rintro ⟨q, stands, small⟩
    obtain ⟨d, told, _⟩ := ofSeconds_of_lt stands small
    exact ⟨d, told⟩

/-- All others are too large for a span. -/
theorem ofSeconds_of_not_representable (unsigned : Unsigned x) (large : ¬ Representable x) :
    ∃ message, ofSeconds x = .error (.fault .overflow message) := by
  rcases unsigned with rfl | ⟨q, stands⟩
  · exact ⟨_, ofSeconds_infinite⟩
  · exact ofSeconds_of_ge stands (le_of_not_gt fun small => large ⟨q, stands, small⟩)

end ProxyControl.Duration
