import ProxyControl.Proofs.Duration.Seconds
import ProxyControl.Proofs.Number.Order

namespace ProxyControl.Duration

open Binary64

/-- What a span has beyond whole seconds is nothing, or it is more than half of the distance between two floats of that
size, so that the float of the span is beyond the whole seconds too. -/
def Discerned (d : Duration) : Prop :=
  d.microseconds % 10 ^ 6 = 0 ∨
    10 ^ 6 * 2 ^ (d.microseconds / 10 ^ 6).toNat.log2 < d.microseconds % 10 ^ 6 * 2 ^ 53

instance (d : Duration) : Decidable d.Discerned := inferInstanceAs (Decidable (_ ∨ _))

variable {n s r : ℕ} {x : Binary64} {a : ℚ}

theorem discerned_natural : Discerned ⟨n⟩ ↔ n % 10 ^ 6 = 0 ∨ 10 ^ 6 * 2 ^ (n / 10 ^ 6).log2 < n % 10 ^ 6 * 2 ^ 53 := by
  have parts : ((n : ℤ) / 10 ^ 6).toNat = n / 10 ^ 6 := by omega
  unfold Discerned
  dsimp only
  rw [parts]
  norm_cast

/-- Below some five hundred years, every microsecond tells. -/
theorem discerned_of_small (small : n < 2 ^ 34 * 10 ^ 6) : Discerned ⟨n⟩ := by
  rw [discerned_natural]
  by_cases whole : n % 10 ^ 6 = 0
  · exact .inl whole
  · right
    have few : (n / 10 ^ 6).log2 ≤ 33 := by
      rcases Nat.eq_zero_or_pos (n / 10 ^ 6) with none | some
      · rw [none, Nat.log2_zero]
        omega
      · have bits := (Nat.log2_lt some.ne').mpr (show n / 10 ^ 6 < 2 ^ 34 by omega)
        omega
    have power : 2 ^ (n / 10 ^ 6).log2 ≤ 2 ^ 33 := Nat.pow_le_pow_right (by decide) few
    omega

/-- The float of a positive span lies between the whole seconds around it. -/
theorem exists_stands_seconds (some : 0 < n) (small : n < secondLimit * 10 ^ 6) :
    ∃ a, Stands (ofRatio false n 1000000) a ∧ 0 < a ∧ (n / 10 ^ 6 : ℕ) ≤ a ∧ a ≤ (n / 10 ^ 6 + 1 : ℕ) := by
  have rounds : Rounds (ofRatio false n 1000000) ((n : ℚ) / (1000000 : ℕ)) := ⟨n, 1000000, by decide, rfl, rfl⟩
  unfold secondLimit at small
  have low : ((n / 10 ^ 6 : ℕ) : ℚ) ≤ n / (1000000 : ℕ) := by
    rw [le_div_iff₀ (by norm_num)]
    exact_mod_cast (by omega : n / 10 ^ 6 * 1000000 ≤ n)
  have high : (n : ℚ) / (1000000 : ℕ) ≤ (n / 10 ^ 6 + 1 : ℕ) := by
    rw [div_le_iff₀ (by norm_num)]
    exact_mod_cast (by omega : n ≤ (n / 10 ^ 6 + 1) * 1000000)
  have bound : (n : ℚ) / (1000000 : ℕ) < 2 ^ (greatestExponent + 52) := by
    have room : (2 : ℚ) ^ (50 : ℤ) ≤ 2 ^ (greatestExponent + 52) := zpow_le_zpow_right₀ (by norm_num) (by decide)
    have seconds : ((n / 10 ^ 6 + 1 : ℕ) : ℚ) < (2 ^ 50 : ℕ) := by exact_mod_cast (by omega : n / 10 ^ 6 + 1 < 2 ^ 50)
    calc (n : ℚ) / (1000000 : ℕ) < (2 ^ 50 : ℕ) := high.trans_lt seconds
      _ = 2 ^ (50 : ℤ) := by norm_num
      _ ≤ 2 ^ (greatestExponent + 52) := room
  obtain ⟨a, stands, _⟩ := rounds.near bound
  have tiny : Stands (.finite false 1 (-20)) ((1 : ℕ) * 2 ^ (-20 : ℤ)) := ⟨1, -20, rfl, by decide, by decide, rfl⟩
  have tinyBelow : ((1 : ℕ) : ℚ) * 2 ^ (-20 : ℤ) ≤ n / (1000000 : ℕ) := by
    have one : (1 : ℚ) ≤ n := by exact_mod_cast some
    rw [le_div_iff₀ (by norm_num)]
    norm_num
    linarith
  have positive := rounds.ge_of_ge stands tiny tinyBelow
  refine ⟨a, stands, lt_of_lt_of_le (by norm_num) positive, ?_, ?_⟩
  · exact rounds.ge_of_ge stands ((rounds_ofNat _).exact_natural (by omega)) low
  · exact rounds.le_of_le stands ((rounds_ofNat _).exact_natural (by omega)) high

/-- The exponent of a number of seconds is that of its whole part. -/
theorem fits_seconds (some : 0 < s) (small : s < 2 ^ 53) (part : r < 10 ^ 6) :
    Fits (s + r / (1000000 : ℕ)) ((s.log2 : ℤ) - 52) := by
  have low : ((2 ^ s.log2 : ℕ) : ℚ) ≤ s := by exact_mod_cast Nat.log2_self_le some.ne'
  have high : ((s + 1 : ℕ) : ℚ) ≤ (2 ^ (s.log2 + 1) : ℕ) := by exact_mod_cast Nat.lt_log2_self
  have fraction : (r : ℚ) / (1000000 : ℕ) < 1 := by
    rw [div_lt_one (by norm_num)]
    exact_mod_cast part
  have natural : (0 : ℚ) ≤ r / (1000000 : ℕ) := by positivity
  have few := (Nat.log2_lt some.ne').mpr small
  push_cast at low high
  refine ⟨by rw [leastExponent]; omega, ?_, .inr ?_⟩
  · rw [show (s.log2 : ℤ) - 52 + 53 = (s.log2 + 1 : ℕ) by omega, zpow_natCast]
    linarith
  · rw [show (s.log2 : ℤ) - 52 + 52 = s.log2 by ring, zpow_natCast]
    linarith

/-- No fraction of a second is just half of what floats are apart: a million is not divisible by so large a power of
two. -/
theorem half_ne_fraction (few : s.log2 ≤ 46) : 10 ^ 6 * 2 ^ s.log2 ≠ r * 2 ^ 53 := by
  intro tie
  have power : 2 ^ 53 = 2 ^ s.log2 * (2 ^ (46 - s.log2) * 2 ^ 7) := by
    rw [← Nat.pow_add, ← Nat.pow_add]
    congr 1
    omega
  rw [power, mul_comm, mul_left_comm] at tie
  have tie := Nat.eq_of_mul_eq_mul_left (Nat.two_pow_pos _) tie
  rw [← mul_assoc] at tie
  generalize r * 2 ^ (46 - s.log2) = m at tie
  omega

/-- Where there is a fraction of a second, the float of a span is beyond its whole seconds just if the fraction is
discerned. -/
theorem lt_iff_discerned (small : s < 2 ^ 47) (nonzero : 0 < r) (part : r < 10 ^ 6) (positive : 0 < a)
    (rounds : Rounds x (s + r / (1000000 : ℕ))) (stands : Stands x a) :
    s < a ↔ 10 ^ 6 * 2 ^ s.log2 < r * 2 ^ 53 := by
  rcases Nat.eq_zero_or_pos s with rfl | some
  · rw [Nat.cast_zero, Nat.log2_zero]
    exact iff_of_true positive (by omega)
  have few : s.log2 ≤ 46 := by
    have bits := (Nat.log2_lt some.ne').mpr small
    omega
  have fits := fits_seconds (s := s) some (by omega) part
  have natural : (0 : ℚ) ≤ r / (1000000 : ℕ) := by positivity
  have seconds : (0 : ℚ) < s := by exact_mod_cast some
  have whole : ((s * 2 ^ (52 - s.log2) : ℕ) : ℚ) * 2 ^ ((s.log2 : ℤ) - 52) = s := by
    rw [show (s.log2 : ℤ) - 52 = -((52 - s.log2 : ℕ) : ℤ) by omega, zpow_neg, zpow_natCast]
    push_cast
    field_simp
  have far : (2 : ℚ) ^ ((s.log2 : ℤ) - 52) / 2 = 10 ^ 6 * 2 ^ s.log2 / (10 ^ 6 * 2 ^ 53) := by
    rw [zpow_sub₀ (by norm_num), zpow_natCast]
    norm_num
    ring
  have near : (r : ℚ) / (1000000 : ℕ) = r * 2 ^ 53 / (10 ^ 6 * 2 ^ 53) := by
    norm_num
    ring
  have rest : (s : ℚ) + r / (1000000 : ℕ) - s = r / (1000000 : ℕ) := add_sub_cancel_left _ _
  have beyond := rounds.lt_iff_of_fits (k := s * 2 ^ (52 - s.log2)) stands fits (by linarith) (by rw [whole]; linarith)
  rw [whole, rest, far, near] at beyond
  rw [beyond, div_lt_div_iff_of_pos_right (by norm_num)]
  · norm_cast
  · intro tie
    rw [div_left_inj' (by norm_num)] at tie
    exact half_ne_fraction few (by exact_mod_cast tie.symm)

/-- A million microseconds are a second. -/
theorem seconds_add_fraction (n : ℕ) :
    (n : ℚ) / 10 ^ 6 = (n / 10 ^ 6 : ℕ) + (n % 10 ^ 6 : ℕ) / (1000000 : ℕ) := by
  have parts := cast_div_add_mod n (10 ^ 6)
  norm_num at parts ⊢
  exact parts.symm

/-- The seconds of a positive span are rounded up if it is discerned, and down otherwise. -/
theorem ceilingSeconds_eq (some : 0 < n) (small : n < secondLimit * 10 ^ 6) : (⟨n⟩ : Duration).ceilingSeconds =
    if Discerned ⟨n⟩ then ⌈(n : ℚ) / 10 ^ 6⌉ else ⌊(n : ℚ) / 10 ^ 6⌋ := by
  obtain ⟨a, stands, positive, low, high⟩ := exists_stands_seconds some small
  have rounded : (⟨n⟩ : Duration).ceilingSeconds = ⌈a⌉ := by
    rw [ceilingSeconds]
    dsimp only
    rw [decide_eq_false (by omega), Int.natAbs_natCast, stands.ceiling, Option.getD_some]
  have rounds : Rounds (ofRatio false n 1000000) ((n : ℚ) / 10 ^ 6) :=
    ⟨n, 1000000, by decide, rfl, by norm_num⟩
  have told := discerned_natural (n := n)
  rw [seconds_add_fraction] at rounds ⊢
  rw [rounded]
  have part : n % 10 ^ 6 < 10 ^ 6 := Nat.mod_lt n (by decide)
  have seconds : n / 10 ^ 6 < 2 ^ 47 := by
    unfold secondLimit at small
    omega
  generalize n / 10 ^ 6 = s at *
  generalize n % 10 ^ 6 = r at *
  have fraction : (r : ℚ) / (1000000 : ℕ) < 1 := by
    rw [div_lt_one (by norm_num)]
    exact_mod_cast part
  push_cast at high
  rcases Nat.eq_zero_or_pos r with rfl | nonzero
  · rw [Nat.cast_zero, zero_div, add_zero] at rounds ⊢
    rw [if_pos (told.mpr (.inl rfl)), stands.unique (rounds.exact_natural (by omega))]
  have beyond := lt_iff_discerned seconds nonzero part positive rounds stands
  have natural : (0 : ℚ) < r / (1000000 : ℕ) := by positivity
  split
  · rename_i discerned
    have more := beyond.mpr ((told.mp discerned).resolve_left nonzero.ne')
    have up : ⌈a⌉ = s + 1 := Int.ceil_eq_iff.mpr ⟨by push_cast; linarith, by push_cast; exact high⟩
    rw [up, eq_comm, Int.ceil_eq_iff]
    push_cast
    exact ⟨by linarith, by linarith⟩
  · rename_i lost
    have same : a = s := le_antisymm (not_lt.mp fun more => lost (told.mpr (.inr (beyond.mp more)))) low
    rw [same, Int.ceil_natCast, eq_comm, Int.floor_eq_iff]
    push_cast
    exact ⟨by linarith, by linarith⟩

/-- Of a span that is not discerned, some of a second is lost when it is rounded down. -/
theorem floor_ne_ceil (lost : ¬ Discerned ⟨n⟩) : ⌊(n : ℚ) / 10 ^ 6⌋ ≠ ⌈(n : ℚ) / 10 ^ 6⌉ := by
  intro same
  have whole : (n : ℚ) / 10 ^ 6 = ⌊(n : ℚ) / 10 ^ 6⌋ := by
    refine le_antisymm ?_ (Int.floor_le _)
    rw [same]
    exact Int.le_ceil _
  rw [div_eq_iff (by norm_num)] at whole
  have multiple : (n : ℤ) = ⌊(n : ℚ) / 10 ^ 6⌋ * 10 ^ 6 := by exact_mod_cast whole
  exact lost (.inl (by dsimp only; omega))

/-- A positive span has one second at least. -/
theorem one_le_ceilingSeconds (some : 0 < n) (small : n < secondLimit * 10 ^ 6) :
    1 ≤ (⟨n⟩ : Duration).ceilingSeconds := by
  rw [ceilingSeconds_eq some small]
  split
  · rw [Int.one_le_ceil_iff]
    positivity
  · rename_i lost
    have large : 2 ^ 34 * 10 ^ 6 ≤ n := not_lt.mp fun few => lost (discerned_of_small few)
    rw [Int.le_floor, Int.cast_one, le_div_iff₀ (by norm_num)]
    exact_mod_cast (by omega : 1 * 10 ^ 6 ≤ n)

end ProxyControl.Duration
