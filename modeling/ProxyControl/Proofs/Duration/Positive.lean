import ProxyControl.Proofs.Duration.Reading
import ProxyControl.Proofs.Number.Order

namespace ProxyControl.Duration

open Binary64

variable {x y : Binary64} {a b p q : ℚ} {d : Duration}

/-- A float of more than half a microsecond is a multiple of this power of two. -/
theorem exists_grain (stands : Stands x q) (low : 1 / 2 < 1000000 * q) : ∃ m : ℕ, q = m * 2 ^ (-73 : ℤ) := by
  obtain ⟨k, g, rfl, _, bound⟩ := stands.lt_of_exponent
  have order : -73 ≤ g := by
    have above : (2 : ℚ) ^ (-21 : ℤ) < 2 ^ (g + 53) := by
      refine lt_trans ?_ bound
      norm_num at low ⊢
      linarith
    have order := (zpow_lt_zpow_iff_right₀ (by norm_num : (1 : ℚ) < 2)).mp above
    omega
  exact exists_multiple k order

/-- The product of a million and a float is more than a half just if this is so before it is rounded: no float is so
close to half a microsecond that the product would be rounded to a half. -/
theorem half_lt_product (stands : Stands x q) (rounds : Rounds y (1000000 * q)) (product : Stands y p) :
    1 / 2 < p ↔ 1 / 2 < 1000000 * q := by
  have half : Stands (.finite false 1 (-1)) ((1 : ℕ) * 2 ^ (-1 : ℤ)) := ⟨1, -1, rfl, by decide, by decide, rfl⟩
  have value : ((1 : ℕ) : ℚ) * 2 ^ (-1 : ℤ) = 1 / 2 := by norm_num
  rw [value] at half
  constructor
  · intro more
    exact lt_of_not_ge fun few => absurd (rounds.le_of_le product half few) (not_le.mpr more)
  · intro more
    by_cases large : 1 ≤ 1000000 * q
    · have one := (rounds_ofNat 1).exact_natural (by norm_num)
      rw [Nat.cast_one] at one
      have above := rounds.ge_of_ge product one large
      linarith
    obtain ⟨m, rfl⟩ := exists_grain stands more
    have scaled : 1000000 * ((m : ℚ) * 2 ^ (-73 : ℤ)) = (15625 * m : ℕ) / 2 ^ 67 := by
      norm_num
      ring
    rw [scaled] at rounds more large
    have fits : Fits ((15625 * m : ℕ) / 2 ^ 67) (-53) := by
      refine ⟨by decide, ?_, .inr ?_⟩
      · norm_num at large ⊢
        exact large
      · norm_num at more ⊢
        linarith
    -- The least multiple of 15625 beyond this power of two is far enough away from it.
    have far : ((2 ^ 66 + 2 ^ 13 : ℕ) : ℚ) < (15625 * m : ℕ) := by
      rw [lt_div_iff₀ (by norm_num)] at more
      have more : ((2 ^ 66 : ℕ) : ℚ) < (15625 * m : ℕ) := by
        push_cast at more ⊢
        linarith
      have more : 2 ^ 66 < 15625 * m := by exact_mod_cast more
      exact_mod_cast (by omega : 2 ^ 66 + 2 ^ 13 < 15625 * m)
    generalize ((15625 * m : ℕ) : ℚ) = n at *
    have beyond := rounds.lt_iff_of_fits (k := 2 ^ 52) product fits (by linarith) (by norm_num at more ⊢; linarith)
      (by norm_num at far ⊢; intro tie; linarith)
    norm_num at beyond far ⊢
    rw [beyond]
    linarith

/-- The span that a number of seconds makes exists, and it is empty unless the number is more than half a microsecond. -/
theorem positive_iff_of_ofSeconds (stands : Stands x q) (told : ofSeconds x = .ok d) :
    0 ≤ d.microseconds ∧ d.days ≤ dayLimit ∧ (0 < d.microseconds ↔ 1 / 2 < 1000000 * q) := by
  obtain ⟨p, part, rounds, _, shape⟩ := ofSeconds_eq_absorb stands
  obtain ⟨rfl, existing⟩ := ofMicroseconds_eq_ok (shape.symm.trans told)
  dsimp only
  have natural := stands.natural
  have whole := Int.floor_nonneg.mpr natural
  have wholePart := Int.floor_nonneg.mpr part.natural
  obtain ⟨more, _⟩ := absorb_spec (⌊q⌋ * 1000000 + ⌊p⌋) part.fraction (Int.fract_lt_one p)
  refine ⟨by omega, existing, ?_⟩
  by_cases large : 1 ≤ q
  · have one : 1 ≤ ⌊q⌋ := Int.le_floor.mpr (by exact_mod_cast large)
    exact iff_of_true (by omega) (by linarith)
  have none : ⌊q⌋ = 0 := Int.floor_eq_iff.mpr ⟨by exact_mod_cast natural, by push_cast; linarith⟩
  have same : Int.fract q = q := by rw [Int.fract, none, Int.cast_zero, sub_zero]
  rw [same] at rounds
  rw [← half_lt_product stands (by exact_mod_cast rounds) part]
  by_cases reached : 1 ≤ p
  · have one : 1 ≤ ⌊p⌋ := Int.le_floor.mpr (by exact_mod_cast reached)
    exact iff_of_true (by omega) (by linarith)
  have nothing : ⌊p⌋ = 0 := Int.floor_eq_iff.mpr ⟨by exact_mod_cast part.natural, by push_cast; linarith⟩
  have rest : Int.fract p = p := by rw [Int.fract, nothing, Int.cast_zero, sub_zero]
  rw [absorb_eq _ part.fraction, none, nothing, rest]
  split
  · rename_i up
    exact iff_of_true (by omega) (up.resolve_right (by norm_num))
  · rename_i down
    exact iff_of_false (by omega) fun more => down (.inl more)

/-- The exact number. -/
def Amount.exact (amount : Amount) : ℚ :=
  numberOf (amount.whole ++ amount.places.getD []) / 10 ^ (amount.places.getD []).length

/-- How many seconds a unit has, exactly. -/
def Measure.exact : Measure → ℚ
  | nanosecond => 1 / 10 ^ 9
  | microsecond | microsecondSign => 1 / 10 ^ 6
  | millisecond => 1 / 10 ^ 3
  | second => 1
  | minute => 60
  | hour => 3600

/-- The seconds of a part, exactly. -/
def Part.exact (part : Part) : ℚ := part.amount.exact * part.measure.exact

/-- No number is read as less than a float below it. -/
theorem Amount.le_value {amount : Amount} (stands : Stands amount.value a) (other : Stands y b)
    (some : 1 / 10 ^ 400 ≤ amount.exact) (below : b ≤ amount.exact) : b ≤ a := by
  rcases rounds_ofDecimal (numberOf (amount.whole ++ amount.places.getD [])) (amount.places.getD []).length with
    infinite | rounds | tiny
  · obtain ⟨_, _, finite, _⟩ := stands
    exact absurd (infinite.symm.trans finite) nofun
  · exact rounds.ge_of_ge stands other below
  · exact absurd some (not_le.mpr tiny)

theorem Measure.exact_pos (m : Measure) : 0 < m.exact := by
  cases m <;> norm_num [exact]

/-- Floats below the numbers with which the units make a microsecond: with the floats of the units they make more than
half of one. -/
theorem Measure.exists_bound (m : Measure) : ∃ y b, Stands y b ∧ 0 < b ∧ b * m.exact ≤ 1 / 10 ^ 6 ∧
    3 / 2 ^ 22 ≤ b * m.number := by
  have power (e : ℤ) (least : leastExponent ≤ e) : Stands (.finite false 1 e) ((1 : ℕ) * 2 ^ e) :=
    ⟨1, e, rfl, by decide, least, rfl⟩
  have whole (n : ℕ) (small : n < 2 ^ 53) : Stands (Binary64.ofNat n) n := (rounds_ofNat n).exact_natural small
  cases m with
  | nanosecond => exact ⟨_, _, whole 1000 (by decide), by norm_num, by norm_num [exact], by norm_num [number]⟩
  | microsecond => exact ⟨_, _, whole 1 (by decide), by norm_num, by norm_num [exact], by norm_num [number]⟩
  | microsecondSign => exact ⟨_, _, whole 1 (by decide), by norm_num, by norm_num [exact], by norm_num [number]⟩
  | millisecond => exact ⟨_, _, power (-10) (by decide), by norm_num, by norm_num [exact], by norm_num [number]⟩
  | second => exact ⟨_, _, power (-20) (by decide), by norm_num, by norm_num [exact], by norm_num [number]⟩
  | minute => exact ⟨_, _, power (-26) (by decide), by norm_num, by norm_num [exact], by norm_num [number]⟩
  | hour => exact ⟨_, _, power (-32) (by decide), by norm_num, by norm_num [exact], by norm_num [number]⟩

/-- A sum is finite only if its terms are, and it is no less than they are. -/
theorem terms_of_sum (first : Unsigned x) (second : Unsigned y) (sum : Stands (x + y) q) :
    ∃ a b, Stands x a ∧ Stands y b ∧ a ≤ q ∧ b ≤ q := by
  rcases first with rfl | ⟨a, first⟩
  · rcases second with rfl | ⟨_, _, _, rfl, _⟩
    · obtain ⟨_, _, finite, _⟩ := sum
      cases finite
    · obtain ⟨_, _, finite, _⟩ := sum
      cases finite
  · rcases second with rfl | ⟨b, second⟩
    · obtain ⟨_, _, rfl, _⟩ := first
      obtain ⟨_, _, finite, _⟩ := sum
      cases finite
    · have rounds := first.add second
      have left := first.natural
      have right := second.natural
      exact ⟨a, b, first, second, rounds.ge_of_ge sum first (by linarith), rounds.ge_of_ge sum second (by linarith)⟩

/-- The seconds of each part are finite and no more than those of all parts. -/
theorem le_sumFrom {sum : Binary64} {parts : List Part} (unsigned : Unsigned sum)
    (stands : Stands (sumFrom sum parts) q) : (∃ a, Stands sum a ∧ a ≤ q) ∧
      ∀ part ∈ parts, ∃ b, Stands part.seconds b ∧ b ≤ q := by
  induction parts generalizing sum with
  | nil => exact ⟨⟨q, stands, le_rfl⟩, nofun⟩
  | cons part parts ih =>
    obtain ⟨⟨c, added, below⟩, later⟩ := ih (unsigned.add (unsigned_seconds part)) stands
    obtain ⟨a, b, first, second, left, right⟩ := terms_of_sum unsigned (unsigned_seconds part) added
    refine ⟨⟨a, first, left.trans below⟩, fun other member => ?_⟩
    rcases List.mem_cons.mp member with rfl | member
    · exact ⟨b, second, right.trans below⟩
    · exact later other member

theorem Measure.exact_le (m : Measure) : m.exact ≤ 3600 := by
  cases m <;> norm_num [exact]

/-- A part of a microsecond or more is read as more than half of one. -/
theorem Part.le_seconds {part : Part} (stands : Stands part.seconds q) (long : 1 / 10 ^ 6 ≤ part.exact) :
    3 / 2 ^ 22 ≤ q := by
  obtain ⟨y, b, bound, positive, below, enough⟩ := part.measure.exists_bound
  have unit := part.measure.exact_pos
  have amount : b ≤ part.amount.exact := le_of_mul_le_mul_right (below.trans long) unit
  have large : 1 / 10 ^ 400 ≤ part.amount.exact := by
    have least : 1 / 10 ^ 10 * part.measure.exact ≤ part.amount.exact * part.measure.exact := by
      refine le_trans ?_ long
      linarith [part.measure.exact_le]
    refine le_trans ?_ (le_of_mul_le_mul_right least unit)
    exact one_div_le_one_div_of_le (by positivity) (pow_le_pow_right₀ (by norm_num) (by norm_num))
  have number := part.measure.stands_number
  obtain ⟨a, value⟩ := (unsigned_ofDecimal _ _).stands_of_mul number part.measure.number_pos stands
  have above := Amount.le_value value bound large amount
  have half : Stands (.finite false 3 (-22)) ((3 : ℕ) * 2 ^ (-22 : ℤ)) := ⟨3, -22, rfl, by decide, by decide, rfl⟩
  have reached : ((3 : ℕ) : ℚ) * 2 ^ (-22 : ℤ) ≤ a * part.measure.number := by
    calc ((3 : ℕ) : ℚ) * 2 ^ (-22 : ℤ) = 3 / 2 ^ 22 := by norm_num
      _ ≤ b * part.measure.number := enough
      _ ≤ a * part.measure.number := mul_le_mul_of_nonneg_right above part.measure.number_pos.le
  have least := (value.mul number).ge_of_ge stands half reached
  norm_num at least ⊢
  exact least

/-- With one part of a microsecond or more, the sum of the parts is more than half a microsecond. -/
theorem half_lt_sumOf {parts : List Part} {part : Part} (stands : Stands (sumOf parts) q) (member : part ∈ parts)
    (long : 1 / 10 ^ 6 ≤ part.exact) : 1 / 2 < 1000000 * q := by
  obtain ⟨b, seconds, below⟩ := (le_sumFrom (.inr ⟨0, stands_zero⟩) stands).2 part member
  have least := part.le_seconds seconds long
  norm_num at least ⊢
  linarith

end ProxyControl.Duration
