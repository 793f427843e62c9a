import ProxyControl.Proofs.Duration.Ceiling
import ProxyControl.Proofs.Duration.Positive
import ProxyControl.Proofs.LogQuery

namespace ProxyControl

open Duration
open LogArgs (Tells tells_since)

variable {d : Duration}

/-- A span that is not empty is told. -/
theorem LogArgs.tells_natural_since {args : LogArgs} {k : ℕ} (given : args.since = some ⟨k⟩) (value : Text) :
    Tells args.query "since" value ↔ 0 < k ∧ value = Text.ofInt (⟨k⟩ : Duration).ceilingSeconds := by
  rw [tells_since]
  constructor
  · rintro ⟨_, same, nonempty, told⟩
    cases given.symm.trans same
    refine ⟨Nat.pos_of_ne_zero fun none => nonempty ?_, told⟩
    rw [none]
    rfl
  · rintro ⟨some, told⟩
    refine ⟨⟨k⟩, given, fun none => ?_, told⟩
    cases none
    exact some.ne rfl

/-- The seconds of a span that exists are told, rounded up if the span is discerned, and down otherwise. -/
theorem LogArgs.since_rounded_up_iff {args : LogArgs} (given : args.since = some d) (positive : 0 < d.microseconds)
    (existing : d.days ≤ dayLimit) (printable : ∀ n ∈ args.lines, Json.Printable (n : Nat)) :
    ∃ query, args.parameters = .ok query ∧ ∃ n : ℤ,
      (∀ value, Tells query "since" value ↔ value = Text.ofInt n) ∧
      (n = ⌈(d.microseconds : ℚ) / 10 ^ 6⌉ ↔ d.Discerned) ∧
      (¬ d.Discerned → n = ⌊(d.microseconds : ℚ) / 10 ^ 6⌋) ∧
      (d.microseconds < 2 ^ 34 * 10 ^ 6 → d.Discerned) := by
  refine ⟨args.query, LogArgs.parameters_eq_ok.mpr ⟨printable, rfl⟩, ?_⟩
  have small := lt_of_days_le existing
  obtain ⟨microseconds⟩ := d
  dsimp only at positive small
  obtain ⟨k, rfl⟩ := Int.eq_ofNat_of_zero_le positive.le
  have some : 0 < k := by omega
  have small : k < secondLimit * 10 ^ 6 := by exact_mod_cast small
  have rounded := ceilingSeconds_eq some small
  refine ⟨(⟨k⟩ : Duration).ceilingSeconds, fun value => ?_, ?_, fun lost => ?_, fun few => ?_⟩
  · rw [LogArgs.tells_natural_since given]
    exact and_iff_right some
  · dsimp only
    rw [rounded, Int.cast_natCast]
    split
    · rename_i discerned
      exact iff_of_true rfl discerned
    · rename_i lost
      exact iff_of_false (floor_ne_ceil lost) lost
  · rw [rounded, if_neg lost, Int.cast_natCast]
  · have few : (k : ℤ) < 2 ^ 34 * 10 ^ 6 := few
    exact discerned_of_small (by exact_mod_cast few)

/-- More than five hundred years, and two microseconds. -/
theorem LogArgs.since_rounded_up_for_ages : ∃ query,
    ({ target := "my-instance", since := some ⟨17179869184000002⟩ } : LogArgs).parameters = .ok query ∧
      Tells query "since" "17179869185" := by
  have given : ({ target := "my-instance", since := some ⟨17179869184000002⟩ } : LogArgs).since =
    some ⟨17179869184000002⟩ := rfl
  obtain ⟨query, made, n, told, up, _, _⟩ := LogArgs.since_rounded_up_iff given (by decide) (by decide) nofun
  have rounded : n = 17179869185 := by
    rw [up.mpr (by decide), Int.ceil_eq_iff]
    norm_num
  refine ⟨query, made, ?_⟩
  rw [told, rounded]
  rfl

/-- One microsecond less is lost. -/
theorem LogArgs.since_rounded_down_for_ages : ∃ query,
    ({ target := "my-instance", since := some ⟨17179869184000001⟩ } : LogArgs).parameters = .ok query ∧
      ¬ Tells query "since" (Text.ofInt ⌈((17179869184000001 : ℤ) : ℚ) / 10 ^ 6⌉) := by
  refine ⟨_, LogArgs.parameters_eq_ok.mpr ⟨nofun, rfl⟩, ?_⟩
  have rounded : ⌈((17179869184000001 : ℤ) : ℚ) / 10 ^ 6⌉ = 17179869185 := by
    rw [Int.ceil_eq_iff]
    norm_num
  have told : Text.ofInt 17179869185 = "17179869185" := rfl
  rw [rounded, told]
  unfold Tells
  decide +kernel

namespace LogFlags

variable {flags : LogFlags} {args : LogArgs} {since : Text} {parts : List Part} {q : ℚ}

/-- The span of an accepted log command is read from its text. -/
theorem since_of_args (accepted : flags.args = .ok args) (given : flags.since = some since) (nonempty : since ≠ []) :
    ∃ d, args.since = some d ∧ Duration.parse since = .ok d := by
  obtain ⟨_, _, _, _, read, rfl⟩ := args_eq_ok.mp accepted
  rw [Text.present_eq_some.mpr ⟨given, nonempty⟩, Option.mapM_some] at read
  obtain ⟨d, parsed, told⟩ := map_eq_ok.mp read
  exact ⟨d, told.symm, parsed⟩

/-- A log command with a span made of parts tells the API of it just if the parts add up to more than half a microsecond:
they do if one of them is a microsecond or more. -/
theorem since_kept_iff (accepted : flags.args = .ok args) (given : flags.since = some since) (some : parts ≠ [])
    (made : since.strip = textOf parts) (printable : ∀ n ∈ flags.lines, Json.Printable n) :
    ∃ query, args.parameters = .ok query ∧ ∃ q, Binary64.Stands (sumOf parts) q ∧
      ((∃ n : ℕ, 1 ≤ n ∧ Tells query "since" (Text.ofNat n)) ↔ 1 / 2 < 1000000 * q) ∧
      (¬ 1 / 2 < 1000000 * q → ∀ value, ¬ Tells query "since" value) ∧
      ∀ part ∈ parts, 1 / 10 ^ 6 ≤ part.exact → 1 / 2 < 1000000 * q := by
  refine ⟨args.query, LogArgs.parameters_eq_ok.mpr ⟨(printable_lines_iff accepted).mpr printable, rfl⟩, ?_⟩
  have nonempty : since ≠ [] := by
    rintro rfl
    exact textOf_ne_nil some made.symm
  obtain ⟨d, sent, parsed⟩ := since_of_args accepted given nonempty
  rw [parse_parts some made] at parsed
  obtain ⟨q, stands, _⟩ := (ofSeconds_ok_iff (unsigned_sumOf parts)).mp ⟨d, parsed⟩
  obtain ⟨natural, existing, positive⟩ := positive_iff_of_ofSeconds stands parsed
  have small := lt_of_days_le existing
  obtain ⟨microseconds⟩ := d
  dsimp only at natural small positive
  obtain ⟨k, rfl⟩ := Int.eq_ofNat_of_zero_le natural
  have told := LogArgs.tells_natural_since sent
  have whole : 0 < k ↔ 1 / 2 < 1000000 * q := by
    rw [← positive]
    omega
  refine ⟨q, stands, ?_⟩
  rw [← whole]
  refine ⟨⟨?_, fun more => ?_⟩, fun few value kept => few ((told value).mp kept).1, fun part member long => ?_⟩
  · rintro ⟨n, _, kept⟩
    exact ((told _).mp kept).1
  · have small : k < secondLimit * 10 ^ 6 := by exact_mod_cast small
    have one := one_le_ceilingSeconds more small
    obtain ⟨n, seconds⟩ := Int.eq_ofNat_of_zero_le (show 0 ≤ (⟨k⟩ : Duration).ceilingSeconds by omega)
    refine ⟨n, by omega, (told _).mpr ⟨more, ?_⟩⟩
    rw [seconds]
    rfl
  · exact whole.mpr (half_lt_sumOf stands member long)

/-- A log command that asks for what is no older than a text says. -/
def recent (since : Text) : LogFlags := { target := some "my-instance", since := some since }

def halfSecond : Part := ⟨.natural "500" (by decide) (by decide), .millisecond⟩

theorem recent_halfSecond_kept : ∃ args query, (recent "500ms").args = .ok args ∧ args.parameters = .ok query ∧
    ∃ n : ℕ, 1 ≤ n ∧ Tells query "since" (Text.ofNat n) := by
  have accepted : (recent "500ms").args = .ok { target := "my-instance", since := some ⟨500000⟩ } :=
    toOption_eq_some.mp (by decide +kernel)
  have made : Text.strip "500ms" = textOf [halfSecond] := by decide
  obtain ⟨query, sent, q, _, kept, _, long⟩ :=
    since_kept_iff accepted rfl (List.cons_ne_nil halfSecond []) made nofun
  have exact : halfSecond.exact = 500 / 1 * (1 / 10 ^ 3) := rfl
  refine ⟨_, query, accepted, sent, kept.mpr (long halfSecond (List.mem_singleton_self _) ?_)⟩
  rw [exact]
  norm_num

theorem digits_one : Digits "1" := by decide

def oneNanosecond : Part := ⟨.natural "1" digits_one (by decide), .nanosecond⟩

/-- A span that is not zero, and not told. -/
theorem recent_nanosecond_dropped : Text.strip "1ns" = textOf [oneNanosecond] ∧ 0 < oneNanosecond.exact ∧
    ∃ args query, (recent "1ns").args = .ok args ∧ args.parameters = .ok query ∧
      ∀ n : ℕ, ¬ Tells query "since" (Text.ofNat n) := by
  have accepted : (recent "1ns").args = .ok { target := "my-instance", since := some .zero } :=
    toOption_eq_some.mp (by decide +kernel)
  have exact : oneNanosecond.exact = 1 / 1 * (1 / 10 ^ 9) := rfl
  refine ⟨by decide, by rw [exact]; norm_num, _, _, accepted, LogArgs.parameters_eq_ok.mpr ⟨nofun, rfl⟩,
    fun n told => ?_⟩
  obtain ⟨_, same, nonempty, _⟩ := tells_since.mp told
  exact nonempty (Option.some.inj same).symm

end LogFlags

end ProxyControl
