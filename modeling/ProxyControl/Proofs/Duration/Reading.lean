import ProxyControl.Proofs.Duration.Grammar
import ProxyControl.Proofs.Duration.Seconds
import ProxyControl.Proofs.Outcome

namespace ProxyControl.Duration

open Binary64 (Stands Unsigned)

variable {value : Text} {parts : List Part}

/-- What a duration may be: a bare zero, or parts of which there is at least one. -/
def Written (t : Text) : Prop := t = "0" ∨ ∃ parts, parts ≠ [] ∧ t = textOf parts

/-- The seconds of all parts, added up from left to right. -/
def sumOf (parts : List Part) : Binary64 := sumFrom (.zero false) parts

/-- A bare zero has no unit. -/
theorem textOf_ne_zero (parts : List Part) : textOf parts ≠ "0" := by
  intro same
  have read := sumParts_textOf (.zero false) parts
  rw [same] at read
  cases read

theorem textOf_ne_nil (some : parts ≠ []) : textOf parts ≠ [] := by
  intro empty
  have short := length_le_textOf parts
  rw [empty] at short
  exact some (List.length_eq_zero_iff.mp (Nat.le_zero.mp short))

theorem parse_zero (bare : value.strip = "0") : parse value = .ok zero := by
  simp only [parse, if_pos bare]

theorem parse_parts (some : parts ≠ []) (made : value.strip = textOf parts) : parse value = ofSeconds (sumOf parts) := by
  have nonempty : (textOf parts).isEmpty = false := List.isEmpty_eq_false_iff.mpr (textOf_ne_nil some)
  simp only [parse, made, textOf_ne_zero, nonempty, Bool.false_eq_true, if_false, sumParts_textOf]
  rfl

theorem parse_of_not_written (unwritten : ¬ Written value.strip) : parse value = .error (.refused (.duration value)) := by
  rw [Written, not_or] at unwritten
  obtain ⟨zeroless, partless⟩ := unwritten
  have unread : (if value.strip.isEmpty then none else sumParts (.zero false) value.strip value.strip.length) = none := by
    split
    · rfl
    · rename_i nonempty
      refine Option.eq_none_iff_forall_ne_some.mpr fun x read => ?_
      obtain ⟨parts, made, _⟩ := exists_parts_of_sumParts read
      refine partless ⟨parts, fun none => nonempty ?_, made⟩
      rw [made, none]
      rfl
  simp only [parse, if_neg zeroless, unread]

/-- What the float of a unit stands for. -/
def Measure.number : Measure → ℚ
  | nanosecond => (4835703278458517 : ℕ) * 2 ^ (-82 : ℤ)
  | microsecond | microsecondSign => (4722366482869645 : ℕ) * 2 ^ (-72 : ℤ)
  | millisecond => (4611686018427388 : ℕ) * 2 ^ (-62 : ℤ)
  | second => (1 : ℕ)
  | minute => (60 : ℕ)
  | hour => (3600 : ℕ)

theorem Measure.stands_number (m : Measure) : Stands m.inSeconds m.number := by
  have below (k : ℕ) (e : ℤ) (shape : m.inSeconds = .finite false k e) (fits : k < 2 ^ 53)
      (least : Binary64.leastExponent ≤ e) : Stands m.inSeconds (k * 2 ^ e) := ⟨k, e, shape, fits, least, rfl⟩
  cases m with
  | nanosecond => exact below 4835703278458517 (-82) (by decide) (by decide) (by decide)
  | microsecond => exact below 4722366482869645 (-72) (by decide) (by decide) (by decide)
  | microsecondSign => exact below 4722366482869645 (-72) (by decide) (by decide) (by decide)
  | millisecond => exact below 4611686018427388 (-62) (by decide) (by decide) (by decide)
  | second => exact (Binary64.rounds_ofNat 1).exact_natural (by decide)
  | minute => exact (Binary64.rounds_ofNat 60).exact_natural (by decide)
  | hour => exact (Binary64.rounds_ofNat 3600).exact_natural (by decide)

theorem Measure.number_pos (m : Measure) : 0 < m.number := by
  cases m <;> norm_num [number]

theorem unsigned_seconds (part : Part) : Unsigned part.seconds := by
  exact (Binary64.unsigned_ofDecimal _ _).mul part.measure.stands_number part.measure.number_pos

/-- No sum is negative or undefined. -/
theorem unsigned_sumFrom {sum : Binary64} (unsigned : Unsigned sum) (parts : List Part) :
    Unsigned (sumFrom sum parts) := by
  induction parts generalizing sum with
  | nil => exact unsigned
  | cons part parts ih => exact ih (unsigned.add (unsigned_seconds part))

theorem unsigned_sumOf (parts : List Part) : Unsigned (sumOf parts) :=
  unsigned_sumFrom (.inr ⟨0, Binary64.stands_zero⟩) parts

/-- A text of parts whose sum is more than a span can have. -/
def Excessive (value : Text) : Prop :=
  ∃ parts, parts ≠ [] ∧ value.strip = textOf parts ∧ ¬ Representable (sumOf parts)

theorem parse_of_excessive (excessive : Excessive value) : ∃ message, parse value = .error (.fault .overflow message) := by
  obtain ⟨parts, some, made, large⟩ := excessive
  rw [parse_parts some made]
  exact ofSeconds_of_not_representable (unsigned_sumOf parts) large

/-- What is written as a duration is read, unless it is too large. -/
theorem parse_ok_iff : (∃ d, parse value = .ok d) ↔ Written value.strip ∧ ¬ Excessive value := by
  constructor
  · rintro ⟨d, read⟩
    refine ⟨Classical.byContradiction fun unwritten => ?_, fun excessive => ?_⟩
    · rw [parse_of_not_written unwritten] at read
      cases read
    · obtain ⟨message, fails⟩ := parse_of_excessive excessive
      rw [fails] at read
      cases read
  · rintro ⟨bare | ⟨parts, some, made⟩, moderate⟩
    · exact ⟨zero, parse_zero bare⟩
    · rw [parse_parts some made, ofSeconds_ok_iff (unsigned_sumOf parts)]
      exact Classical.byContradiction fun large => moderate ⟨parts, some, made, large⟩

/-- Just what is not written as a duration is refused. -/
theorem parse_refused_iff : parse value = .error (.refused (.duration value)) ↔ ¬ Written value.strip := by
  refine ⟨fun refused written => ?_, parse_of_not_written⟩
  by_cases excessive : Excessive value
  · obtain ⟨message, fails⟩ := parse_of_excessive excessive
    rw [fails] at refused
    cases refused
  · obtain ⟨d, read⟩ := parse_ok_iff.mpr ⟨written, excessive⟩
    rw [read] at refused
    cases refused

/-- Just the texts that are written as durations are read: the others are refused, and the loop consumes all parts of
these. The sum of the parts is the duration, to less than a microsecond, if a span can have that many seconds. -/
theorem parse_reads_written (value : Text) :
    (parse value = .error (.refused (.duration value)) ↔ ¬ Written value.strip) ∧
    (value.strip = "0" → parse value = .ok zero) ∧
    ∀ parts, parts ≠ [] → value.strip = textOf parts →
      sumParts (.zero false) value.strip value.strip.length = some (sumOf parts) ∧
      parse value = ofSeconds (sumOf parts) ∧
      ∀ q, Stands (sumOf parts) q → q < secondLimit →
        ∃ d, parse value = .ok d ∧ |(d.microseconds : ℚ) - q * 10 ^ 6| < 1 := by
  refine ⟨parse_refused_iff, parse_zero, fun parts some made => ⟨?_, parse_parts some made, fun q stands small => ?_⟩⟩
  · rw [made]
    exact sumParts_textOf (.zero false) parts
  · rw [parse_parts some made]
    exact ofSeconds_of_lt stands small

/-- Three hours, one and a half minutes, and a quarter of a second. -/
def mixedParts : List Part :=
  [⟨.natural "٣" (by decide) (by decide), .hour⟩, ⟨⟨"1", some "5", by decide, by decide, by decide⟩, .minute⟩,
    ⟨⟨"", some "25", by decide, by decide, by decide⟩, .second⟩]

theorem parse_reads_mixed : Text.strip " ٣h1.5m.25s\n" = textOf mixedParts ∧
    sumParts (.zero false) "٣h1.5m.25s" 10 = some (sumOf mixedParts) ∧
    parse " ٣h1.5m.25s\n" = .ok ⟨10890250000⟩ := by
  have made : Text.strip " ٣h1.5m.25s\n" = textOf mixedParts := by decide
  obtain ⟨consumed, read, _⟩ := (parse_reads_written " ٣h1.5m.25s\n").2.2 mixedParts (by decide) made
  have told : (ofSeconds (sumOf mixedParts)).toOption = some ⟨10890250000⟩ := by decide +kernel
  exact ⟨made, consumed, read.trans (toOption_eq_some.mp told)⟩

end ProxyControl.Duration
