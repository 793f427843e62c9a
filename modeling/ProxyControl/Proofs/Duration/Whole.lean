import ProxyControl.Proofs.Duration.Reading

namespace ProxyControl.Duration

open Binary64 (Stands)

/-- The units with a whole number of seconds. -/
inductive ClockUnit where
  | hour
  | minute
  | second
  deriving DecidableEq, Repr

namespace ClockUnit

def name : ClockUnit → Text
  | hour => "h"
  | minute => "m"
  | second => "s"

def seconds : ClockUnit → ℕ
  | hour => 3600
  | minute => 60
  | second => 1

def measure : ClockUnit → Measure
  | hour => .hour
  | minute => .minute
  | second => .second

theorem name_measure (u : ClockUnit) : u.measure.name = u.name := by cases u <;> rfl

theorem stands_measure (u : ClockUnit) : Stands u.measure.inSeconds u.seconds := by
  cases u with
  | hour => exact (Binary64.rounds_ofNat 3600).exact_natural (by decide)
  | minute => exact (Binary64.rounds_ofNat 60).exact_natural (by decide)
  | second => exact (Binary64.rounds_ofNat 1).exact_natural (by decide)

theorem one_le_seconds (u : ClockUnit) : 1 ≤ u.seconds := by cases u <;> decide

end ClockUnit

/-- A whole number of hours, minutes or seconds, in digits. Any number of them may be zeros in front. -/
structure WholePart where
  digits : Text
  unit : ClockUnit
  all : Digits digits
  nonempty : digits ≠ []

namespace WholePart

def text (p : WholePart) : Text := p.digits ++ p.unit.name

def seconds (p : WholePart) : ℕ := numberOf p.digits * p.unit.seconds

def toPart (p : WholePart) : Part where
  amount := .natural p.digits p.all p.nonempty
  measure := p.unit.measure

theorem text_toPart (p : WholePart) : p.toPart.text = p.text := by
  rw [Part.text, toPart, Amount.text_natural, p.unit.name_measure, text]

/-- The seconds of a whole part are exact if their mantissa fits. -/
theorem stands_seconds (p : WholePart) (fits : p.seconds < 2 ^ 53) : Stands p.toPart.seconds p.seconds := by
  have few : numberOf p.digits < 2 ^ 53 := (Nat.le_mul_of_pos_right _ p.unit.one_le_seconds).trans_lt fits
  have amount : Stands p.toPart.amount.value (numberOf p.digits) := by
    rw [toPart, Amount.value_natural]
    exact Binary64.stands_ofDecimal few
  have product := amount.mul p.unit.stands_measure
  rw [← Nat.cast_mul] at product
  exact product.exact_natural fits

end WholePart

/-- Whole parts one after the other. -/
def wholeText (parts : List WholePart) : Text := parts.flatMap WholePart.text

/-- The seconds of whole parts. -/
def secondsOf (parts : List WholePart) : ℕ := (parts.map WholePart.seconds).sum

theorem textOf_toPart (parts : List WholePart) : textOf (parts.map WholePart.toPart) = wholeText parts := by
  rw [textOf, List.flatMap_map]
  exact List.flatMap_congr fun p _ => p.text_toPart

/-- Every partial sum is a whole number whose mantissa fits. -/
theorem stands_sumFrom {sum : Binary64} {n : ℕ} (stands : Stands sum n) {parts : List WholePart}
    (fits : n + secondsOf parts < 2 ^ 53) :
    Stands (sumFrom sum (parts.map WholePart.toPart)) (n + secondsOf parts : ℕ) := by
  induction parts generalizing sum n with
  | nil => exact stands
  | cons p parts ih =>
    have total : n + secondsOf (p :: parts) = n + p.seconds + secondsOf parts := by
      rw [secondsOf, List.map_cons, List.sum_cons, Nat.add_assoc]
      rfl
    rw [total] at fits ⊢
    have step := stands.add (p.stands_seconds (by omega))
    rw [← Nat.cast_add] at step
    exact ih (step.exact_natural (by omega)) fits

theorem parse_wholeText {parts : List WholePart} (nonempty : parts ≠ []) (small : secondsOf parts < secondLimit) :
    parse (wholeText parts) = .ok ⟨secondsOf parts * 10 ^ 6⟩ := by
  have fits : 0 + secondsOf parts < 2 ^ 53 := by
    unfold secondLimit at small
    omega
  have sum := stands_sumFrom (n := 0) (by exact_mod_cast Binary64.stands_zero) fits
  rw [Nat.zero_add] at sum
  have made : (wholeText parts).strip = textOf (parts.map WholePart.toPart) := by
    rw [← textOf_toPart, strip_textOf]
  rw [parse_parts (by simpa using nonempty) made]
  exact ofSeconds_natural sum small

theorem secondsOf_append (first second : List WholePart) :
    secondsOf (first ++ second) = secondsOf first + secondsOf second := by
  simp only [secondsOf, List.map_append, List.sum_append]

theorem wholeText_append (first second : List WholePart) :
    wholeText (first ++ second) = wholeText first ++ wholeText second := List.flatMap_append

/-- Hours, minutes and seconds in whole numbers add up exactly, without any microseconds, if a span can have that many
seconds. So what stands one after the other is added, and in any order. -/
theorem parse_adds_whole {parts : List WholePart} (nonempty : parts ≠ []) (small : secondsOf parts < secondLimit) :
    (∃ d, parse (wholeText parts) = .ok d ∧ d.days * 86400 + d.seconds = secondsOf parts ∧ d.subseconds = 0) ∧
    (∀ first second, parts = first ++ second → first ≠ [] → second ≠ [] → ∃ d e,
      parse (wholeText first) = .ok d ∧ parse (wholeText second) = .ok e ∧
      parse (wholeText first ++ wholeText second) = .ok ⟨d.microseconds + e.microseconds⟩) ∧
    ∀ other, other.Perm parts → parse (wholeText other) = parse (wholeText parts) := by
  refine ⟨⟨_, parse_wholeText nonempty small, ?_, ?_⟩, ?_, fun other same => ?_⟩
  · simp only [days, seconds]
    rw [Int.fdiv_eq_ediv_of_nonneg _ (by decide), Int.fmod_eq_emod_of_nonneg _ (by decide)]
    omega
  · simp only [subseconds]
    rw [Int.fmod_eq_emod_of_nonneg _ (by decide)]
    omega
  · rintro first second rfl left right
    rw [secondsOf_append] at small
    refine ⟨_, _, parse_wholeText left (by omega), parse_wholeText right (by omega), ?_⟩
    rw [← wholeText_append, parse_wholeText nonempty (by rwa [secondsOf_append]), secondsOf_append]
    push_cast
    rw [add_mul]
  · have equal : secondsOf other = secondsOf parts := (same.map _).sum_eq
    have filled : other ≠ [] := fun empty => nonempty (by rwa [empty, List.nil_perm] at same)
    rw [parse_wholeText filled (by rwa [equal]), parse_wholeText nonempty small, equal]

/-- Two hours, thirty minutes and seven seconds, with a zero in front of the minutes. -/
def clockParts : List WholePart :=
  [⟨"2", .hour, by decide, List.cons_ne_nil _ _⟩, ⟨"030", .minute, by decide, List.cons_ne_nil _ _⟩,
    ⟨"7", .second, by decide, List.cons_ne_nil _ _⟩]

theorem parse_adds_clock : clockParts ≠ [] ∧ secondsOf clockParts < secondLimit ∧ wholeText clockParts = "2h030m7s" ∧
    (∃ d, parse "2h030m7s" = .ok d ∧ d.days * 86400 + d.seconds = 9007 ∧ d.subseconds = 0) ∧
    parse "7s2h030m" = parse "2h030m7s" := by
  have filled : clockParts ≠ [] := by decide
  have small : secondsOf clockParts < secondLimit := by decide
  have text : wholeText clockParts = "2h030m7s" := by decide
  have total : secondsOf clockParts = 9007 := by decide
  have turned : wholeText (clockParts.rotate 2) = "7s2h030m" := by decide
  obtain ⟨read, _, reordered⟩ := parse_adds_whole filled small
  have same := reordered _ (List.rotate_perm clockParts 2)
  rw [text, total] at read
  rw [turned, text] at same
  exact ⟨filled, small, text, by exact_mod_cast read, same⟩

end ProxyControl.Duration
