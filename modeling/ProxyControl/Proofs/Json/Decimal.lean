import Mathlib.Data.List.DropRight
import ProxyControl.Proofs.Json.Numeral

namespace ProxyControl.Json

/-- Digits of which there is at least one. -/
def SomeDigits (t : Text) : Prop := Digits t ∧ t ≠ []

/-- A number with a fraction or an exponent, as it is written. -/
structure Decimal where
  negative : Bool
  whole : Text
  /-- The digits after the point. -/
  fraction : Option Text
  /-- Whether the exponent is below zero, and its digits. -/
  exponent : Option (Bool × Text)
  someWhole : SomeDigits whole
  /-- A leading zero stands alone. -/
  plain : whole.head? = some (.char '0') → whole = [.char '0']
  someFraction : ∀ digits ∈ fraction, SomeDigits digits
  someExponent : ∀ power ∈ exponent, SomeDigits power.2
  broken : fraction ≠ none ∨ exponent ≠ none

namespace Decimal

variable {rest : Text}

def pointText (d : Decimal) : Text := d.fraction.elim [] fun digits => .char '.' :: digits

def powerText (d : Decimal) : Text :=
  d.exponent.elim [] fun (below, digits) => .char 'e' :: .char (if below then '-' else '+') :: digits

def text (d : Decimal) : Text := signText d.negative ++ (d.whole ++ (d.pointText ++ d.powerText))

def power (d : Decimal) : Int :=
  d.exponent.elim 0 fun (below, digits) => if below then -(digitsValue digits : Int) else digitsValue digits

/-- The double that a decimal is read as. -/
def value (d : Decimal) : Binary64 :=
  let places := d.fraction.getD []
  .ofDecimal d.negative (digitsValue (d.whole ++ places)) (d.power - places.length)

/-- Neither a digit nor a point follows the digits before an exponent. -/
theorem ends_powerText (d : Decimal) (ends : EndsNumber rest) :
    EndsDigits (d.powerText ++ rest) ∧ (d.powerText ++ rest).head? ≠ some (.char '.') := by
  rw [powerText]
  cases d.exponent with
  | none => exact ⟨ends.digits, fun point => (ends _ point).2.1 rfl⟩
  | some power =>
    refine ⟨?_, by simp⟩
    rintro p ⟨⟩
    decide

theorem ends_pointText (d : Decimal) (ends : EndsNumber rest) :
    EndsDigits (d.pointText ++ (d.powerText ++ rest)) := by
  rw [pointText]
  cases d.fraction with
  | none => exact (d.ends_powerText ends).1
  | some digits =>
    rintro p ⟨⟩
    decide

theorem fractionPart?_pointText (d : Decimal) (ends : EndsNumber rest) :
    fractionPart? (d.pointText ++ (d.powerText ++ rest)) = d.fraction := by
  obtain ⟨noDigit, noPoint⟩ := d.ends_powerText ends
  rw [pointText]
  cases shape : d.fraction with
  | none =>
    rw [Option.elim_none, List.nil_append]
    unfold fractionPart?
    split
    · rename_i point
      rw [point] at noPoint
      exact absurd rfl noPoint
    · rfl
  | some digits =>
    obtain ⟨all, nonempty⟩ := d.someFraction digits shape
    have present : digits.isEmpty = false := by simpa using nonempty
    rw [Option.elim_some, List.cons_append]
    simp only [fractionPart?, takeWhile_digits all noDigit, present, Bool.false_eq_true, if_false]

theorem exponentPart?_powerText (d : Decimal) (ends : EndsNumber rest) :
    exponentPart? (d.powerText ++ rest) = d.exponent.map fun (below, digits) => (below, digits, 2 + digits.length) := by
  rw [powerText]
  cases shape : d.exponent with
  | none => exact exponentPart?_eq_none ends
  | some power =>
    obtain ⟨below, digits⟩ := power
    obtain ⟨all, nonempty⟩ := d.someExponent _ shape
    have present : digits.isEmpty = false := by simpa using nonempty
    cases below <;>
      simp only [Option.elim_some, List.cons_append, exponentPart?, true_or, if_true, Bool.false_eq_true, if_false,
        takeWhile_digits all ends.digits, present, Option.map_some]

theorem length_pointText (d : Decimal) : d.pointText.length = d.fraction.elim 0 (·.length + 1) := by
  rw [pointText]
  cases d.fraction <;> rfl

theorem length_powerText (d : Decimal) : d.powerText.length = d.exponent.elim 0 (2 + ·.2.length) := by
  rw [powerText]
  cases d.exponent with
  | none => rfl
  | some power => simp only [Option.elim_some, List.length_cons, Nat.add_comm 2]

/-- A decimal is read as its double. -/
theorem number_text {place : Place} (d : Decimal) (start : place.rest = d.text ++ rest) (ends : EndsNumber rest) :
    number place = .ok (.float d.value, place.skip d.text.length) := by
  have present : d.whole.isEmpty = false := by simpa using d.someWhole.2
  have shape : place.rest = signText d.negative ++ (d.whole ++ (d.pointText ++ (d.powerText ++ rest))) := by
    rw [start, text]
    simp only [List.append_assoc]
  have notWhole : ¬(d.fraction.isNone = true ∧
      (d.exponent.map fun (below, digits) => (below, digits, 2 + digits.length)).isNone = true) := by
    simpa [imp_iff_not_or] using d.broken
  have length : d.text.length = (if d.negative = true then 1 else 0) + d.whole.length + d.pointText.length +
      d.exponent.elim 0 (2 + ·.2.length) := by
    rw [text, List.length_append, List.length_append, List.length_append, length_signText, d.length_powerText]
    simp only [Nat.add_assoc]
  simp only [number, shape, head_signed d.negative d.someWhole.1 d.someWhole.2, drop_signed,
    wholePart_digits d.someWhole.1 d.someWhole.2 d.plain (d.ends_pointText ends), present, List.drop_left,
    d.fractionPart?_pointText ends, ← d.length_pointText, d.exponentPart?_powerText ends, Bool.false_eq_true,
    if_false, if_neg notWhole, Option.elim_map]
  rw [length]
  rfl

theorem numeric_text (d : Decimal) : Numeric d.text := numeric_signed d.negative d.someWhole.1 d.someWhole.2 _

end Decimal

end Json

namespace Binary64

open Json

theorem digits_zeros (n : Nat) : Digits (zeros n) := by
  intro p member
  rw [List.eq_of_mem_replicate member]
  decide

theorem someDigits_zero : SomeDigits "0" := ⟨digits_zeros 1, by decide⟩

/-- Digits without zeros at the end are a beginning of the digits. They are gone only if all were zeros. -/
theorem dropTrailingZeros_spec (digits : Text) : dropTrailingZeros digits <+: digits ∧
    (dropTrailingZeros digits = [] ↔ ∀ p ∈ digits, p = .char '0') := by
  have shape : dropTrailingZeros digits = digits.rdropWhile (· == .char '0') := rfl
  rw [shape]
  refine ⟨List.rdropWhile_prefix _ digits, ?_⟩
  rw [List.rdropWhile_eq_nil_iff]
  simp only [beq_iff_eq]

variable {negative : Bool} {digits : Text} {point : Int}

/-- A fraction below one. -/
theorem exists_decimal_below (negative : Bool) (places : Nat) (all : Digits digits) (nonempty : digits ≠ []) :
    ∃ d : Decimal, d.text = signText negative ++ ("0." ++ zeros places ++ digits) := by
  refine ⟨⟨negative, "0", some (zeros places ++ digits), none, someDigits_zero, fun _ => rfl, ?_, by simp,
    .inl (by simp)⟩, ?_⟩
  · rintro _ ⟨⟩
    exact ⟨digits_append.mpr ⟨digits_zeros places, all⟩, by simp [nonempty]⟩
  · simp only [Decimal.text, Decimal.pointText, Decimal.powerText, Option.elim_some, Option.elim_none, List.append_nil]
    rfl

/-- A number with the point among its digits, or behind them and as many zeros. -/
theorem exists_decimal_among (negative : Bool) {places : Nat} (positive : 0 < places) (all : Digits digits)
    (plain : digits.head? ≠ some (.char '0')) (single : digits = [] → places = 1) :
    ∃ d : Decimal, d.text = signText negative ++
      (digits.take places ++ zeros (places - (digits.take places).length) ++ "." ++
        (if (digits.drop places).isEmpty then ("0" : Text) else digits.drop places)) := by
  have within {part : Text} (member : ∀ p ∈ part, p ∈ digits) : Digits part := fun p inside => all p (member p inside)
  refine ⟨⟨negative, digits.take places ++ zeros (places - (digits.take places).length),
    some (if (digits.drop places).isEmpty then "0" else digits.drop places), none, ⟨?_, ?_⟩, ?_, ?_, by simp,
    .inl (by simp)⟩, ?_⟩
  · exact digits_append.mpr ⟨within fun p => List.mem_of_mem_take, digits_zeros _⟩
  · intro empty
    have length := congrArg List.length empty
    rw [List.length_append, zeros, List.length_replicate, List.length_nil] at length
    omega
  · intro zero
    cases digits with
    | nil =>
      rw [single rfl]
      rfl
    | cons first others =>
      obtain ⟨less, rfl⟩ : ∃ less, places = less + 1 := ⟨places - 1, by omega⟩
      exact absurd zero plain
  · rintro _ ⟨⟩
    split
    · exact someDigits_zero
    · rename_i more
      exact ⟨within fun p => List.mem_of_mem_drop, by simpa using more⟩
  · simp only [Decimal.text, Decimal.pointText, Decimal.powerText, Option.elim_some, Option.elim_none, List.append_nil,
      List.append_assoc]
    rfl

/-- A number with an exponent. -/
theorem exists_decimal_scaled (negative below : Bool) {first : CodePoint} {others power : Text}
    (all : Digits (first :: others)) (plain : first ≠ .char '0') (powers : SomeDigits power) :
    ∃ d : Decimal, d.text = signText negative ++
      ((first :: (if others = [] then [] else .char '.' :: others)) ++ (if below then "e-" else "e+") ++ power) := by
  have digit : SomeDigits [first] := ⟨fun p member => all p (by simp_all), by simp⟩
  refine ⟨⟨negative, [first], if others = [] then none else some others, some (below, power), digit, ?_, ?_, ?_,
    .inr (by simp)⟩, ?_⟩
  · intro zero
    exact absurd (Option.some.inj zero) plain
  · intro places more
    split at more
    · cases more
    · rename_i nonempty
      cases more
      exact ⟨fun p member => all p (List.mem_cons_of_mem _ member), nonempty⟩
  · rintro _ ⟨⟩
    exact powers
  · simp only [Decimal.text, Decimal.pointText, Decimal.powerText]
    cases others with
    | nil => cases below <;> simp <;> rfl
    | cons second rest => cases below <;> simp <;> rfl

/-- What is laid out is a decimal: its digits have no zero in front, and are none only where the point stands behind
the first digit. -/
theorem exists_decimal_layOut (negative : Bool) (all : Digits digits) (plain : digits.head? ≠ some (.char '0'))
    (single : digits = [] → point = 1) : ∃ d : Decimal, d.text = signText negative ++ layOut digits point := by
  unfold layOut
  split
  · split
    · rename_i low
      exact exists_decimal_below negative _ all fun empty => absurd (single empty) (by omega)
    · rename_i high
      exact exists_decimal_among negative (by omega) all plain fun empty => by rw [single empty]; rfl
  · rename_i far
    cases digits with
    | nil => exact absurd (single rfl) (by omega)
    | cons first others =>
      have powers : SomeDigits (if (Text.ofNat (point - 1).natAbs).length < 2 then
          zeros (2 - (Text.ofNat (point - 1).natAbs).length) ++ Text.ofNat (point - 1).natAbs
          else Text.ofNat (point - 1).natAbs) := by
        split
        · exact ⟨digits_append.mpr ⟨digits_zeros _, digits_ofNat _⟩, by simp [Text.ofNat_ne_nil]⟩
        · exact ⟨digits_ofNat _, Text.ofNat_ne_nil _⟩
      obtain ⟨d, shape⟩ := exists_decimal_scaled negative (decide (point - 1 < 0)) all (by simpa using plain) powers
      refine ⟨d, ?_⟩
      rw [shape]
      cases others <;> simp

/-- Only zero reads back from no digits. -/
theorem decimalOf?_ne_zero {value : Binary64} {numerator denominator length found : Nat} (other : value ≠ zero false)
    (chosen : decimalOf? value numerator denominator point length = some found) : found ≠ 0 := by
  have readsBack {digits : Nat} {power : Int} (back : (ofDecimal false digits power == value) = true) : digits ≠ 0 := by
    rintro rfl
    have nothing : ofDecimal false 0 power = zero false := by simp [ofDecimal]
    exact other ((beq_iff_eq.mp back).symm.trans nothing)
  have either {closer farther : Nat} {power : Int}
      (chosen : (if ofDecimal false closer power == value then some closer
        else if ofDecimal false farther power == value then some farther else none) = some found) : found ≠ 0 := by
    split at chosen
    · rename_i back
      exact Option.some.inj chosen ▸ readsBack back
    split at chosen
    · rename_i back
      exact Option.some.inj chosen ▸ readsBack back
    · cases chosen
  exact either chosen

theorem shortestFrom_ne_zero {value : Binary64} (numerator denominator length fuel : Nat) (other : value ≠ zero false) :
    shortestFrom value numerator denominator point length fuel = (0, 0) ∨
      (shortestFrom value numerator denominator point length fuel).1 ≠ 0 := by
  induction fuel generalizing length with
  | zero => exact .inl rfl
  | succ fuel ih =>
    rw [shortestFrom]
    split
    · rename_i found
      exact .inr (decimalOf?_ne_zero other found)
    · exact ih (length + 1)

/-- The digits of a number can be laid out without the zeros at their end. -/
theorem exists_decimal_shortened (negative : Bool) {found : Nat} (single : found = 0 → point = 1) :
    ∃ d : Decimal, d.text = signText negative ++ layOut (dropTrailingZeros (Text.ofNat found)) point := by
  obtain ⟨⟨dropped, front⟩, nothing⟩ := dropTrailingZeros_spec (Text.ofNat found)
  by_cases zero : found = 0
  · exact exists_decimal_layOut negative (by rw [zero]; decide) (by rw [zero]; decide) fun _ => single zero
  have plain : (Text.ofNat found).head? ≠ some (.char '0') := fun leads => zero (Text.eq_zero_of_head_ofNat leads)
  have nonempty : dropTrailingZeros (Text.ofNat found) ≠ [] := by
    intro empty
    obtain ⟨first, others, shape⟩ := List.exists_cons_of_ne_nil (Text.ofNat_ne_nil found)
    rw [shape, nothing.mp empty first (shape ▸ List.mem_cons_self)] at plain
    exact plain rfl
  have digits := digits_ofNat found
  rw [← front] at digits plain
  refine exists_decimal_layOut negative (digits_append.mp digits).1 ?_ fun empty => absurd empty nonempty
  rwa [List.head?_append_of_ne_nil _ nonempty] at plain

/-- The text of a finite number is a decimal. -/
theorem exists_decimal_toText (negative : Bool) (mantissa : Nat) (exponent : Int) :
    ∃ d : Decimal, d.text = (finite negative mantissa exponent).toText := by
  have sign : (if negative then ("-" : Text) else "") = signText negative := by cases negative <;> rfl
  rw [toText]
  simp only [sign]
  split
  · exact exists_decimal_below negative 0 (digits_zeros 1) (by decide)
  · rename_i positive
    have other : finite false mantissa exponent ≠ zero false := fun same => positive (Binary64.finite.inj same).2.1
    refine exists_decimal_shortened negative fun nothing => ?_
    rcases shortestFrom_ne_zero _ _ 1 17 other with none | some
    · rw [none]
      rfl
    · exact absurd nothing some

end Binary64

end ProxyControl
