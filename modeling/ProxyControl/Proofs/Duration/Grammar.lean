import Mathlib.Data.List.TakeWhile
import ProxyControl.Duration
import ProxyControl.Proofs.Text.Split

namespace ProxyControl

namespace Unicode

/-- No digit of any script is white space. -/
theorem isSpace_of_isDecimal {p : CodePoint} (digit : isDecimal p = true) : isSpace p = false := by
  obtain ⟨value, valued⟩ := Option.isSome_iff_exists.mp digit
  obtain ⟨first, found, _⟩ := Option.map_eq_some_iff.mp valued
  have within := List.find?_some found
  simp only [Bool.and_eq_true, decide_eq_true_eq] at within
  have apart : ∀ first ∈ digitZeros, ∀ k < 10, isSpace (.ofNat (first + k)) = false := by decide +kernel
  have kept := apart first (List.mem_of_find?_eq_some found) (p.toNat - first) (by omega)
  rwa [Nat.add_sub_cancel' within.1, CodePoint.ofNat_toNat] at kept

end Unicode

namespace Duration

/-- Digits of any script. -/
def Digits (t : Text) : Prop := ∀ p ∈ t, Unicode.isDecimal p = true

instance (t : Text) : Decidable (Digits t) := inferInstanceAs (Decidable (∀ p ∈ t, Unicode.isDecimal p = true))

/-- The number that digits write. -/
def numberOf (digits : Text) : Nat := (digitsOf digits).foldl (fun n digit => n * 10 + digit) 0

theorem digits_append {t u : Text} : Digits (t ++ u) ↔ Digits t ∧ Digits u := List.forall_mem_append

theorem digits_takeWhile (t : Text) : Digits (t.takeWhile Unicode.isDecimal) := fun _ => List.mem_takeWhile_imp

/-- Each digit has a value. -/
theorem isEmpty_digitsOf {t : Text} (all : Digits t) : (digitsOf t).isEmpty = t.isEmpty := by
  cases t with
  | nil => rfl
  | cons p t =>
    obtain ⟨value, found⟩ := Option.isSome_iff_exists.mp (all p List.mem_cons_self)
    rw [digitsOf, List.filterMap_cons_some found]
    rfl

/-- What may follow digits so that they end there. -/
def EndsDigits (rest : Text) : Prop := ∀ p ∈ rest.head?, Unicode.isDecimal p = false

theorem endsDigits_point (t : Text) : EndsDigits (.char '.' :: t) := by
  rintro p ⟨⟩
  decide

theorem takeWhile_digits {digits rest : Text} (all : Digits digits) (ends : EndsDigits rest) :
    (digits ++ rest).takeWhile Unicode.isDecimal = digits := by
  rw [List.takeWhile_append_of_pos all]
  cases rest with
  | nil => simp
  | cons p rest => rw [List.takeWhile_cons_of_neg (by simp [ends p rfl]), List.append_nil]

theorem dropWhile_digits {digits rest : Text} (all : Digits digits) (ends : EndsDigits rest) :
    (digits ++ rest).dropWhile Unicode.isDecimal = rest := by
  rw [List.dropWhile_append_of_pos all]
  cases rest with
  | nil => rfl
  | cons p rest => rw [List.dropWhile_cons_of_neg (by simp [ends p rfl])]

/-- Every text is made of digits, which may be none, and of something that ends them. -/
theorem exists_digits (t : Text) : ∃ digits rest, t = digits ++ rest ∧ Digits digits ∧ EndsDigits rest := by
  refine ⟨_, _, List.takeWhile_append_dropWhile.symm, digits_takeWhile t, fun p first => ?_⟩
  have outside := List.head?_dropWhile_not Unicode.isDecimal t
  rw [Option.mem_def.mp first] at outside
  exact outside

/-- The double nearest to a number with the given digits before and after the point. -/
def decimal (whole places : Text) : Binary64 := .ofDecimal false (numberOf (whole ++ places)) (-(places.length : Int))

/-- What may follow a whole number so that it ends there. -/
def EndsNumber (rest : Text) : Prop := EndsDigits rest ∧ rest.head? ≠ some (.char '.')

theorem amount?_whole {whole rest : Text} (all : Digits whole) (ends : EndsNumber rest) :
    amount? (whole ++ rest) = if whole.isEmpty then none else some (decimal whole [], rest) := by
  rw [← isEmpty_digitsOf all]
  simp only [amount?, takeWhile_digits all ends.1, List.drop_left]
  split
  · exact absurd rfl ends.2
  · simp only [decimal, numberOf, digitsOf, List.append_nil, List.filterMap_nil]

theorem amount?_point {whole places rest : Text} (all : Digits whole) (more : Digits places) (ends : EndsDigits rest) :
    amount? (whole ++ .char '.' :: (places ++ rest)) =
      if (whole ++ places).isEmpty then none else some (decimal whole places, rest) := by
  rw [← isEmpty_digitsOf (digits_append.mpr ⟨all, more⟩)]
  simp only [amount?, takeWhile_digits all (endsDigits_point _), List.drop_left, takeWhile_digits more ends,
    dropWhile_digits more ends, decimal, numberOf, digitsOf, List.filterMap_append]

/-- A number as a duration has it: digits, or digits and a point that more of them may follow, or a point and at least
one digit. -/
structure Amount where
  whole : Text
  /-- What stands after the point. -/
  places : Option Text
  wholeDigits : Digits whole
  placesDigits : ∀ digits ∈ places, Digits digits
  someDigits : whole ++ places.getD [] ≠ []

namespace Amount

/-- A number without a point. -/
def natural (digits : Text) (all : Digits digits) (nonempty : digits ≠ []) : Amount where
  whole := digits
  places := none
  wholeDigits := all
  placesDigits := nofun
  someDigits := by rwa [Option.getD_none, List.append_nil]

def text (a : Amount) : Text := a.whole ++ a.places.elim [] (.char '.' :: ·)

/-- The double nearest to the number. -/
def value (a : Amount) : Binary64 := decimal a.whole (a.places.getD [])

theorem text_natural {digits : Text} (all : Digits digits) (nonempty : digits ≠ []) :
    (natural digits all nonempty).text = digits := List.append_nil digits

theorem value_natural {digits : Text} (all : Digits digits) (nonempty : digits ≠ []) :
    (natural digits all nonempty).value = .ofDecimal false (numberOf digits) 0 := by
  change Binary64.ofDecimal false (numberOf (digits ++ [])) 0 = _
  rw [List.append_nil]

/-- A number at the head of a text is read as a whole, and no further. -/
theorem amount?_text (a : Amount) {rest : Text} (ends : EndsNumber rest) :
    amount? (a.text ++ rest) = some (a.value, rest) := by
  obtain ⟨whole, places, wholeDigits, placesDigits, someDigits⟩ := a
  cases places with
  | none =>
    have some : whole.isEmpty = false := by simpa using someDigits
    simp only [text, Option.elim_none, List.append_nil, amount?_whole wholeDigits ends, some, Bool.false_eq_true,
      if_false]
    rfl
  | some digits =>
    have some : (whole ++ digits).isEmpty = false := List.isEmpty_eq_false_iff.mpr someDigits
    simp only [text, Option.elim_some, List.append_assoc, List.cons_append,
      amount?_point wholeDigits (placesDigits digits rfl) ends.1, some, Bool.false_eq_true, if_false]
    rfl

/-- A number begins with a digit or a point. -/
theorem exists_head (a : Amount) : ∃ p rest, a.text = p :: rest ∧ (Unicode.isDecimal p = true ∨ p = .char '.') := by
  obtain ⟨whole, places, wholeDigits, placesDigits, someDigits⟩ := a
  cases whole with
  | cons p whole => exact ⟨p, _, rfl, .inl (wholeDigits p List.mem_cons_self)⟩
  | nil =>
    cases places with
    | none => exact absurd rfl someDigits
    | some digits => exact ⟨_, _, rfl, .inr rfl⟩

/-- Whatever is read as a number is one. -/
theorem exists_of_amount? {t rest : Text} {x : Binary64} (read : amount? t = some (x, rest)) :
    ∃ a : Amount, t = a.text ++ rest ∧ x = a.value := by
  obtain ⟨whole, after, rfl, all, ends⟩ := exists_digits t
  by_cases point : after.head? = some (.char '.')
  · obtain ⟨after, rfl⟩ := List.head?_eq_some_iff.mp point
    obtain ⟨places, after, rfl, more, ends⟩ := exists_digits after
    rw [amount?_point all more ends] at read
    split at read
    · cases read
    · rename_i nonempty
      cases read
      refine ⟨⟨whole, some places, all, ?_, by simpa using nonempty⟩, by simp [text], rfl⟩
      rintro _ ⟨⟩
      exact more
  · rw [amount?_whole all ⟨ends, point⟩] at read
    split at read
    · cases read
    · rename_i nonempty
      cases read
      exact ⟨⟨whole, none, all, nofun, by simpa using nonempty⟩, by simp [text], rfl⟩

end Amount

/-- The units of a duration; microseconds have two names. -/
inductive Measure where
  | nanosecond
  | microsecond
  | microsecondSign
  | millisecond
  | second
  | minute
  | hour
  deriving DecidableEq, Repr

namespace Measure

def name : Measure → Text
  | nanosecond => "ns"
  | microsecond => "us"
  | microsecondSign => "µs"
  | millisecond => "ms"
  | second => "s"
  | minute => "m"
  | hour => "h"

/-- How many seconds a unit has, as a double. -/
def inSeconds : Measure → Binary64
  | nanosecond => .ofDecimal false 1 (-9)
  | microsecond | microsecondSign => .ofDecimal false 1 (-6)
  | millisecond => .ofDecimal false 1 (-3)
  | second => .ofNat 1
  | minute => .ofNat 60
  | hour => .ofNat 3600

def unit (m : Measure) : TimeUnit := ⟨m.name, m.inSeconds⟩

theorem units_eq :
    units = [nanosecond, microsecond, microsecondSign, millisecond, second, minute, hour].map unit := rfl

/-- A unit is told by letters. -/
theorem exists_letter (m : Measure) : ∃ letter others, m.name = letter :: others ∧
    Unicode.isDecimal letter = false ∧ letter ≠ .char '.' := by
  cases m <;> exact ⟨_, _, rfl, by decide, by decide⟩

theorem exists_last (m : Measure) : ∃ letter, m.name.getLast? = some letter ∧ Unicode.isSpace letter = false := by
  cases m <;> exact ⟨_, rfl, by decide⟩

/-- No number goes on with a unit. -/
theorem endsNumber_name (m : Measure) (rest : Text) : EndsNumber (m.name ++ rest) := by
  obtain ⟨letter, others, shape, noDigit, noPoint⟩ := m.exists_letter
  rw [shape]
  refine ⟨?_, by simpa using noPoint⟩
  rintro p ⟨⟩
  exact noDigit

/-- A unit at the head of a text is read as a whole, and no further: only minutes could be taken for milliseconds. -/
theorem unit?_name (m : Measure) {rest : Text} (apart : rest.head? ≠ some (.char 's')) :
    unit? (m.name ++ rest) = some (m.unit, rest) := by
  cases m with
  | minute =>
    have minutes : (name millisecond).isPrefixOf (name minute ++ rest) = false := by
      cases rest with
      | nil => rfl
      | cons p rest =>
        have other : (CodePoint.char 's' == p) = false := beq_eq_false_iff_ne.mpr fun same => apart (same ▸ rfl)
        change (true && (CodePoint.char 's' == p && true)) = false
        rw [other]
        rfl
    change Option.map _ (match (name millisecond).isPrefixOf (name minute ++ rest) with
      | true => some millisecond.unit
      | false => some minute.unit) = _
    rw [minutes]
    rfl
  | _ => rfl

/-- Whatever is read as a unit is one. -/
theorem exists_of_unit? {t rest : Text} {u : TimeUnit} (read : unit? t = some (u, rest)) :
    ∃ m : Measure, u = m.unit ∧ t = m.name ++ rest := by
  obtain ⟨_, found, same⟩ := Option.map_eq_some_iff.mp read
  cases same
  have begins := List.find?_some found
  have known := List.mem_of_find?_eq_some found
  rw [units_eq] at known
  obtain ⟨m, _, rfl⟩ := List.mem_map.mp known
  obtain ⟨after, rfl⟩ := List.isPrefixOf_iff_prefix.mp begins
  exact ⟨m, rfl, by rw [unit, List.drop_left]⟩

end Measure

/-- A number and its unit. -/
structure Part where
  amount : Amount
  measure : Measure

namespace Part

def text (part : Part) : Text := part.amount.text ++ part.measure.name

/-- The seconds of a part, as a double. -/
def seconds (part : Part) : Binary64 := part.amount.value * part.measure.inSeconds

end Part

/-- Parts one after the other. -/
def textOf (parts : List Part) : Text := parts.flatMap Part.text

/-- The seconds of parts, added to a sum from left to right. -/
def sumFrom (sum : Binary64) (parts : List Part) : Binary64 := parts.foldl (fun sum part => sum + part.seconds) sum

theorem textOf_nil : textOf [] = [] := rfl

theorem textOf_cons (part : Part) (parts : List Part) : textOf (part :: parts) = part.text ++ textOf parts :=
  List.flatMap_cons

theorem textOf_append (first second : List Part) : textOf (first ++ second) = textOf first ++ textOf second :=
  List.flatMap_append

/-- No part begins with the letter that would make minutes milliseconds. -/
theorem head_textOf (parts : List Part) : (textOf parts).head? ≠ some (.char 's') := by
  cases parts with
  | nil => simp [textOf]
  | cons part parts =>
    obtain ⟨p, rest, shape, digit | point⟩ := part.amount.exists_head
    · rw [textOf_cons, Part.text, shape]
      intro letter
      cases letter
      revert digit
      decide
    · rw [textOf_cons, Part.text, shape, point]
      simp

/-- Parts have no white space around them. -/
theorem strip_textOf (parts : List Part) : (textOf parts).strip = textOf parts := by
  refine Text.trimBy_of_ends (fun p first => ?_) fun p last => ?_
  · cases parts with
    | nil => cases first
    | cons part parts =>
      obtain ⟨q, rest, shape, digit | point⟩ := part.amount.exists_head
      · rw [textOf_cons, Part.text, shape] at first
        cases first
        exact Unicode.isSpace_of_isDecimal digit
      · rw [textOf_cons, Part.text, shape, point] at first
        cases first
        decide
  · rcases List.eq_nil_or_concat parts with rfl | ⟨before, part, rfl⟩
    · cases last
    · obtain ⟨letter, ends, visible⟩ := part.measure.exists_last
      rw [List.concat_eq_append, textOf_append, textOf_cons, textOf_nil, List.append_nil, Part.text,
        List.getLast?_append, List.getLast?_append, ends] at last
      cases last
      exact visible

/-- There are no more parts than code points. -/
theorem length_le_textOf (parts : List Part) : parts.length ≤ (textOf parts).length := by
  induction parts with
  | nil => exact Nat.zero_le _
  | cons part parts ih =>
    obtain ⟨p, rest, shape, _⟩ := part.amount.exists_head
    rw [textOf_cons, Part.text, shape]
    simp only [List.cons_append, List.length_cons, List.length_append]
    omega

variable {sum x : Binary64} {fuel : Nat}

/-- One turn of the loop reads one part. -/
theorem sumParts_part (part : Part) {rest : Text} (apart : rest.head? ≠ some (.char 's')) :
    sumParts sum (part.text ++ rest) (fuel + 1) = sumParts (sum + part.seconds) rest fuel := by
  obtain ⟨p, others, shape, _⟩ := part.amount.exists_head
  have some : (part.text ++ rest).isEmpty = false := by rw [Part.text, shape]; rfl
  rw [sumParts, some, Part.text, List.append_assoc, part.amount.amount?_text (part.measure.endsNumber_name rest)]
  simp only [Bool.false_eq_true, if_false, part.measure.unit?_name apart]
  rfl

theorem sumParts_of_enough {parts : List Part} (enough : parts.length ≤ fuel) :
    sumParts sum (textOf parts) fuel = some (sumFrom sum parts) := by
  induction parts generalizing sum fuel with
  | nil => cases fuel <;> rfl
  | cons part parts ih =>
    cases fuel with
    | zero => cases enough
    | succ fuel =>
      rw [textOf_cons, sumParts_part part (head_textOf parts), ih (Nat.le_of_succ_le_succ enough)]
      rfl

/-- The loop consumes all parts. -/
theorem sumParts_textOf (sum : Binary64) (parts : List Part) :
    sumParts sum (textOf parts) (textOf parts).length = some (sumFrom sum parts) :=
  sumParts_of_enough (length_le_textOf parts)

/-- What the loop consumes is made of parts. -/
theorem exists_parts_of_sumParts {t : Text} (read : sumParts sum t fuel = some x) :
    ∃ parts, t = textOf parts ∧ x = sumFrom sum parts := by
  induction fuel generalizing sum t with
  | zero =>
    rw [sumParts] at read
    split at read
    · rename_i empty
      cases read
      exact ⟨[], List.isEmpty_iff.mp empty, rfl⟩
    · cases read
  | succ fuel ih =>
    rw [sumParts] at read
    split at read
    · rename_i empty
      cases read
      exact ⟨[], List.isEmpty_iff.mp empty, rfl⟩
    split at read
    · cases read
    rename_i number
    split at read
    · cases read
    rename_i unit
    obtain ⟨parts, rfl, rfl⟩ := ih read
    obtain ⟨m, rfl, rfl⟩ := Measure.exists_of_unit? unit
    obtain ⟨a, rfl, rfl⟩ := Amount.exists_of_amount? number
    refine ⟨⟨a, m⟩ :: parts, ?_, rfl⟩
    rw [textOf_cons, Part.text, List.append_assoc]

end Duration

end ProxyControl
