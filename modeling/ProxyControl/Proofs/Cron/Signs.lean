import ProxyControl.Cron.Grammar
import ProxyControl.Proofs.Text.Runs

namespace ProxyControl

namespace Text

variable {t : Text} {n : Nat}

theorem toNat?_eq_some (number : t.toNat? = some n) : t ≠ [] ∧ ∀ p ∈ t, p.isAsciiDigit = true := by
  unfold toNat? at number
  split at number
  · cases number
  · rename_i digits
    simpa using digits

end Text

namespace Cron

theorem exists_of_mapM {α β : Type} {f : α → Option β} {list : List α} {found : List β}
    (run : list.mapM f = some found) : ∀ a ∈ list, ∃ b, f a = some b := by
  induction list generalizing found with
  | nil => exact fun _ member => nomatch member
  | cons a list ih =>
    rw [List.mapM_cons] at run
    obtain ⟨first, here, run⟩ := Option.bind_eq_some_iff.mp run
    obtain ⟨others, rest, _⟩ := Option.bind_eq_some_iff.mp run
    exact List.forall_mem_cons.mpr ⟨⟨first, here⟩, ih rest⟩

theorem cutLast?_eq_some {separator : CodePoint} {t before after : Text}
    (found : cutLast? separator t = some (before, after)) : t = before ++ separator :: after := by
  simp only [cutLast?, Option.map_eq_some_iff, Prod.mk.injEq] at found
  obtain ⟨⟨first, second⟩, cut, rfl, rfl⟩ := found
  have shape := congrArg List.reverse (Text.cut?_eq_some cut).1
  rwa [List.reverse_reverse, List.reverse_append, List.reverse_cons, List.append_assoc, List.singleton_append] at shape

/-- A range as it is written. -/
def Span.text (span : Span) : Text :=
  span.low ++ .char '-' :: (span.high ++ span.step.elim [] (.char '/' :: ·))

theorem span?_eq_some {t : Text} {span : Span} (found : span? t = some span) :
    t = span.text ∧ ∀ digits ∈ span.step, ∀ p ∈ digits, p.isAsciiDigit = true := by
  rw [span?] at found
  split at found
  · cases found
  · rename_i low rest cut
    obtain ⟨rfl, _⟩ := Text.cut?_eq_some cut
    cases stepped : Text.cut? (.char '/') rest with
    | none =>
      simp only [stepped] at found
      split at found
      · cases found
        simp [Span.text]
      · cases found
    | some parts =>
      obtain ⟨high, step⟩ := parts
      obtain ⟨rfl, _⟩ := Text.cut?_eq_some stepped
      simp only [stepped] at found
      split at found
      · rename_i wellFormed
        cases found
        simp only [Option.all_some, Bool.and_eq_true, List.all_eq_true] at wellFormed
        refine ⟨by simp [Span.text], fun digits member => ?_⟩
        cases member
        exact wellFormed.2.2
      · cases found

theorem ordinal?_eq_some {t base : Text} (found : ordinal? t = some (some base)) :
    t = .char 'l' :: base ∨ ∃ digits n, t = base ++ .char '#' :: digits ∧ Text.toNat? digits = some n := by
  have body (found : ordinal?.ordinalBody? t = some (some base)) :
      ∃ digits n, t = base ++ .char '#' :: digits ∧ Text.toNat? digits = some n := by
    rw [ordinal?.ordinalBody?] at found
    split at found
    · cases found
    · rename_i front digits cut
      split at found
      · cases found
      · rename_i n number
        split at found
        · cases found
        · split at found
          · cases found
            exact ⟨digits, n, (Text.cut?_eq_some cut).1, number⟩
          · cases found
  unfold ordinal? at found
  split at found
  · split at found
    · cases found
      exact .inl rfl
    · exact .inr (body found)
  · exact .inr (body found)

theorem exists_of_isNearestWeekday {t : Text} (asks : isNearestWeekday t = true) :
    ∃ digits n, Text.toNat? digits = some n ∧ (t = .char 'w' :: digits ∨ t = digits ++ [.char 'w']) := by
  unfold isNearestWeekday at asks
  extract_lets digits at asks
  split at asks
  · rename_i n number
    unfold digits at number
    split at number
    · exact ⟨_, n, number, .inl rfl⟩
    · split at number
      · rename_i last
        exact ⟨_, n, number, .inr (List.dropLast_append_getLast? _ last).symm⟩
      · cases number
  · cases asks

/-- A random choice begins with its letter, and holds digits and brackets otherwise. -/
theorem randomChoice?_eq_some {t : Text} {isBounded : Bool} (found : randomChoice? t = some isBounded) :
    ∃ rest, t = .char 'r' :: rest ∧ ∀ p ∈ rest, p.isAsciiDigit = true ∨ p ∈ ("-/()" : Text) := by
  unfold randomChoice? at found
  split at found
  · rename_i rest
    refine ⟨rest, rfl, ?_⟩
    split at found
    rename_i bounds after shape
    -- The bounds, if they are read as such, are in front of the step; else nothing is.
    have front : ∃ front, rest = front ++ after ∧ ∀ p ∈ front, p.isAsciiDigit = true ∨ p ∈ ("-/()" : Text) := by
      have unbounded : (none, rest) = (bounds, after) → ∃ front, rest = front ++ after ∧
          ∀ p ∈ front, p.isAsciiDigit = true ∨ p ∈ ("-/()" : Text) := by
        intro same
        cases same
        exact ⟨[], rfl, fun _ member => nomatch member⟩
      split at shape
      · split at shape
        · split at shape
          · split at shape
            · rename_i closed _ low high cut _ _ _ _ lower upper
              cases shape
              obtain ⟨rfl, _⟩ := Text.cut?_eq_some closed
              obtain ⟨rfl, _⟩ := Text.cut?_eq_some cut
              refine ⟨.char '(' :: (low ++ .char '-' :: (high ++ [.char ')'])), by simp, ?_⟩
              simp only [List.forall_mem_cons, List.forall_mem_append]
              exact ⟨.inr (by decide), fun p member => .inl ((Text.toNat?_eq_some lower).2 p member), .inr (by decide),
                fun p member => .inl ((Text.toNat?_eq_some upper).2 p member), .inr (by decide), by simp⟩
            · exact unbounded shape
          · exact unbounded shape
        · exact unbounded shape
      · exact unbounded shape
    obtain ⟨front, rfl, marks⟩ := front
    refine List.forall_mem_append.mpr ⟨marks, ?_⟩
    dsimp only at found
    split at found
    · exact fun _ member => nomatch member
    · obtain ⟨n, number, _⟩ := Option.map_eq_some_iff.mp found
      refine List.forall_mem_cons.mpr ⟨.inr (by decide), fun p member => ?_⟩
      exact .inl ((Text.toNat?_eq_some number).2 p member)
    · cases found
  · cases found

/-- The code points that the grammar of fields has a use for. -/
def isSign (p : CodePoint) : Bool := p.isAsciiAlphanumeric || ("*,-/#?()" : Text).contains p

/-- A text of signs only. -/
def OfSigns (t : Text) : Prop := ∀ p ∈ t, isSign p = true

instance (t : Text) : Decidable (OfSigns t) := inferInstanceAs (Decidable (∀ p ∈ t, isSign p = true))

/-- White space has no use within a field. -/
theorem not_isSpace_of_isSign {p : CodePoint} (sign : isSign p = true) : Unicode.isSpace p = false := by
  rw [isSign, Bool.or_eq_true, List.contains_iff_mem] at sign
  rcases sign with word | mark
  · simp only [CodePoint.isAsciiAlphanumeric, CodePoint.isAsciiLetter, CodePoint.isAsciiUpper, CodePoint.isAsciiLower,
      CodePoint.isAsciiDigit, Bool.or_eq_true, Bool.and_eq_true, decide_eq_true_eq] at word
    rw [Bool.eq_false_iff, ne_eq]
    simp only [Unicode.isSpace, Bool.or_eq_true, Bool.and_eq_true, decide_eq_true_eq, beq_iff_eq]
    omega
  · have apart : ∀ q ∈ ("*,-/#?()" : Text), Unicode.isSpace q = false := by decide
    exact apart p mark

theorem isSpace_of_isBlank {p : CodePoint} (blank : isBlank p = true) : Unicode.isSpace p = true := by
  simp only [isBlank, Bool.or_eq_true, Bool.and_eq_true, decide_eq_true_eq, beq_iff_eq] at blank
  simp only [Unicode.isSpace, Bool.or_eq_true, Bool.and_eq_true, decide_eq_true_eq, beq_iff_eq]
  omega

theorem isSign_of_isAsciiDigit {p : CodePoint} (digit : p.isAsciiDigit = true) : isSign p = true := by
  rw [isSign, CodePoint.isAsciiAlphanumeric, digit, Bool.or_true, Bool.true_or]

theorem isSign_of_asciiLower {p : CodePoint} (sign : isSign p.asciiLower = true) : isSign p = true := by
  rw [CodePoint.asciiLower] at sign
  split at sign
  · rename_i upper
    rw [isSign, CodePoint.isAsciiAlphanumeric, CodePoint.isAsciiLetter, upper, Bool.true_or, Bool.true_or, Bool.true_or]
  · exact sign

namespace OfSigns

variable {t u : Text}

theorem append_iff : OfSigns (t ++ u) ↔ OfSigns t ∧ OfSigns u := List.forall_mem_append

theorem cons_iff {p : CodePoint} : OfSigns (p :: t) ↔ isSign p = true ∧ OfSigns t := List.forall_mem_cons

theorem of_toNat? {n : Nat} (number : t.toNat? = some n) : OfSigns t :=
  fun p member => isSign_of_isAsciiDigit ((Text.toNat?_eq_some number).2 p member)

theorem of_asciiLower (signs : OfSigns t.asciiLower) : OfSigns t :=
  fun _ member => isSign_of_asciiLower (signs _ (List.mem_map_of_mem member))

/-- A text is of signs if its pieces are. -/
theorem of_splitOn (pieces : ∀ piece ∈ Text.splitOn (.char ',') t, OfSigns piece) : OfSigns t := by
  intro p member
  rcases Text.exists_piece (.char ',') member with rfl | ⟨piece, inside, here⟩
  · decide
  · exact pieces piece inside p here

variable {field : Field}

theorem of_number? {n : Nat} (number : field.number? t = some n) : OfSigns t := by
  rw [Field.number?, Option.or_eq_some_iff] at number
  rcases number with digits | ⟨_, name⟩
  · exact of_toNat? digits
  · have names : ∀ entry ∈ field.names, OfSigns entry.1 := by
      cases field <;> decide
    obtain ⟨_, _, split, _⟩ := List.lookup_eq_some_iff.mp name
    exact names (t, n) (split ▸ List.mem_append_right _ List.mem_cons_self)

theorem of_bound? {isHigh : Bool} {n : Nat} (bound : bound? field isHigh t = some n) : OfSigns t := by
  rw [bound?] at bound
  split at bound
  · rename_i last
    rw [last.2.2]
    decide
  · obtain ⟨m, number, _⟩ := Option.map_eq_some_iff.mp bound
    exact of_number? number

theorem of_slot? {slot : Slot} (found : slot? field t = some slot) : OfSigns t := by
  rw [slot?] at found
  split at found
  · rename_i every
    rw [every]
    decide
  · split at found
    · rename_i last
      rw [last.2]
      decide
    · split at found
      · cases found
      · rename_i n number
        exact of_number? number

/-- The numbers of a range are there if its bounds are, and these are all there is to the range but for digits. -/
theorem of_span? {span : Span} {found : List Nat} (shape : span? t = some span)
    (run : numbers? field span = some found) : OfSigns t := by
  simp only [numbers?, Option.bind_eq_bind, Option.bind_eq_some_iff] at run
  obtain ⟨low, lower, high, upper, _⟩ := run
  obtain ⟨rfl, digits⟩ := span?_eq_some shape
  refine append_iff.mpr ⟨of_bound? lower, cons_iff.mpr ⟨rfl, append_iff.mpr ⟨of_bound? upper, ?_⟩⟩⟩
  cases stepped : span.step with
  | none => exact fun _ member => nomatch member
  | some step => exact cons_iff.mpr ⟨rfl, fun p member => isSign_of_isAsciiDigit (digits step stepped p member)⟩

/-- A step without a range is completed to one; what is added does not matter. -/
theorem of_spanOf? {span : Span} {found : List Nat} (shape : spanOf? field t = some span)
    (run : numbers? field span = some found) : OfSigns t := by
  rw [spanOf?] at shape
  split at shape
  · rename_i direct
    cases shape
    exact of_span? direct run
  · split at shape
    · cases shape
    · rename_i start step cut
      rw [cutLast?_eq_some cut, append_iff, cons_iff]
      split at shape
      · rename_i every
        have signs := of_span? shape run
        rw [every]
        exact ⟨by decide, rfl, (append_iff.mp signs).2⟩
      · have signs := of_span? shape run
        simp only [append_iff] at signs
        obtain ⟨⟨⟨⟨front, _⟩, _⟩, _⟩, rest⟩ := signs
        exact ⟨front, rfl, rest⟩

theorem of_slots? {slots : List Slot} (found : slots? field t = some slots) : OfSigns t := by
  rw [slots?] at found
  split at found
  · rename_i span shape
    simp only [Option.bind_eq_bind, Option.bind_eq_some_iff] at found
    obtain ⟨numbers, run, _⟩ := found
    exact of_spanOf? shape run
  · obtain ⟨slot, here, _⟩ := Option.map_eq_some_iff.mp found
    exact of_slot? here

theorem of_ordinal? {base : Text} (found : ordinal? t = some (some base)) (signs : OfSigns base) : OfSigns t := by
  rcases ordinal?_eq_some found with rfl | ⟨digits, n, rfl, number⟩
  · exact cons_iff.mpr ⟨rfl, signs⟩
  · exact append_iff.mpr ⟨signs, cons_iff.mpr ⟨rfl, of_toNat? number⟩⟩

theorem of_picks? {picks : List Pick} (found : picks? field t = some picks) : OfSigns t := by
  simp only [picks?] at found
  split at found
  · split at found
    · obtain ⟨slots, here, _⟩ := Option.map_eq_some_iff.mp found
      exact of_slots? here
    · cases found
    · rename_i base ordinal
      obtain ⟨slots, here, _⟩ := Option.map_eq_some_iff.mp found
      exact of_ordinal? ordinal (of_slots? here)
  · obtain ⟨slots, here, _⟩ := Option.map_eq_some_iff.mp found
    exact of_slots? here

theorem of_fieldPicks? {picks : List Pick} (found : fieldPicks? field t = some picks) : OfSigns t := by
  rw [fieldPicks?] at found
  split at found
  · rename_i bounded
    obtain ⟨rest, rfl, marks⟩ := randomChoice?_eq_some bounded
    refine cons_iff.mpr ⟨rfl, fun p member => ?_⟩
    have brackets : OfSigns "-/()" := by decide
    exact (marks p member).elim isSign_of_isAsciiDigit (brackets p)
  · cases found
  · split at found
    · rename_i any
      rw [any]
      decide
    · split at found
      · rename_i nearest
        obtain ⟨digits, n, number, rfl | rfl⟩ := exists_of_isNearestWeekday nearest.2
        · exact cons_iff.mpr ⟨rfl, of_toNat? number⟩
        · exact append_iff.mpr ⟨of_toNat? number, by decide⟩
      · obtain ⟨lists, each, _⟩ := Option.map_eq_some_iff.mp found
        refine of_splitOn fun entry member => ?_
        obtain ⟨picks, here⟩ := exists_of_mapM each entry member
        exact of_picks? here

end OfSigns

/-- The text of one field. -/
def Expression.text (e : Expression) : Field → Text
  | .minute => e.minute
  | .hour => e.hour
  | .day => e.day
  | .month => e.month
  | .weekday => e.weekday

theorem exists_fieldPicks?_of_isValid {e : Expression} (valid : e.isValid = true) (field : Field) :
    ∃ picks, fieldPicks? field (e.text field).asciiLower = some picks := by
  simp only [Expression.isValid, Bool.and_eq_true, Option.isSome_iff_exists] at valid
  cases field with
  | minute => exact valid.1.1.1.1.1.2
  | hour => exact valid.1.1.1.1.2.2
  | day => exact valid.1.1.1.2.2
  | month => exact valid.1.1.2.2
  | weekday => exact valid.1.2.2

/-- Separated by blanks of ASCII only, the fields of an expression are its words if they are well formed. -/
theorem words_of_isValid {t : Text} {e : Expression} (fields : Expression.ofText? t = some e)
    (valid : e.isValid = true) : Text.words t = [e.minute, e.hour, e.day, e.month, e.weekday] := by
  have split : Text.runs isBlank t = [e.minute, e.hour, e.day, e.month, e.weekday] := by
    rw [Expression.ofText?] at fields
    split at fields
    · rename_i split
      cases fields
      exact split
    · cases fields
  have signs (field : Field) : OfSigns (e.text field) := by
    obtain ⟨picks, found⟩ := exists_fieldPicks?_of_isValid valid field
    exact .of_asciiLower (.of_fieldPicks? found)
  rw [← split]
  refine Text.runs_congr fun p member => ?_
  cases blank : isBlank p with
  | true => exact isSpace_of_isBlank blank
  | false =>
    obtain ⟨run, inside, here⟩ := Text.exists_mem_runs member blank
    have sign : isSign p = true := by
      rw [split] at inside
      simp only [List.mem_cons, List.not_mem_nil, or_false] at inside
      rcases inside with rfl | rfl | rfl | rfl | rfl
      · exact signs .minute p here
      · exact signs .hour p here
      · exact signs .day p here
      · exact signs .month p here
      · exact signs .weekday p here
    exact not_isSpace_of_isSign sign

end Cron

end ProxyControl
