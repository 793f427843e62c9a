import ProxyControl.Proofs.Terminal

namespace ProxyControl

open Unicode (cellLengthFrom cellWidth inRanges widenedRanges)
open Terminal (spaces)

namespace Text

/-- A joiner swallows the next code point, unless it is swallowed itself. -/
def swallowsNext (swallowed : Bool) (p : CodePoint) : Bool := !swallowed && p.toNat == 0x200D

/-- A text that ends with a joiner, so that what follows it is swallowed. -/
def Joins (t : Text) : Prop := t.foldl swallowsNext false = true

instance (t : Text) : Decidable t.Joins := inferInstanceAs (Decidable (_ = _))

variable {t u : Text} {p : CodePoint} {n : Nat}

/-- A text joins what follows just if it ends with a joiner that is not joined to what precedes it. -/
theorem joins_concat : Joins (t ++ [p]) ↔ ¬ Joins t ∧ p.toNat = 0x200D := by
  unfold Joins
  rw [List.foldl_append, List.foldl_cons, List.foldl_nil]
  simp [swallowsNext]

theorem not_joins_append_spaces (apart : ¬ t.Joins) (n : Nat) : ¬ Joins (t ++ spaces n) := by
  cases n with
  | zero => rwa [spaces, List.replicate_zero, List.append_nil]
  | succ n =>
    rw [spaces, List.replicate_succ', ← List.append_assoc, joins_concat, not_and]
    exact fun _ space => nomatch space

/-- A code point takes some cells and leaves the rest to be measured. -/
theorem exists_cellLengthFrom_cons (last : Option CodePoint) (swallow : Bool) (p : CodePoint) :
    ∃ after cells, ∀ u,
      cellLengthFrom last swallow (p :: u) = cells + cellLengthFrom after (swallowsNext swallow p) u := by
  unfold swallowsNext
  cases swallow with
  | true => exact ⟨last, 0, fun u => (Nat.zero_add _).symm⟩
  | false =>
    by_cases joiner : p.toNat = 0x200D
    · refine ⟨last, 0, fun u => ?_⟩
      simp [cellLengthFrom, joiner]
    have state : (p.toNat == 0x200D) = false := beq_eq_false_iff_ne.mpr joiner
    rw [state]
    by_cases selector : p.toNat = 0xFE0F
    · cases last with
      | none => exact ⟨none, 0, fun u => by simp [cellLengthFrom, selector]⟩
      | some widened =>
        exact ⟨none, if inRanges widened.toNat widenedRanges then 1 else 0, fun u => by simp [cellLengthFrom, selector]⟩
    by_cases zero : cellWidth p = 0
    · exact ⟨last, 0, fun u => by simp [cellLengthFrom, joiner, selector, zero]⟩
    · exact ⟨some p, cellWidth p, fun u => by simp [cellLengthFrom, joiner, selector, zero]⟩

/-- The cells of a text are those of a beginning and then those of the rest, of which a joiner may swallow one code
point. -/
theorem exists_cellLengthFrom_append (last : Option CodePoint) (swallow : Bool) (t : Text) :
    ∃ after, ∀ u, cellLengthFrom last swallow (t ++ u) =
      cellLengthFrom last swallow t + cellLengthFrom after (t.foldl swallowsNext swallow) u := by
  induction t generalizing last swallow with
  | nil => exact ⟨last, fun u => (Nat.zero_add _).symm⟩
  | cons p t ih =>
    obtain ⟨next, cells, first⟩ := exists_cellLengthFrom_cons last swallow p
    obtain ⟨after, rest⟩ := ih next (swallowsNext swallow p)
    refine ⟨after, fun u => ?_⟩
    rw [List.cons_append, first, first, rest, Nat.add_assoc]
    rfl

theorem exists_cellLength_append (t : Text) : ∃ after, ∀ u,
    (t ++ u).cellLength = t.cellLength + cellLengthFrom after (decide t.Joins) u := by
  obtain ⟨after, split⟩ := exists_cellLengthFrom_append none false t
  refine ⟨after, fun u => ?_⟩
  have state : decide t.Joins = t.foldl swallowsNext false := by
    unfold Joins
    exact Bool.decide_eq_true
  rw [cellLength, cellLength, split, state]

/-- What a joiner swallows takes no cell. -/
theorem cellLength_concat_of_joins (joins : t.Joins) (p : CodePoint) : (t ++ [p]).cellLength = t.cellLength := by
  obtain ⟨_, split⟩ := exists_cellLength_append t
  rw [split, decide_eq_true joins]
  rfl

theorem cellLengthFrom_spaces (last : Option CodePoint) (swallow : Bool) (n : Nat) :
    cellLengthFrom last swallow (spaces n) = if swallow then n - 1 else n := by
  induction n generalizing last swallow with
  | zero => cases swallow <;> rfl
  | succ n ih =>
    have shape : spaces (n + 1) = .char ' ' :: spaces n := rfl
    rw [shape]
    cases swallow with
    | true => exact ih last false
    | false =>
      have next : cellLengthFrom last false (.char ' ' :: spaces n) =
          1 + cellLengthFrom (some (.char ' ')) false (spaces n) := rfl
      rw [next, ih]
      simp only [Bool.false_eq_true, if_false]
      omega

/-- Spaces take one cell each, but the first of them none after a joiner. -/
theorem cellLength_append_spaces (t : Text) (n : Nat) :
    (t ++ spaces n).cellLength = t.cellLength + if t.Joins then n - 1 else n := by
  obtain ⟨_, split⟩ := exists_cellLength_append t
  rw [split, cellLengthFrom_spaces]
  simp only [decide_eq_true_eq]

/-- A beginning of a text takes no more cells than the text. -/
theorem cellLength_take_le (t : Text) (n : Nat) : cellLength (t.take n) ≤ t.cellLength := by
  obtain ⟨_, split⟩ := exists_cellLength_append (t.take n)
  have whole := split (t.drop n)
  rw [List.take_append_drop] at whole
  omega

/-- An ellipsis takes one cell. -/
theorem cellLength_append_ellipsis (apart : ¬ t.Joins) : cellLength (t ++ "…") = t.cellLength + 1 := by
  obtain ⟨after, split⟩ := exists_cellLength_append t
  rw [split, decide_eq_false apart]
  have width : cellWidth (.char '…') = 1 := by decide +kernel
  have alone : cellLengthFrom after false [.char '…'] = 1 := by
    unfold cellLengthFrom
    rw [width]
    rfl
  exact congrArg (t.cellLength + ·) alone

theorem cellLength_spaces (n : Nat) : cellLength (spaces n) = n := cellLengthFrom_spaces none false n

/-- After a code point that no selector widens, a text takes as many cells as on its own. -/
theorem cellLengthFrom_of_not_widened (narrow : inRanges p.toNat widenedRanges = false) (swallow : Bool) (t : Text) :
    cellLengthFrom (some p) swallow t = cellLengthFrom none swallow t := by
  induction t generalizing swallow with
  | nil => rfl
  | cons q t ih =>
    unfold cellLengthFrom
    simp [ih, narrow]

/-- Each character of printable ASCII takes one cell. -/
theorem cellLength_of_printable (printable : Terminal.Printable t) : t.cellLength = t.length := by
  have each (last : Option CodePoint) : cellLengthFrom last false t = t.length := by
    induction t generalizing last with
    | nil => rfl
    | cons p t ih =>
      obtain ⟨first, rest⟩ := List.forall_mem_cons.mp printable
      rw [Terminal.isPrintable, Bool.and_eq_true, decide_eq_true_eq, decide_eq_true_eq] at first
      have width : cellWidth p = 1 := by
        simp only [cellWidth, Bool.or_eq_true, Bool.and_eq_true, decide_eq_true_eq]
        rw [if_neg (by omega), if_pos (by omega)]
      unfold cellLengthFrom
      rw [if_neg Bool.false_ne_true, if_neg (by omega), if_neg (by omega), width, if_neg Nat.one_ne_zero, ih rest,
        List.length_cons, Nat.add_comm]
  exact each none

theorem cellLength_space_cons (t : Text) : cellLength (.char ' ' :: t) = t.cellLength + 1 := by
  have first : cellLength (.char ' ' :: t) = 1 + cellLengthFrom (some (.char ' ')) false t := rfl
  rw [first, cellLengthFrom_of_not_widened (by decide), Nat.add_comm]
  rfl

end Text

end ProxyControl
