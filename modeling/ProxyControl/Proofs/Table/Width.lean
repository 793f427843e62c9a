import ProxyControl.Proofs.Table.Grid
import ProxyControl.Proofs.Table.Whole

namespace ProxyControl.Table

open Terminal

variable {t piece : Text} {n : Nat}

/-- A text in which measuring sees no other lines than drawing does. -/
def LinesAgree (t : Text) : Prop := ∀ p ∈ t, breaksLine p = true → p = .char '\n'

theorem measuredLines_cons_of_break {p : CodePoint} (ends : breaksLine p = true) (t : Text) :
    measuredLines (p :: t) = [] :: measuredLines t := by
  rw [measuredLines.eq_def]
  exact if_pos ends

/-- What is measured are the lines of the text, but for an empty one after the last newline. -/
theorem splitOn_eq_measuredLines (agree : LinesAgree t) : Text.splitOn (.char '\n') t = measuredLines t ∨
    Text.splitOn (.char '\n') t = measuredLines t ++ [[]] := by
  induction t with
  | nil => exact .inr rfl
  | cons p t ih =>
    obtain ⟨first, rest⟩ := List.forall_mem_cons.mp agree
    specialize ih rest
    by_cases newline : p = .char '\n'
    · rw [measuredLines_cons_of_break (newline ▸ rfl), Text.splitOn, if_pos newline]
      exact ih.imp (congrArg _) (congrArg _)
    have plain : breaksLine p = false := Bool.eq_false_iff.mpr (mt first newline)
    rw [measuredLines.eq_def, Text.splitOn, if_neg newline]
    dsimp only
    rw [plain, if_neg Bool.false_ne_true]
    cases t with
    | nil => exact .inl rfl
    | cons next t =>
      -- A line is measured up to the code point that ends it, so what comes next decides where this one goes.
      dsimp only
      by_cases ends : breaksLine next = true
      · have newline := rest next List.mem_cons_self ends
        rw [measuredLines_cons_of_break ends, Text.splitOn, if_pos newline] at ih ⊢
        rw [if_pos ends]
        exact ih.imp (fun same => by rw [(List.cons.inj same).2]) (fun same => by rw [(List.cons.inj same).2]; rfl)
      · rw [if_neg ends]
        have more : Text.splitOn (.char '\n') (next :: t) ≠ [[]] := by
          intro empty
          have joined := Text.join_splitOn (.char '\n') (next :: t)
          rw [empty] at joined
          cases joined
        cases measured : measuredLines (next :: t) with
        | nil =>
          rw [measured] at ih
          exact (ih.elim (Text.splitOn_ne_nil _ _) more).elim
        | cons line others =>
          rw [measured] at ih
          rcases ih with same | same
          · exact .inl (by rw [same])
          · exact .inr (by rw [same]; rfl)

/-- A content asks for room for each of its lines. -/
theorem cellLength_le_naturalWidth (agree : LinesAgree t) (member : piece ∈ Text.splitOn (.char '\n') t) :
    piece.cellLength ≤ naturalWidth t := by
  have measured : piece ∈ measuredLines t ∨ piece = [] := by
    rcases splitOn_eq_measuredLines agree with same | same
    · exact .inl (same ▸ member)
    · rw [same, List.mem_append, List.mem_singleton] at member
      exact member
  rcases measured with inside | rfl
  · exact le_foldl_max_of_mem (List.mem_map_of_mem inside)
  · exact Nat.zero_le _

/-- It asks for no more than its widest line takes. -/
theorem naturalWidth_le (agree : LinesAgree t) (each : ∀ piece ∈ Text.splitOn (.char '\n') t, piece.cellLength ≤ n) :
    naturalWidth t ≤ n := by
  refine foldl_max_le (Nat.zero_le n) fun m member => ?_
  obtain ⟨piece, inside, rfl⟩ := List.mem_map.mp member
  refine each piece ?_
  rcases splitOn_eq_measuredLines agree with same | same
  · exact same ▸ inside
  · exact same ▸ List.mem_append_left _ inside

theorem linesAgree_of_ordinary (ordinary : ∀ line ∈ Text.splitOn (.char '\n') t, Ordinary line) :
    LinesAgree t ∧ clean t = t := by
  have points : ∀ p ∈ t, p = .char '\n' ∨ isDropped p = false ∧ breaksLine p = false := by
    intro p member
    refine (Text.exists_piece (.char '\n') member).imp_right ?_
    rintro ⟨line, inside, here⟩
    obtain ⟨kept, plain, _⟩ := (ordinary line inside).1 p here
    exact ⟨kept, plain⟩
  refine ⟨fun p member ends => ?_, clean_of_kept fun p member => ?_⟩
  · rcases points p member with newline | ⟨_, plain⟩
    · exact newline
    · rw [plain] at ends
      cases ends
  · rcases points p member with rfl | ⟨kept, _⟩
    · rfl
    · exact kept

/-- The widths that two columns get. -/
def pairWidths (a b : Text) (pairs : List (Text × Text)) : List Nat :=
  fit (lineWidth - 3) (twoColumns (clean a) (clean b) (wanted (clean a) (pairs.map fun pair => clean pair.1))
    (wanted (clean b) (pairs.map fun pair => clean pair.2)))

/-- Headings keep the columns from vanishing, and no column is wider than a table may be. -/
theorem exists_pairWidths {a b : Text} (pairs : List (Text × Text)) (wide : 4 ≤ naturalWidth (clean a))
    (alsoWide : 4 ≤ naturalWidth (clean b)) :
    ∃ left right, pairWidths a b pairs = [left, right] ∧ 3 ≤ left ∧ 3 ≤ right ∧ right ≤ lineWidth - 3 := by
  have first := le_wanted (List.mem_cons_self : clean a ∈ clean a :: pairs.map fun pair => clean pair.1)
  have second := le_wanted (List.mem_cons_self : clean b ∈ clean b :: pairs.map fun pair => clean pair.2)
  have some : lineWidth - 3 = 4093 := rfl
  obtain ⟨left, right, room, ⟨half, _⟩, alsoHalf, low⟩ := fit_pair (lineWidth - 3)
    (wanted (clean a) (pairs.map fun pair => clean pair.1)) (wanted (clean b) (pairs.map fun pair => clean pair.2))
    (clean a) (clean b)
  exact ⟨left, right, room, by omega, by omega, low⟩

end ProxyControl.Table
