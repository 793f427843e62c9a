import Mathlib.Data.List.Forall2
import Mathlib.Data.List.GetD
import ProxyControl.Proofs.Table.Cell

namespace ProxyControl.Table

open Terminal

/-- Two cells between bars. -/
def framed (bar : CodePoint) (first second : Text) : Text := bar :: first ++ bar :: second ++ [bar]

theorem framed_eq (bar : CodePoint) (first second : Text) :
    framed bar first second = [bar] ++ Text.join [bar] [first, second] ++ [bar] := by
  have single : Text.join [bar] [second] = second := List.intercalate_singleton
  rw [Text.join_cons_of_ne_nil (List.cons_ne_nil second []), single, framed]
  simp only [List.append_assoc, List.cons_append, List.nil_append]

theorem splitOn_framed {bar : CodePoint} {first second : Text} (barless : bar ∉ first) (alsoBarless : bar ∉ second) :
    Text.splitOn bar (framed bar first second) = [[], first, second, []] := by
  have shape : framed bar first second = [] ++ bar :: (first ++ bar :: (second ++ bar :: [])) := by
    simp only [framed, List.nil_append, List.append_assoc, List.cons_append]
  rw [shape, Text.splitOn_append_self, Text.splitOn_append_self, Text.splitOn_append_self,
    Text.splitOn_of_not_mem barless, Text.splitOn_of_not_mem alsoBarless]
  rfl

/-- A line of two cells, of which the second is given. -/
def TwoCells (Fills : Nat → Text → Prop) (left right : Nat) (line second : Text) : Prop :=
  ∃ first, line = framed (.char '|') first second ∧ Fills left first ∧ Fills right second

/-- A cell as wide as its column, in one line. -/
def InLine (width : Nat) (cell : Text) : Prop := Drawn width cell ∧ .char '\n' ∉ cell

variable {left right width height : Nat} {isHead : Bool} {first second line : Text} {pieces : List Text}

theorem inLine_cell (wide : 2 ≤ width) (unbroken : .char '\n' ∉ line) : InLine width (cell isHead width line) := by
  refine ⟨drawn_cell wide isHead line, fun member => ?_⟩
  rcases mem_cell member with kept | filled
  · exact unbroken kept
  · revert filled
    decide

theorem inLine_spaces (wide : 2 ≤ width) : InLine width (spaces width) := by
  refine ⟨drawn_spaces wide, fun member => ?_⟩
  have filled := mem_spaces member
  revert filled
  decide

/-- Two columns whose cells may not be broken. -/
abbrev twoColumns (a b : Text) (left right : Nat) : List (Column × Nat) := [(⟨a, false⟩, left), (⟨b, false⟩, right)]

/-- The lines of a content that may not be broken into more of them. -/
theorem contentLines_unwrapped (width : Nat) (t : Text) : contentLines false width t =
    (Text.splitOn (.char '\n') t).map fun line =>
      trimBeyond width (if line.contains (.char '\t') then withoutTabs line else line) :=
  List.flatMap_pure_eq_map _ _

theorem align_of_length (bottom : Bool) (width : Nat) {lines : List Text} (full : lines.length = height) :
    align bottom height width lines = lines := by
  unfold align
  rw [full, Nat.sub_self]
  cases bottom with
  | true => rfl
  | false => exact List.append_nil lines

theorem length_align {bottom : Bool} {lines : List Text} (low : lines.length ≤ height) :
    (align bottom height width lines).length = height := by
  unfold align
  cases bottom with
  | true =>
    simp only [if_true, List.length_append, List.length_replicate]
    omega
  | false =>
    simp only [Bool.false_eq_true, if_false, List.length_append, List.length_replicate]
    omega

theorem mem_align {bottom : Bool} {lines : List Text} (member : line ∈ align bottom height width lines) :
    line ∈ lines ∨ line = spaces width := by
  unfold align at member
  dsimp only at member
  split at member
  · rcases List.mem_append.mp member with missing | kept
    · exact .inr (List.mem_replicate.mp missing).2
    · exact .inl kept
  · rcases List.mem_append.mp member with kept | missing
    · exact .inl kept
    · exact .inr (List.mem_replicate.mp missing).2

theorem rowLines_pair_eq (a b : Text) (unbroken : .char '\n' ∉ first)
    (split : Text.splitOn (.char '\n') second = pieces) :
    rowLines isHead (twoColumns a b left right) [first, second] =
      (List.range pieces.length).map fun i =>
        framed (.char '|') ((align isHead pieces.length left [cell isHead left first]).getD i [])
          ((pieces.map (cell isHead right)).getD i []) := by
  have full : (pieces.map (cell isHead right)).length = pieces.length := List.length_map _
  have some : 0 < pieces.length := by
    rw [← split]
    exact List.length_pos_iff.mpr (Text.splitOn_ne_nil _ _)
  unfold rowLines
  simp only [List.zip_cons_cons, List.zip_nil_right, List.map_cons, List.map_nil, contentLines_unwrapped, split,
    Text.splitOn_of_not_mem unbroken, List.map_map, List.foldl_cons, List.foldl_nil, List.length_map,
    List.length_singleton]
  have tallest : max (max 1 1) pieces.length = pieces.length := by omega
  rw [tallest]
  refine List.map_congr_left fun i inside => ?_
  rw [framed_eq, ← align_of_length isHead right full]
  rfl

/-- A row whose first content is one line has a line for each line of its second content. -/
theorem rowLines_pair_cells (isHead : Bool) (left right : Nat) (a b second : Text) (unbroken : .char '\n' ∉ first) :
    List.Forall₂ (fun line piece => ∃ start, line = framed (.char '|') start (cell isHead right piece) ∧
        (start = cell isHead left first ∨ start = spaces left))
      (rowLines isHead (twoColumns a b left right) [first, second])
      (Text.splitOn (.char '\n') second) := by
  rw [rowLines_pair_eq a b unbroken rfl]
  generalize Text.splitOn (.char '\n') second = pieces
  refine List.forall₂_iff_get.mpr ⟨by simp, fun i below inside => ?_⟩
  rw [List.get_eq_getElem, List.get_eq_getElem, List.getElem_map, List.getElem_range]
  have aligned : (align isHead pieces.length left [cell isHead left first]).length = pieces.length :=
    length_align (by rw [List.length_singleton]; omega)
  have there : i < (align isHead pieces.length left [cell isHead left first]).length := by omega
  have told : i < (pieces.map (cell isHead right)).length := by rwa [List.length_map]
  rw [List.getD_eq_getElem _ _ there, List.getD_eq_getElem _ _ told, List.getElem_map]
  refine ⟨_, rfl, ?_⟩
  rcases mem_align (List.getElem_mem there) with shown | blank
  · exact .inl (List.mem_singleton.mp shown)
  · exact .inr blank

/-- The lines of such a row are of two cells. -/
theorem rowLines_pair (isHead : Bool) (a b second : Text) (unbroken : .char '\n' ∉ first) (wideLeft : 2 ≤ left)
    (wideRight : 2 ≤ right) :
    List.Forall₂ (fun line piece => TwoCells InLine left right line (cell isHead right piece))
      (rowLines isHead (twoColumns a b left right) [first, second])
      (Text.splitOn (.char '\n') second) := by
  have rows := rowLines_pair_cells isHead left right a b second unbroken
  have plain : ∀ piece ∈ Text.splitOn (.char '\n') second, .char '\n' ∉ piece := fun _ => Text.not_mem_of_mem_splitOn
  refine (((List.forall₂_and_left _ _).mpr ⟨plain, rows.flip⟩).imp ?_).flip
  rintro piece line ⟨plain, start, shape, start_eq⟩
  refine ⟨start, shape, ?_, inLine_cell wideRight plain⟩
  rcases start_eq with rfl | rfl
  · exact inLine_cell wideLeft unbroken
  · exact inLine_spaces wideLeft

end ProxyControl.Table
