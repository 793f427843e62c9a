import Mathlib.Data.List.DropRight
import ProxyControl.Proofs.Table.Row

namespace ProxyControl

namespace Table

open Terminal

/-- A text without the spaces it ends with. -/
def unpadded (t : Text) : Text := Text.dropWhileEnd (· == .char ' ') t

/-- A text that does not end with white space. -/
def EndsVisibly (t : Text) : Prop := ∀ p ∈ t.getLast?, Unicode.isSpace p = false

instance (t : Text) : Decidable (EndsVisibly t) := inferInstanceAs (Decidable (∀ p ∈ t.getLast?, _))

variable {cells : Nat} {line t u : Text} {p : CodePoint}

theorem unpadded_append_spaces (t : Text) (n : Nat) : unpadded (t ++ spaces n) = unpadded t := by
  induction n with
  | zero => exact congrArg unpadded (List.append_nil t)
  | succ n ih =>
    rw [spaces, List.replicate_succ', ← List.append_assoc]
    exact (List.rdropWhile_concat_pos _ _ _ rfl).trans ih

theorem exists_unpadded (t : Text) : ∃ n, t = unpadded t ++ spaces n := by
  have rest : t.rtakeWhile (· == .char ' ') = spaces (t.rtakeWhile (· == .char ' ')).length := by
    refine List.eq_replicate_iff.mpr ⟨rfl, fun p member => ?_⟩
    have space := List.mem_rtakeWhile_imp member
    exact beq_iff_eq.mp space
  refine ⟨(t.rtakeWhile (· == .char ' ')).length, ?_⟩
  rw [← rest]
  exact List.rdropWhile_append_rtakeWhile.symm

theorem EndsVisibly.unpadded_eq (visible : EndsVisibly t) : unpadded t = t := by
  refine List.rdropWhile_eq_self_iff.mpr fun some space => ?_
  have last := visible _ (List.getLast?_eq_some_getLast some)
  rw [beq_iff_eq.mp space] at last
  cases last

theorem mem_unpadded (member : p ∈ t) (other : p ≠ .char ' ') : p ∈ unpadded t := by
  obtain ⟨n, shape⟩ := exists_unpadded t
  rw [shape] at member
  rcases List.mem_append.mp member with kept | space
  · exact kept
  · exact absurd (List.mem_replicate.mp space).2 other

theorem EndsVisibly.trailing_eq (visible : EndsVisibly t) : t.reverse.takeWhile Unicode.isSpace = [] := by
  rw [EndsVisibly, ← List.head?_reverse] at visible
  cases shape : t.reverse with
  | nil => rfl
  | cons p rest =>
    rw [shape] at visible
    exact List.takeWhile_cons_of_neg (by simp [visible p rfl])

theorem EndsVisibly.trimBeyond_eq (visible : EndsVisibly t) (cells : Nat) : trimBeyond cells t = t := by
  rw [trimBeyond, visible.trailing_eq, List.length_nil, Nat.zero_min, Nat.sub_zero, List.take_length]

/-- Of a line that ends visibly but for spaces, trimming takes spaces only. -/
theorem exists_trimBeyond (visible : EndsVisibly (unpadded t)) (cells : Nat) :
    ∃ m, trimBeyond cells t = unpadded t ++ spaces m := by
  obtain ⟨k, shape⟩ := exists_unpadded t
  generalize unpadded t = u at visible shape
  have trailing : (t.reverse.takeWhile Unicode.isSpace).length = k := by
    have spaced : (spaces k).takeWhile Unicode.isSpace = spaces k :=
      List.takeWhile_eq_self_iff.mpr fun p member => by
        rw [(List.mem_replicate.mp member).2]
        rfl
    have turned : (spaces k).reverse = spaces k := List.reverse_replicate
    rw [shape, List.reverse_append, turned, List.takeWhile_append_of_pos, visible.trailing_eq,
      List.append_nil]
    · exact List.length_replicate
    · exact List.takeWhile_eq_self_iff.mp spaced
  refine ⟨k - min k (u.length + k - cells), ?_⟩
  rw [trimBeyond, trailing, shape, List.length_append, spaces, List.length_replicate, List.take_append,
    List.take_of_length_le (by omega), List.take_replicate]
  congr 2
  omega

/-- A line without tabs is shown as it is. -/
theorem withoutTabs_of_not_mem (plain : .char '\t' ∉ line) : withoutTabs line = line := by
  rw [withoutTabs, Text.splitOn_of_not_mem plain]
  rfl

theorem mem_expandTabs_of_mem {column : Nat} {pieces : List Text} {piece : Text} (inside : p ∈ piece)
    (member : piece ∈ pieces) : p ∈ expandTabs column pieces := by
  induction pieces generalizing column with
  | nil => cases member
  | cons first rest ih =>
    cases rest with
    | nil => exact List.mem_singleton.mp member ▸ inside
    | cons next rest =>
      rcases List.mem_cons.mp member with rfl | later
      · exact List.mem_append_left _ (List.mem_append_left _ inside)
      · exact List.mem_append_right _ (ih later)

theorem mem_withoutTabs_of_mem (member : p ∈ line) (other : p ≠ .char '\t') : p ∈ withoutTabs line := by
  rcases Text.exists_piece (.char '\t') member with tab | ⟨piece, inside, here⟩
  · exact absurd tab other
  · exact mem_expandTabs_of_mem here inside

/-- A line is cut to the cells of its column, with an ellipsis in the last one. -/
theorem cellLength_truncate (some : cells ≠ 0) (long : cells < t.cellLength) : (truncate cells t).cellLength = cells := by
  have beyond : cells - 1 < t.cellLength := by omega
  rw [truncate, if_pos long, Text.cellLength_append_ellipsis (not_joins_crop beyond), cellLength_crop_of_lt beyond]
  omega

theorem cellLength_truncate_le (some : cells ≠ 0) (t : Text) : (truncate cells t).cellLength ≤ cells := by
  rcases Nat.lt_or_ge cells t.cellLength with long | fits
  · exact Nat.le_of_eq (cellLength_truncate some long)
  · rwa [truncate, if_neg (by omega)]

/-- What stands in a cell is the line as far as there is room for it, and spaces. -/
theorem exists_content (some : cells ≠ 0) (line : Text) : ∃ n,
    crop cells (fitted false cells line) = truncate cells (trimBeyond cells (withoutTabs line)) ++ spaces n := by
  have shape : fitted false cells line = padTo cells (truncate cells (trimBeyond cells (withoutTabs line))) := by
    have expanded : (if line.contains (.char '\t') then withoutTabs line else line) = withoutTabs line := by
      split
      · rfl
      · rename_i plain
        exact (withoutTabs_of_not_mem (mt List.contains_iff_mem.mpr plain)).symm
    rw [fitted, expanded]
    rfl
  have low := cellLength_truncate_le some (trimBeyond cells (withoutTabs line))
  rw [shape]
  generalize truncate cells (trimBeyond cells (withoutTabs line)) = t at low
  have together (m n : Nat) : spaces m ++ spaces n = spaces (m + n) := List.replicate_append_replicate
  have fits : (padTo cells t).cellLength ≤ cells := by
    rw [padTo, Text.cellLength_append_spaces]
    split <;> omega
  rw [crop_of_le fits, padTo, List.append_assoc, together]
  exact ⟨_, rfl⟩

theorem clean_of_kept (kept : ∀ p ∈ t, isDropped p = false) : clean t = t :=
  List.filter_eq_self.mpr fun p member => by
    rw [kept p member]
    rfl

/-- A line that goes into a column of so many cells: the terminal drops nothing of it, and cutting it to the cells takes
nothing but spaces from its end. -/
def Fits (cells : Nat) (line : Text) : Prop :=
  (∀ p ∈ line, isDropped p = false) ∧
    unpadded (truncate cells (trimBeyond cells (withoutTabs line))) = unpadded (withoutTabs line)

instance (cells : Nat) (line : Text) : Decidable (Fits cells line) :=
  inferInstanceAs (Decidable (_ ∧ _))

/-- With room for all its cells, a line fits. -/
theorem fits_of_le (kept : ∀ p ∈ line, isDropped p = false) (visible : EndsVisibly (unpadded (withoutTabs line)))
    (room : (withoutTabs line).cellLength ≤ cells) : Fits cells line := by
  obtain ⟨m, trimmed⟩ := exists_trimBeyond visible cells
  have prefixed : (trimBeyond cells (withoutTabs line)).cellLength ≤ (withoutTabs line).cellLength :=
    Text.cellLength_take_le _ _
  refine ⟨kept, ?_⟩
  rw [truncate, if_neg (by omega), trimmed, unpadded_append_spaces, visible.unpadded_eq]

/-- A line that does not end with white space fits just if there is room for its cells. -/
theorem fits_iff (some : cells ≠ 0) (visible : EndsVisibly (withoutTabs line)) :
    Fits cells line ↔ (∀ p ∈ line, isDropped p = false) ∧ (withoutTabs line).cellLength ≤ cells := by
  constructor
  · rintro ⟨kept, whole⟩
    refine ⟨kept, Nat.not_lt.mp fun long => ?_⟩
    have ends : EndsVisibly (truncate cells (withoutTabs line)) := by
      intro p last
      rw [truncate, if_pos long] at last
      obtain rfl := Option.some.inj (List.getLast?_concat.symm.trans last)
      decide
    rw [visible.trimBeyond_eq, ends.unpadded_eq, visible.unpadded_eq] at whole
    have cut := cellLength_truncate some long
    rw [whole] at cut
    omega
  · rintro ⟨kept, room⟩
    exact fits_of_le kept (visible.unpadded_eq.symm ▸ visible) room

/-- A line without tabs, line separators and control codes that are dropped, that ends visibly but for spaces. -/
def Ordinary (line : Text) : Prop :=
  (∀ p ∈ line, isDropped p = false ∧ breaksLine p = false ∧ p ≠ .char '\t') ∧ EndsVisibly (unpadded line)

instance (line : Text) : Decidable (Ordinary line) := inferInstanceAs (Decidable (_ ∧ _))

theorem Ordinary.fits (ordinary : Ordinary line) (room : line.cellLength ≤ cells) : Fits cells line := by
  have same : withoutTabs line = line := withoutTabs_of_not_mem fun tab => (ordinary.1 _ tab).2.2 rfl
  refine fits_of_le (fun p member => (ordinary.1 p member).1) ?_ ?_
  · rw [same]
    exact ordinary.2
  · rwa [same]

/-- A line of two cells that shows a whole text in the second one, up to spaces at its end and with its tabs expanded. -/
def Shows (line detail : Text) : Prop :=
  ∃ first content : Text, .char '|' ∉ first ∧ line = framed (.char '|') first (.char ' ' :: content ++ [.char ' ']) ∧
    unpadded content = unpadded (withoutTabs detail)

theorem framed_inj {bar : CodePoint} {first second start rest : Text} (barless : bar ∉ first) (alsoBarless : bar ∉ start)
    (same : framed bar first second = framed bar start rest) : first = start ∧ second = rest := by
  have shape (t u : Text) : framed bar t u = bar :: (t ++ bar :: (u ++ [bar])) := by
    simp only [framed, List.cons_append, List.append_assoc]
  rw [shape, shape] at same
  have cut := congrArg (Text.cut? bar) (List.cons.inj same).2
  rw [Text.cut?_append_self barless, Text.cut?_append_self alsoBarless] at cut
  obtain ⟨front, back⟩ := Prod.mk.inj (Option.some.inj cut)
  exact ⟨front, List.append_cancel_right back⟩

theorem shows_framed {first content detail : Text} (barless : .char '|' ∉ first) :
    Shows (framed (.char '|') first (.char ' ' :: content ++ [.char ' '])) detail ↔
      unpadded content = unpadded (withoutTabs detail) := by
  constructor
  · rintro ⟨start, shown, alsoBarless, same, whole⟩
    obtain ⟨_, inner⟩ := framed_inj barless alsoBarless same
    rw [List.append_cancel_right (List.cons.inj inner).2]
    exact whole
  · exact fun whole => ⟨first, content, barless, rfl, whole⟩

/-- A cell shows a whole line just if this fits. A control code that is dropped cannot be in the cell. -/
theorem shows_cell_iff {width : Nat} {first detail : Text} (wide : 3 ≤ width) (barless : .char '|' ∉ first) :
    Shows (framed (.char '|') first (cell false width (clean detail))) detail ↔ Fits (width - 2) detail := by
  have some : width - 2 ≠ 0 := by omega
  obtain ⟨n, content⟩ := exists_content some (clean detail)
  rw [cell, shows_framed barless, content, unpadded_append_spaces]
  constructor
  · intro whole
    have kept : ∀ p ∈ detail, isDropped p = false := by
      intro p member
      refine Bool.eq_false_iff.mpr fun dropped => ?_
      have unlike {q : CodePoint} (passes : isDropped q = false) : p ≠ q := by
        rintro rfl
        rw [dropped] at passes
        cases passes
      have inside := mem_unpadded (mem_withoutTabs_of_mem member (unlike (by decide))) (unlike (by decide))
      rw [← whole] at inside
      have fillers : ∀ q ∈ fillers, isDropped q = false := by decide
      rcases mem_truncate (mem_dropWhileEnd inside) with shown | filled
      · rcases mem_withoutTabs (List.mem_of_mem_take shown) with cleaned | filled
        · have passes := (List.mem_filter.mp cleaned).2
          rw [dropped] at passes
          cases passes
        · exact unlike (fillers p filled) rfl
      · exact unlike (fillers p filled) rfl
    have same := clean_of_kept kept
    rw [same] at whole
    exact ⟨kept, whole⟩
  · rintro ⟨kept, whole⟩
    have same := clean_of_kept kept
    rw [same]
    exact whole

end Table

end ProxyControl
