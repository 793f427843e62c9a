import ProxyControl.Proofs.Text.Cells
import ProxyControl.Table

namespace ProxyControl.Table

open Terminal

variable {cells width : Nat} {line t : Text} {p : CodePoint}

/-- The first of some numbers that passes, counted down, is the greatest that does. -/
theorem exists_greatest (test : Nat → Bool) (zero : test 0 = true) (n : Nat) :
    ∃ k ≤ n, (List.range (n + 1)).reverse.find? test = some k ∧ test k = true ∧
      ∀ m, k < m → m ≤ n → test m = false := by
  induction n with
  | zero =>
    refine ⟨0, Nat.le_refl 0, ?_, zero, fun m above below => by omega⟩
    exact List.find?_cons_of_pos zero
  | succ n ih =>
    rw [List.range_succ, List.reverse_append, List.reverse_singleton, List.singleton_append]
    by_cases last : test (n + 1) = true
    · exact ⟨n + 1, Nat.le_refl _, List.find?_cons_of_pos last, last, fun m above below => by omega⟩
    · obtain ⟨k, low, found, passes, beyond⟩ := ih
      refine ⟨k, by omega, (List.find?_cons_of_neg last).trans found, passes, fun m above below => ?_⟩
      rcases Nat.lt_or_ge n m with top | inside
      · rw [show m = n + 1 by omega]
        exact Bool.not_eq_true _ ▸ last
      · exact beyond m above inside

/-- What is kept of a line is its longest beginning within the cells. -/
theorem exists_crop (cells : Nat) (line : Text) : ∃ n ≤ line.length,
    crop cells line = line.take n ++ spaces (cells - Text.cellLength (line.take n)) ∧
      Text.cellLength (line.take n) ≤ cells ∧
      ∀ m, n < m → m ≤ line.length → cells < Text.cellLength (line.take m) := by
  obtain ⟨n, low, found, passes, beyond⟩ := exists_greatest
    (fun n => decide (Text.cellLength (line.take n) ≤ cells)) (decide_eq_true (Nat.zero_le cells)) line.length
  refine ⟨n, low, ?_, of_decide_eq_true passes, fun m above below => ?_⟩
  · unfold crop
    rw [found]
    rfl
  · exact Nat.not_le.mp (of_decide_eq_false (beyond m above below))

theorem crop_of_le (fits : line.cellLength ≤ cells) : crop cells line = line ++ spaces (cells - line.cellLength) := by
  obtain ⟨n, low, shape, _, beyond⟩ := exists_crop cells line
  have whole : line.length ≤ n := by
    refine Nat.not_lt.mp fun part => ?_
    have more := beyond line.length part (Nat.le_refl _)
    rw [List.take_length] at more
    omega
  rw [shape, List.take_of_length_le whole]

/-- A line that is too long is never cut after a joiner, since what is joined takes no cell. -/
theorem exists_crop_of_lt (long : cells < line.cellLength) : ∃ kept : Text,
    crop cells line = kept ++ spaces (cells - kept.cellLength) ∧ kept.cellLength ≤ cells ∧ ¬ kept.Joins := by
  obtain ⟨n, low, shape, fits, beyond⟩ := exists_crop cells line
  have part : n < line.length := by
    refine Nat.lt_of_le_of_ne low fun whole => ?_
    rw [whole, List.take_length] at fits
    omega
  refine ⟨line.take n, shape, fits, fun joins => ?_⟩
  have more := beyond (n + 1) (by omega) part
  rw [← List.take_append_getElem part, Text.cellLength_concat_of_joins joins] at more
  omega

/-- A line that is too long is cut to the cells. -/
theorem cellLength_crop_of_lt (long : cells < line.cellLength) : (crop cells line).cellLength = cells := by
  obtain ⟨kept, shape, fits, apart⟩ := exists_crop_of_lt long
  rw [shape, Text.cellLength_append_spaces, if_neg apart]
  omega

theorem not_joins_crop (long : cells < line.cellLength) : ¬ (crop cells line).Joins := by
  obtain ⟨kept, shape, _, apart⟩ := exists_crop_of_lt long
  rw [shape]
  exact Text.not_joins_append_spaces apart _

/-- A line that is filled up with spaces and then cut takes just the cells of its column. -/
theorem cellLength_crop_padTo (width : Nat) (t : Text) : (crop width (padTo width t)).cellLength = width := by
  rcases Nat.lt_or_ge width (padTo width t).cellLength with long | fits
  · exact cellLength_crop_of_lt long
  · have together (m n : Nat) : spaces m ++ spaces n = spaces (m + n) := List.replicate_append_replicate
    rw [crop_of_le fits, padTo, List.append_assoc, together, Text.cellLength_append_spaces,
      Text.cellLength_append_spaces]
    rw [padTo, Text.cellLength_append_spaces] at fits
    split at fits
    · rename_i joins
      rw [if_pos joins, if_pos joins]
      omega
    · rename_i apart
      rw [if_neg apart, if_neg apart]
      omega

/-- A cell as wide as its column: contents that take all its cells but two, between spaces. Measured as one text, it
takes all of them, unless its contents end with a joiner, which swallows the space after them. -/
def Drawn (width : Nat) (cell : Text) : Prop :=
  ∃ content : Text, cell = .char ' ' :: content ++ [.char ' '] ∧ content.cellLength + 2 = width ∧
    (cell.cellLength = width ↔ ¬ content.Joins)

theorem drawn_of_content {content : Text} (fills : content.cellLength + 2 = width) :
    Drawn width (.char ' ' :: content ++ [.char ' ']) := by
  refine ⟨content, rfl, fills, ?_⟩
  have measured := Text.cellLength_append_spaces content 1
  have shape : .char ' ' :: content ++ [.char ' '] = .char ' ' :: (content ++ spaces 1) := rfl
  rw [shape, Text.cellLength_space_cons, measured]
  split
  · rename_i joins
    exact iff_of_false (by omega) (not_not_intro joins)
  · rename_i apart
    exact iff_of_true (by omega) apart

theorem drawn_spaces (wide : 2 ≤ width) : Drawn width (spaces width) := by
  have shape : spaces width = .char ' ' :: spaces (width - 2) ++ [.char ' '] := by
    obtain ⟨inner, rfl⟩ := Nat.exists_eq_add_of_le' wide
    rw [Nat.add_sub_cancel, spaces, List.replicate_succ, List.replicate_succ', List.cons_append]
    rfl
  rw [shape]
  apply drawn_of_content
  rw [Text.cellLength_spaces]
  omega

/-- A line brought to a number of cells. -/
def fitted (isHead : Bool) (cells : Nat) (line : Text) : Text :=
  (if isHead then centredLine cells else leftLine cells)
    (trimBeyond cells (if line.contains (.char '\t') then withoutTabs line else line))

/-- A line in a cell of its column. -/
def cell (isHead : Bool) (width : Nat) (line : Text) : Text :=
  .char ' ' :: crop (width - 2) (fitted isHead (width - 2) line) ++ [.char ' ']

theorem exists_fitted (isHead : Bool) (cells : Nat) (line : Text) : ∃ t, fitted isHead cells line = padTo cells t := by
  cases isHead with
  | true => exact ⟨_, rfl⟩
  | false => exact ⟨_, rfl⟩

/-- Whatever a line holds, its cell is as wide as the column. -/
theorem drawn_cell (wide : 2 ≤ width) (isHead : Bool) (line : Text) : Drawn width (cell isHead width line) := by
  obtain ⟨t, shape⟩ := exists_fitted isHead (width - 2) line
  apply drawn_of_content
  rw [shape, cellLength_crop_padTo]
  omega

/-- What a cell may hold besides its line. -/
def fillers : Text := " …"

theorem mem_spaces {n : Nat} (member : p ∈ spaces n) : p ∈ fillers := by
  obtain rfl := (List.mem_replicate.mp member).2
  decide

theorem mem_crop (member : p ∈ crop cells line) : p ∈ line ∨ p ∈ fillers := by
  obtain ⟨n, _, shape, _⟩ := exists_crop cells line
  rw [shape] at member
  rcases List.mem_append.mp member with kept | filled
  · exact .inl (List.mem_of_mem_take kept)
  · exact .inr (mem_spaces filled)

theorem mem_padTo (member : p ∈ padTo width line) : p ∈ line ∨ p ∈ fillers := by
  rcases List.mem_append.mp member with kept | filled
  · exact .inl kept
  · exact .inr (mem_spaces filled)

theorem mem_truncate (member : p ∈ truncate width line) : p ∈ line ∨ p ∈ fillers := by
  unfold truncate at member
  split at member
  · rcases List.mem_append.mp member with kept | cut
    · exact mem_crop kept
    · obtain rfl := List.mem_singleton.mp cut
      exact .inr (by decide)
  · exact .inl member

theorem mem_expandTabs {column : Nat} {pieces : List Text} (member : p ∈ expandTabs column pieces) :
    (∃ piece ∈ pieces, p ∈ piece) ∨ p ∈ fillers := by
  induction pieces generalizing column with
  | nil => cases member
  | cons piece rest ih =>
    cases rest with
    | nil => exact .inl ⟨piece, List.mem_singleton_self piece, member⟩
    | cons next rest =>
      rcases List.mem_append.mp member with first | later
      · rcases List.mem_append.mp first with kept | filled
        · exact .inl ⟨piece, List.mem_cons_self, kept⟩
        · exact .inr (mem_spaces filled)
      · rcases ih later with ⟨other, inside, kept⟩ | filled
        · exact .inl ⟨other, List.mem_cons_of_mem _ inside, kept⟩
        · exact .inr filled

theorem mem_withoutTabs (member : p ∈ withoutTabs line) : p ∈ line ∨ p ∈ fillers := by
  rcases mem_expandTabs member with ⟨piece, inside, kept⟩ | filled
  · exact .inl (Text.mem_of_mem_splitOn kept inside)
  · exact .inr filled

theorem mem_dropWhileEnd {drop : CodePoint → Bool} (member : p ∈ Text.dropWhileEnd drop line) : p ∈ line := by
  have kept := (List.dropWhile_sublist drop).subset (List.mem_reverse.mp member)
  exact List.mem_reverse.mp kept

theorem mem_fitted {isHead : Bool} (member : p ∈ fitted isHead cells line) : p ∈ line ∨ p ∈ fillers := by
  have inner {t : Text} (cut : p ∈ truncate cells t)
      (within : p ∈ t → p ∈ trimBeyond cells (if line.contains (.char '\t') then withoutTabs line else line)) :
      p ∈ line ∨ p ∈ fillers := by
    rcases mem_truncate cut with kept | filled
    · have kept := List.mem_of_mem_take (within kept)
      split at kept
      · exact mem_withoutTabs kept
      · exact .inl kept
    · exact .inr filled
  unfold fitted at member
  split at member
  · rcases mem_padTo member with kept | filled
    · rcases List.mem_append.mp kept with filled | kept
      · exact .inr (mem_spaces filled)
      · exact inner kept mem_dropWhileEnd
    · exact .inr filled
  · rcases mem_padTo member with kept | filled
    · exact inner kept id
    · exact .inr filled

theorem mem_cell {isHead : Bool} (member : p ∈ cell isHead width line) : p ∈ line ∨ p ∈ fillers := by
  rcases List.mem_append.mp member with front | last
  · rcases List.mem_cons.mp front with rfl | inside
    · exact .inr (by decide)
    · rcases mem_crop inside with kept | filled
      · exact mem_fitted kept
      · exact .inr filled
  · obtain rfl := List.mem_singleton.mp last
    exact .inr (by decide)

end ProxyControl.Table
