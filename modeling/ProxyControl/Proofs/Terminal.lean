import ProxyControl.Proofs.Text.Split
import ProxyControl.Terminal

namespace ProxyControl.Terminal

/-- A space, or an ASCII character that can be seen. -/
def isPrintable (p : CodePoint) : Bool := 0x20 ≤ p.toNat && p.toNat ≤ 0x7E

/-- A text that a terminal can show in one line as it is. -/
def Printable (t : Text) : Prop := ∀ p ∈ t, isPrintable p = true

instance (t : Text) : Decidable (Printable t) := inferInstanceAs (Decidable (∀ p ∈ t, isPrintable p = true))

variable {t u : Text} {p : CodePoint}

theorem Printable.append (left : Printable t) (right : Printable u) : Printable (t ++ u) :=
  List.forall_mem_append.mpr ⟨left, right⟩

theorem toNat_of_isPrintable (printable : isPrintable p = true) : 0x20 ≤ p.toNat := by
  rw [isPrintable, Bool.and_eq_true, decide_eq_true_eq] at printable
  exact printable.1

/-- A text without control codes of ASCII. -/
def Visible (t : Text) : Prop := ∀ p ∈ t, 0x20 ≤ p.toNat

instance (t : Text) : Decidable (Visible t) := inferInstanceAs (Decidable (∀ p ∈ t, 0x20 ≤ p.toNat))

theorem Visible.append (left : Visible t) (right : Visible u) : Visible (t ++ u) :=
  List.forall_mem_append.mpr ⟨left, right⟩

theorem Printable.visible (printable : Printable t) : Visible t := fun p member =>
  toNat_of_isPrintable (printable p member)

theorem Visible.not_mem (visible : Visible t) (control : p.toNat < 0x20) : p ∉ t := by
  intro member
  have above := visible p member
  omega

theorem clean_of_visible (visible : Visible t) (u : Text) : clean (t ++ u) = t ++ clean u := by
  have kept : clean t = t := by
    refine List.filter_eq_self.mpr fun p member => ?_
    have above := visible p member
    simp only [isDropped, Bool.not_eq_true', Bool.or_eq_false_iff, beq_eq_false_iff_ne]
    omega
  rw [clean, List.filter_append]
  exact congrArg (· ++ clean u) kept

theorem expandTabs_prefix (column : Nat) (piece : Text) (rest : List Text) :
    ∃ v, expandTabs column (piece :: rest) = piece ++ v := by
  cases rest with
  | nil => exact ⟨[], (List.append_nil piece).symm⟩
  | cons next rest => exact ⟨_, List.append_assoc piece _ _⟩

/-- What is visible at the beginning is shown as it is. -/
theorem plain_append (visible : Visible t) (u : Text) : ∃ v, plain (t ++ u) = t ++ v := by
  obtain ⟨line, lines, _, split⟩ :=
    Text.splitOn_append_of_not_mem (visible.not_mem (p := .char '\n') (by decide)) (clean u)
  obtain ⟨piece, pieces, _, cut⟩ :=
    Text.splitOn_append_of_not_mem (visible.not_mem (p := .char '\t') (by decide)) line
  obtain ⟨v, shown⟩ := expandTabs_prefix 0 (t ++ piece) pieces
  have first : withoutTabs (t ++ line) = t ++ (piece ++ v) := by
    rw [withoutTabs, cut, shown, List.append_assoc]
  rw [plain, clean_of_visible visible, split, List.map_cons, first]
  cases lines with
  | nil => exact ⟨piece ++ v, List.intercalate_singleton⟩
  | cons next lines => exact ⟨_, List.append_assoc t _ _⟩

/-- A visible text is shown as it is. -/
theorem plain_of_visible (visible : Visible t) : plain t = t := by
  have cleaned : clean t = t := by
    have whole : clean (t ++ []) = t ++ [] := clean_of_visible visible []
    rwa [List.append_nil] at whole
  have expanded : withoutTabs t = t := by
    rw [withoutTabs, Text.splitOn_of_not_mem (visible.not_mem (by decide)), expandTabs]
  rw [plain, cleaned, Text.splitOn_of_not_mem (visible.not_mem (by decide)), List.map_singleton, expanded]
  exact List.intercalate_singleton

theorem printable_hexDigits (width n : Nat) : Printable (hexDigits width n) := by
  induction width generalizing n with
  | zero => exact fun p none => absurd none List.not_mem_nil
  | succ width ih =>
    refine (ih (n / 16)).append fun p last => ?_
    obtain rfl := List.mem_singleton.mp last
    have bound : n % 16 < 16 := Nat.mod_lt n (by decide)
    rw [isPrintable, hexDigit_toNat bound, Bool.and_eq_true, decide_eq_true_eq, decide_eq_true_eq]
    split <;> omega

theorem visible_quotedPoint {quote : CodePoint} (above : 0x20 ≤ quote.toNat) (p : CodePoint) :
    Visible (Text.quotedPoint quote p) := by
  unfold Text.quotedPoint
  dsimp only
  split
  · rename_i escaped
    intro q member
    rcases List.mem_cons.mp member with rfl | last
    · decide
    · obtain rfl := List.mem_singleton.mp last
      rcases escaped with rfl | rfl
      · exact above
      · decide
  split
  · decide
  split
  · decide
  split
  · decide
  split
  · rename_i shown
    intro q member
    obtain rfl := List.mem_singleton.mp member
    unfold Unicode.isPrintable at shown
    dsimp only at shown
    split at shown
    · rw [Bool.and_eq_true, decide_eq_true_eq] at shown
      exact shown.1
    · omega
  split
  · exact Visible.append (by decide) (printable_hexDigits 2 _).visible
  split
  · exact Visible.append (by decide) (printable_hexDigits 4 _).visible
  · exact Visible.append (by decide) (printable_hexDigits 8 _).visible

/-- Quoting escapes every control code. -/
theorem visible_quoted (t : Text) : Visible t.quoted := by
  have above : 0x20 ≤ (Text.quoteFor t).toNat := by
    unfold Text.quoteFor
    split <;> decide
  intro p member
  rcases List.mem_append.mp member with inside | last
  · rcases List.mem_cons.mp inside with rfl | within
    · exact above
    · obtain ⟨q, _, shown⟩ := List.mem_flatMap.mp within
      exact visible_quotedPoint above q p shown
  · obtain rfl := List.mem_singleton.mp last
    exact above

end ProxyControl.Terminal
