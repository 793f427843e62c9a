import Mathlib.Data.List.Forall2
import ProxyControl.Proofs.Json.Written
import ProxyControl.Proofs.Text.Split

namespace ProxyControl.Json

/-- A value that survives being written and read. Where code points beyond ASCII are escaped, that needs texts
without split pairs. -/
inductive Readable (asciiOnly : Bool) : Json → Prop
  | null : Readable asciiOnly null
  | bool (b : Bool) : Readable asciiOnly (bool b)
  | int {n : Int} (printable : Printable n) : Readable asciiOnly (int n)
  | text {t : Text} (unsplit : asciiOnly = true → Unsplit t) : Readable asciiOnly (text t)
  | list {items : List Json} (each : ∀ item ∈ items, Readable asciiOnly item) : Readable asciiOnly (list items)
  | object {members : List (Text × Json)} (keys : ∀ entry ∈ members, asciiOnly = true → Unsplit entry.1)
      (each : ∀ entry ∈ members, Readable asciiOnly entry.2) (distinct : (members.map Prod.fst).Nodup) :
      Readable asciiOnly (object members)

/-- A style that puts nothing but blanks after its commas and colons. -/
structure Style.Plain (style : Style) : Prop where
  item : ∃ gap, style.item = .char ',' :: gap ∧ Blank gap
  key : ∃ gap, style.key = .char ':' :: gap ∧ Blank gap

theorem plain_spaced : spaced.Plain :=
  ⟨⟨[.char ' '], rfl, by decide⟩, ⟨[.char ' '], rfl, by decide⟩⟩

theorem plain_wire : wire.Plain := ⟨⟨[], rfl, by decide⟩, ⟨[], rfl, by decide⟩⟩

theorem renderItems_eq_join (style : Style) (items : List Json) :
    renderItems style items = Text.join style.item (items.map (render style)) := by
  induction items with
  | nil => rfl
  | cons item items ih =>
    cases items with
    | nil => rw [renderItems, List.map_singleton, Text.join, List.intercalate_singleton]
    | cons next items =>
      rw [renderItems, ih, Text.join, Text.join, List.map_cons, List.map_cons, List.map_cons,
        List.intercalate_cons_cons]
      exact List.cons_ne_nil next items

/-- A member on one line. -/
def renderMember (style : Style) (entry : Text × Json) : Text :=
  literal style.asciiOnly entry.1 ++ style.key ++ render style entry.2

theorem renderMembers_eq_join (style : Style) (members : List (Text × Json)) :
    renderMembers style members = Text.join style.item (members.map (renderMember style)) := by
  induction members with
  | nil => rfl
  | cons entry members ih =>
    cases members with
    | nil => rw [renderMembers, List.map_singleton, Text.join, List.intercalate_singleton, renderMember]
    | cons next members =>
      rw [renderMembers, ih, Text.join, Text.join, List.map_cons, List.map_cons, List.map_cons,
        List.intercalate_cons_cons]
      · rfl
      · exact List.cons_ne_nil next members

/-- Items on one line are read as what each of them is read as. -/
theorem written_renderItems {style : Style} (plain : style.Plain) {items found : List Json} (nonempty : items ≠ [])
    (each : List.Forall₂ (fun item other => Written other (render style item)) items found) :
    WrittenItems found (renderItems style items) := by
  induction each with
  | nil => exact absurd rfl nonempty
  | @cons item other items found first each ih =>
    cases each with
    | nil =>
      rw [renderItems, ← List.append_nil (render style item)]
      exact .last first blank_nil
    | cons next each =>
      obtain ⟨gap, comma, blank⟩ := plain.item
      have more := ih (List.cons_ne_nil _ _)
      rw [renderItems, comma, List.append_assoc, List.cons_append]
      · exact .next first blank more
      · exact List.cons_ne_nil _ _

/-- A member is found under its key, and its value as something that is written as it is. -/
def FoundAs (style : Style) (entry other : Text × Json) : Prop :=
  other.1 = entry.1 ∧ Written other.2 (render style entry.2)

theorem written_renderMembers {style : Style} (plain : style.Plain) {members found : List (Text × Json)}
    (nonempty : members ≠ []) (keys : ∀ entry ∈ members, style.asciiOnly = true → Unsplit entry.1)
    (each : List.Forall₂ (FoundAs style) members found) : WrittenMembers found (renderMembers style members) := by
  induction each with
  | nil => exact absurd rfl nonempty
  | @cons entry other members found same each ih =>
    obtain ⟨key, value⟩ := entry
    obtain ⟨_, other⟩ := other
    obtain ⟨rfl, first⟩ : _ = key ∧ Written other (render style value) := same
    obtain ⟨colonGap, colon, blankColon⟩ := plain.key
    have unsplit := keys (_, value) List.mem_cons_self
    cases each with
    | nil =>
      rw [renderMembers, colon, List.append_assoc, List.cons_append, ← List.append_nil (render style value)]
      exact .last unsplit blankColon first blank_nil
    | cons next each =>
      obtain ⟨gap, comma, blank⟩ := plain.item
      have more := ih (List.cons_ne_nil _ _) fun entry member => keys entry (List.mem_cons_of_mem _ member)
      rw [renderMembers, colon, comma]
      · simp only [List.append_assoc, List.cons_append]
        exact .next unsplit blankColon first blank more
      · exact List.cons_ne_nil _ _

/-- On one line, a readable value is written as its format has it. -/
theorem written_render {style : Style} (plain : style.Plain) {v : Json} (readable : Readable style.asciiOnly v) :
    Written v (render style v) := by
  induction readable with
  | null => exact .null
  | bool b => cases b with
    | false => exact .bool false
    | true => exact .bool true
  | int printable => exact .int printable
  | text unsplit => exact .text unsplit
  | @list items each ih =>
    by_cases empty : items = []
    · rw [empty]
      exact .emptyList
    · exact .list blank_nil (written_renderItems plain empty (List.forall₂_same.mpr ih))
  | @object members keys each distinct ih =>
    by_cases empty : members = []
    · rw [empty]
      exact .emptyObject
    · exact .object blank_nil (written_renderMembers plain empty keys
        (List.forall₂_same.mpr fun entry member => ⟨rfl, ih entry member⟩)) distinct

theorem blank_lineStart (depth : Nat) : Blank (lineStart depth) := by
  intro p member
  rcases List.mem_cons.mp member with rfl | tab
  · rfl
  · rw [List.eq_of_mem_replicate tab]
    rfl

/-- The items of an indented list, with what closes the list, begin on a line of their own. -/
theorem written_renderIndentedItems {depth : Nat} {items : List Json} {closing : Text} (nonempty : items ≠ [])
    (blank : Blank closing) (each : ∀ item ∈ items, Written item (renderIndented depth item)) :
    ∃ s, renderIndentedItems depth items ++ closing = lineStart depth ++ s ∧ WrittenItems items s := by
  induction items with
  | nil => exact absurd rfl nonempty
  | cons item items ih =>
    have first := each item List.mem_cons_self
    cases items with
    | nil =>
      refine ⟨renderIndented depth item ++ closing, ?_, .last first blank⟩
      rw [renderIndentedItems, List.append_assoc]
    | cons next items =>
      obtain ⟨more, shape, written⟩ := ih (List.cons_ne_nil next items)
        fun item member => each item (List.mem_cons_of_mem _ member)
      refine ⟨_, ?_, .next first (blank_lineStart depth) written⟩
      rw [renderIndentedItems, List.append_assoc, shape]
      · simp only [List.append_assoc]
        rfl
      · exact List.cons_ne_nil next items

theorem written_renderIndentedMembers {depth : Nat} {members : List (Text × Json)} {closing : Text}
    (nonempty : members ≠ []) (blank : Blank closing) (keys : ∀ entry ∈ members, Unsplit entry.1)
    (each : ∀ entry ∈ members, Written entry.2 (renderIndented depth entry.2)) :
    ∃ s, renderIndentedMembers depth members ++ closing = lineStart depth ++ s ∧ WrittenMembers members s := by
  induction members with
  | nil => exact absurd rfl nonempty
  | cons entry members ih =>
    obtain ⟨key, value⟩ := entry
    have unsplit : true = true → Unsplit key := fun _ => keys (key, value) List.mem_cons_self
    have first := each (key, value) List.mem_cons_self
    have space : Blank [.char ' '] := by decide
    cases members with
    | nil =>
      refine ⟨_, ?_, .last unsplit space first blank⟩
      rw [renderIndentedMembers]
      simp only [List.append_assoc]
      rfl
    | cons next members =>
      obtain ⟨more, shape, written⟩ := ih (List.cons_ne_nil next members)
        (fun entry member => keys entry (List.mem_cons_of_mem _ member))
        fun entry member => each entry (List.mem_cons_of_mem _ member)
      refine ⟨_, ?_, .next unsplit space first (blank_lineStart depth) written⟩
      rw [renderIndentedMembers, List.append_assoc, shape]
      · simp only [List.append_assoc]
        rfl
      · exact List.cons_ne_nil next members

/-- Over several lines, a readable value is written as its format has it. -/
theorem written_renderIndented {v : Json} (readable : Readable true v) (depth : Nat) :
    Written v (renderIndented depth v) := by
  induction readable generalizing depth with
  | null => exact .null
  | bool b => cases b with
    | false => exact .bool false
    | true => exact .bool true
  | int printable => exact .int printable
  | text unsplit => exact .text unsplit
  | @list items each ih =>
    cases items with
    | nil => exact .emptyList
    | cons item items =>
      obtain ⟨s, shape, written⟩ := written_renderIndentedItems (List.cons_ne_nil item items) (blank_lineStart depth)
        fun item member => ih item member (depth + 1)
      have whole := Written.list (blank_lineStart (depth + 1)) written
      rw [← List.append_assoc, ← shape] at whole
      rw [renderIndented]
      · simp only [List.append_assoc] at whole ⊢
        exact whole
      · exact List.cons_ne_nil item items
  | @object members keys each distinct ih =>
    cases members with
    | nil => exact .emptyObject
    | cons entry members =>
      obtain ⟨s, shape, written⟩ := written_renderIndentedMembers (List.cons_ne_nil entry members)
        (blank_lineStart depth) (fun entry member => keys entry member rfl)
        fun entry member => ih entry member (depth + 1)
      have whole := Written.object (blank_lineStart (depth + 1)) written distinct
      rw [← List.append_assoc, ← shape] at whole
      rw [renderIndented]
      · simp only [List.append_assoc] at whole ⊢
        exact whole
      · exact List.cons_ne_nil entry members

/-- Without escapes for code points beyond ASCII, a literal is Unicode only if its text is. -/
theorem isUnicode_of_literal {t : Text} (unicode : (literal false t).IsUnicode) : t.IsUnicode := by
  intro p member
  by_contra bare
  rw [CodePoint.isScalar_iff, not_not] at bare
  have itself : escapePoint false p = [p] := by
    rcases escapePoint_cases false p with ⟨c, _, meant, _⟩ | ⟨_, _, _, _, same⟩ | ⟨_, ascii | low, _⟩ | ⟨high, _⟩
    · have := simpleEscape?_lt meant
      omega
    · exact same
    · cases ascii
    · omega
    · omega
  have written : p ∈ literal false t := by
    refine List.mem_append_left _ (List.mem_cons_of_mem _ (List.mem_flatMap.mpr ⟨p, member, ?_⟩))
    rw [itself]
    exact List.mem_singleton_self p
  have scalar := unicode p written
  rw [CodePoint.isScalar_iff] at scalar
  exact scalar bare

/-- What is readable without escapes and is written as a Unicode text is readable with escapes as well. -/
theorem Readable.of_isUnicode {style : Style} {v : Json} (readable : Readable false v) (raw : style.asciiOnly = false)
    (unicode : (render style v).IsUnicode) {asciiOnly : Bool} : Readable asciiOnly v := by
  induction readable with
  | null => exact .null
  | bool b => exact .bool b
  | int printable => exact .int printable
  | text _ =>
    rw [render, raw] at unicode
    exact .text fun _ => unsplit_of_isUnicode (isUnicode_of_literal unicode)
  | @list items each ih =>
    refine .list fun item member => ih item member fun p inside => unicode p ?_
    rw [render, renderItems_eq_join]
    exact List.mem_append_left _ (List.mem_append_right _ (Text.mem_join inside (List.mem_map_of_mem member)))
  | @object members keys each distinct ih =>
    have shown (entry : Text × Json) (member : entry ∈ members) :
        ∀ p ∈ renderMember style entry, Text.isScalar p = true := by
      refine fun p inside => unicode p ?_
      rw [render, renderMembers_eq_join]
      exact List.mem_append_left _ (List.mem_append_right _ (Text.mem_join inside (List.mem_map_of_mem member)))
    refine .object (fun entry member _ => ?_) (fun entry member => ih entry member fun p inside => ?_) distinct
    · refine unsplit_of_isUnicode (isUnicode_of_literal fun p inside => shown entry member p ?_)
      rw [renderMember, raw]
      exact List.mem_append_left _ (List.mem_append_left _ inside)
    · exact shown entry member p (List.mem_append_right _ inside)

/-- What is written on one line is read back as it was, unless it goes too deep. -/
theorem parse_render {style : Style} (plain : style.Plain) {v : Json} (readable : Readable style.asciiOnly v)
    (shallow : Shallow nestingLimit v) : parse (render style v) = .ok v := by
  have whole := parse_of_written (written_render plain readable) shallow blank_nil
  rwa [List.append_nil] at whole

theorem parse_renderIndented {v : Json} {gap : Text} (readable : Readable true v) (shallow : Shallow nestingLimit v)
    (blank : Blank gap) : parse (renderIndented 0 v ++ gap) = .ok v :=
  parse_of_written (written_renderIndented readable 0) shallow blank

end ProxyControl.Json
