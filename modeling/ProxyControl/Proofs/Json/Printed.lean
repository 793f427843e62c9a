import ProxyControl.Proofs.Json.Expressed

namespace ProxyControl

theorem Terminal.Printable.isUnicode {t : Text} (printable : Terminal.Printable t) : t.IsUnicode := by
  intro p member
  have bounds := printable p member
  rw [Terminal.isPrintable, Bool.and_eq_true, decide_eq_true_eq, decide_eq_true_eq] at bounds
  rw [CodePoint.isScalar_iff]
  omega

namespace Json

theorem integersInItems_eq_flatMap (items : List Json) : integersInItems items = items.flatMap integers := by
  induction items with
  | nil => rfl
  | cons item items ih => rw [integersInItems, ih, List.flatMap_cons]

theorem integersInMembers_eq_flatMap (members : List (Text × Json)) :
    integersInMembers members = members.flatMap fun entry => integers entry.2 := by
  induction members with
  | nil => rfl
  | cons entry members ih => rw [integersInMembers, ih, List.flatMap_cons]

/-- The integers of a value that can be read back have their digits. -/
theorem Readable.printable {asciiOnly : Bool} {v : Json} (readable : Readable asciiOnly v) :
    ∀ n ∈ v.integers, Printable n := by
  induction readable with
  | null => exact nofun
  | bool b => exact nofun
  | int printable =>
    intro n only
    obtain rfl := List.mem_singleton.mp only
    exact printable
  | text _ => exact nofun
  | list _ ih =>
    rw [integers, integersInItems_eq_flatMap]
    intro n member
    obtain ⟨item, inside, here⟩ := List.mem_flatMap.mp member
    exact ih item inside n here
  | object _ _ _ ih =>
    rw [integers, integersInMembers_eq_flatMap]
    intro n member
    obtain ⟨entry, inside, here⟩ := List.mem_flatMap.mp member
    exact ih entry inside n here

theorem isUnicode_lineStart (depth : Nat) : (lineStart depth).IsUnicode := by
  intro p member
  rcases List.mem_cons.mp member with rfl | tab
  · rfl
  · rw [List.eq_of_mem_replicate tab]
    rfl

mutual

/-- Over several lines a value is written in ASCII, and so it can be written anywhere. -/
theorem isUnicode_renderIndented (depth : Nat) : ∀ v : Json, (renderIndented depth v).IsUnicode
  | .null => (by decide : Text.IsUnicode "null")
  | .bool true => (by decide : Text.IsUnicode "true")
  | .bool false => (by decide : Text.IsUnicode "false")
  | .int n => (printable_ofInt n).isUnicode
  | .float x => (written_floatText x).2.isUnicode
  | .text t => (printable_literal t).isUnicode
  | .list [] => (by decide : Text.IsUnicode "[]")
  | .object [] => (by decide : Text.IsUnicode "\x7b\x7d")
  | .list (item :: items) => by
    have inner := isUnicode_renderIndentedItems (depth + 1) (item :: items)
    rw [renderIndented]
    · exact ((Text.IsUnicode.append (by decide) inner).append (isUnicode_lineStart depth)).append (by decide)
    · exact List.cons_ne_nil item items
  | .object (entry :: members) => by
    have inner := isUnicode_renderIndentedMembers (depth + 1) (entry :: members)
    rw [renderIndented]
    · exact ((Text.IsUnicode.append (by decide) inner).append (isUnicode_lineStart depth)).append (by decide)
    · exact List.cons_ne_nil entry members

theorem isUnicode_renderIndentedItems (depth : Nat) : ∀ items : List Json, (renderIndentedItems depth items).IsUnicode
  | [] => .nil
  | [last] => (isUnicode_lineStart depth).append (isUnicode_renderIndented depth last)
  | item :: next :: rest => by
    have here := (isUnicode_lineStart depth).append (isUnicode_renderIndented depth item)
    rw [renderIndentedItems]
    · exact (here.append (by decide)).append (isUnicode_renderIndentedItems depth (next :: rest))
    · exact List.cons_ne_nil next rest

theorem isUnicode_renderIndentedMembers (depth : Nat) :
    ∀ members : List (Text × Json), (renderIndentedMembers depth members).IsUnicode
  | [] => .nil
  | [(key, last)] =>
    (((isUnicode_lineStart depth).append (printable_literal key).isUnicode).append (by decide)).append
      (isUnicode_renderIndented depth last)
  | (key, value) :: next :: rest => by
    have here := (((isUnicode_lineStart depth).append (printable_literal key).isUnicode).append
      (by decide : Text.IsUnicode ": ")).append (isUnicode_renderIndented depth value)
    rw [renderIndentedMembers]
    · exact (here.append (by decide)).append (isUnicode_renderIndentedMembers depth (next :: rest))
    · exact List.cons_ne_nil next rest

end

end Json

end ProxyControl
