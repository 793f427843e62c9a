import ProxyControl.Proofs.Outcome
import ProxyControl.Yaml.Document

namespace ProxyControl.Yaml.Node

/-- A node is the tree itself, or lies in an item, a key or a value of it. -/
inductive Within (part : Node) : Node → Prop where
  | self : Within part part
  | item {tag : Text} {items : List Node} {mark : Mark} {item : Node} (member : item ∈ items)
      (inside : Within part item) : Within part (sequence tag items mark)
  | key {tag : Text} {entries : List (Node × Node)} {mark : Mark} {key value : Node} (member : (key, value) ∈ entries)
      (inside : Within part key) : Within part (mapping tag entries mark)
  | value {tag : Text} {entries : List (Node × Node)} {mark : Mark} {key value : Node}
      (member : (key, value) ∈ entries) (inside : Within part value) : Within part (mapping tag entries mark)

theorem Within.trans {part node root : Node} (inner : part.Within node) (outer : node.Within root) :
    part.Within root := by
  induction outer with
  | self => exact inner
  | item member _ ih => exact .item member ih
  | key member _ ih => exact .key member ih
  | value member _ ih => exact .value member ih

/-- An entry that a mapping of the tree ends up with. Its key is a part of the tree, or the text that a key `=` has
become. -/
structure Drawn (root : Node) (entry : Node × Node) : Prop where
  key : entry.1.Within root ∨ ∃ t, entry.1.plainDatum? = .ok (some (.text t))
  value : entry.2.Within root

theorem plainDatum?_text (content : Text) (mark : Mark) :
    (scalar (commonTag "str") content mark).plainDatum? = .ok (some (.text content)) := by
  rw [plainDatum?]
  rfl

variable {root node : Node} {misreading : Misreading}

theorem drawn_asKey {key value : Node} (keyInside : key.Within root) (valueInside : value.Within root) :
    Drawn root (key.asKey, value) := by
  refine ⟨?_, valueInside⟩
  cases key with
  | scalar tag content mark =>
    by_cases isValue : tag = commonTag "value"
    · refine .inr ⟨content, ?_⟩
      simp only [asKey, if_pos isValue]
      exact plainDatum?_text content mark
    · simp only [asKey, if_neg isValue]
      exact .inl keyInside
  | sequence tag items mark => exact .inl keyInside
  | mapping tag entries mark => exact .inl keyInside
  | enclosing isMapping mark => exact .inl keyInside

theorem within_entries {tag : Text} {entries : List (Node × Node)} {mark : Mark}
    (inside : (mapping tag entries mark).Within root) :
    ∀ entry ∈ entries, entry.1.Within root ∧ entry.2.Within root := fun (_, _) member =>
  ⟨(Within.key member .self).trans inside, (Within.value member .self).trans inside⟩

theorem within_items {tag : Text} {items : List Node} {mark : Mark}
    (inside : (sequence tag items mark).Within root) : ∀ item ∈ items, item.Within root := fun _ member =>
  (Within.item member .self).trans inside

mutual

/-- Merging moves the entries of a tree about, and adds none of its own. -/
theorem splitMerges_drawn {start : Mark} {around : List Mark} {merged own : List (Node × Node)}
    (entries : List (Node × Node)) (inside : ∀ entry ∈ entries, entry.1.Within root ∧ entry.2.Within root)
    (run : splitMerges start around entries = .ok (merged, own)) : ∀ entry ∈ merged ++ own, Drawn root entry := by
  match entries with
  | [] =>
    rw [splitMerges] at run
    cases run
    simp
  | (key, value) :: rest =>
    have here := inside _ List.mem_cons_self
    have later : ∀ entry ∈ rest, entry.1.Within root ∧ entry.2.Within root := fun entry member =>
      inside entry (List.mem_cons_of_mem _ member)
    rw [splitMerges] at run
    split at run
    · -- The merge key itself is dropped; what it brings comes out of its value.
      obtain ⟨more, merging, run⟩ := bind_eq_ok.mp run
      obtain ⟨⟨merged', own'⟩, splitting, run⟩ := bind_eq_ok.mp run
      cases run
      intro entry member
      rw [List.append_assoc] at member
      rcases List.mem_append.mp member with first | others
      · exact mergedFrom_drawn value here.2 merging entry first
      · exact splitMerges_drawn rest later splitting entry others
    · obtain ⟨⟨merged', own'⟩, splitting, run⟩ := bind_eq_ok.mp run
      cases run
      intro entry member
      have others := splitMerges_drawn rest later splitting entry
      rcases List.mem_append.mp member with first | member
      · exact others (List.mem_append_left _ first)
      rcases List.mem_cons.mp member with rfl | member
      · exact drawn_asKey here.1 here.2
      · exact others (List.mem_append_right _ member)
termination_by structural entries

theorem mergedFrom_drawn {start : Mark} {around : List Mark} {found : List (Node × Node)}
    (node : Node) (inside : node.Within root) (run : mergedFrom start around node = .ok found) :
    ∀ entry ∈ found, Drawn root entry := by
  match node with
  | mapping tag entries mark =>
    rw [mergedFrom] at run
    obtain ⟨⟨merged, own⟩, splitting, run⟩ := bind_eq_ok.mp run
    cases run
    exact splitMerges_drawn entries (within_entries inside) splitting
  | sequence tag items mark =>
    rw [mergedFrom] at run
    exact mergedFromItems_drawn items (within_items inside) run
  | scalar tag content mark =>
    rw [mergedFrom] at run
    · simp [isOneOf] at run
    all_goals nofun
  | enclosing isMapping mark =>
    rw [mergedFrom] at run
    · split at run
      · cases run
        simp
      · cases run
    all_goals nofun
termination_by structural node

theorem mergedFromItems_drawn {start : Mark} {around : List Mark} {found : List (Node × Node)}
    (items : List Node) (inside : ∀ item ∈ items, item.Within root)
    (run : mergedFromItems start around items = .ok found) : ∀ entry ∈ found, Drawn root entry := by
  match items with
  | [] =>
    rw [mergedFromItems] at run
    cases run
    simp
  | mapping tag entries mark :: rest =>
    rw [mergedFromItems] at run
    obtain ⟨⟨merged, own⟩, splitting, run⟩ := bind_eq_ok.mp run
    obtain ⟨others, merging, run⟩ := bind_eq_ok.mp run
    cases run
    intro entry member
    rw [List.append_assoc] at member
    rcases List.mem_append.mp member with later | first
    · exact mergedFromItems_drawn rest (fun item member => inside item (List.mem_cons_of_mem _ member)) merging entry
        later
    · exact splitMerges_drawn entries (within_entries (inside _ List.mem_cons_self)) splitting entry first
  | scalar tag content mark :: rest =>
    rw [mergedFromItems] at run
    · simp [isOneOf] at run
    all_goals nofun
  | sequence tag content mark :: rest =>
    rw [mergedFromItems] at run
    · simp [isOneOf] at run
    all_goals nofun
  | enclosing isMapping mark :: rest =>
    rw [mergedFromItems] at run
    · split at run
      · exact mergedFromItems_drawn rest (fun item member => inside item (List.mem_cons_of_mem _ member)) run
      · cases run
    all_goals nofun
termination_by structural items

end

theorem singleEntries_drawn {doing : Text} {start : Mark} {items : List Node} {found : List (Node × Node)}
    (inside : ∀ item ∈ items, item.Within root) (run : singleEntries doing start items = .ok found) :
    ∀ entry ∈ found, Drawn root entry := by
  fun_induction singleEntries doing start items generalizing found with
  | case1 =>
    cases run
    simp
  | case2 tag entry mark rest ih =>
    obtain ⟨others, single, run⟩ := bind_eq_ok.mp run
    cases run
    intro other member
    rcases List.mem_cons.mp member with rfl | later
    · have both := within_entries (inside _ List.mem_cons_self) other List.mem_cons_self
      exact ⟨.inl both.1, both.2⟩
    · exact ih (fun item member => inside item (List.mem_cons_of_mem _ member)) single other later
  | case3 tag entries mark rest many => cases run
  | case4 other rest notMapping => cases run

theorem flatten_drawn {tag : Text} {entries : List (Node × Node)} {mark : Mark} {found : List (Node × Node)}
    (inside : (mapping tag entries mark).Within root) (run : flatten mark entries = .ok found) :
    ∀ entry ∈ found, Drawn root entry := by
  obtain ⟨⟨merged, own⟩, splitting, run⟩ := bind_eq_ok.mp run
  cases run
  exact splitMerges_drawn entries (within_entries inside) splitting

theorem keyed_drawn {entries : List (Node × Node)} (drawn : ∀ entry ∈ entries, Drawn root entry) :
    ∀ part ∈ keyed entries, part.2.Within root ∧ ∀ key ∈ part.1, Drawn root (key, part.2) := by
  intro part member
  obtain ⟨entry, source, rfl⟩ := List.mem_map.mp member
  refine ⟨(drawn entry source).value, fun key same => ?_⟩
  cases same
  exact drawn entry source

/-- The parts of a collection of the tree are parts of the tree, but for keys that are read as text. -/
theorem parts_drawn {found : List (Option Node × Node)} (inside : node.Within root) (run : node.parts = .ok found) :
    ∀ part ∈ found, part.2.Within root ∧ ∀ key ∈ part.1, Drawn root (key, part.2) := by
  unfold parts at run
  split at run
  · cases run
    simp
  · cases run
    simp
  · cases run
    intro part member
    obtain ⟨item, source, rfl⟩ := List.mem_map.mp member
    exact ⟨within_items inside item source, by simp⟩
  · cases run
  · obtain ⟨entries, flat, run⟩ := bind_eq_ok.mp run
    cases run
    exact keyed_drawn (flatten_drawn inside flat)
  · obtain ⟨entries, flat, run⟩ := bind_eq_ok.mp run
    cases run
    exact keyed_drawn (flatten_drawn inside flat)
  · cases run
  · cases run
  · obtain ⟨entries, single, run⟩ := bind_eq_ok.mp run
    cases run
    exact keyed_drawn (singleEntries_drawn (within_items inside) single)
  · cases run

/-- A scalar of the tree is not read: its text does not suit its tag. -/
def Misreads (root : Node) (misreading : Misreading) : Prop :=
  ∃ part : Node, part.Within root ∧ part.plainDatum? = .error (.misread misreading)

theorem Drawn.misreads {entry : Node × Node} (drawn : Drawn root entry)
    (run : entry.1.plainDatum? = .error (.misread misreading)) : Misreads root misreading := by
  rcases drawn.key with inside | ⟨t, isText⟩
  · exact ⟨entry.1, inside, run⟩
  · rw [isText] at run
    cases run

theorem lift_eq_ok {α : Type} {x : Except Located α} {a : α} :
    (liftM x : Except Obstacle α) = .ok a ↔ x = .ok a := mapError_eq_ok

theorem lift_ne_misread {α : Type} {x : Except Located α} :
    (liftM x : Except Obstacle α) ≠ .error (.misread misreading) := by
  intro run
  obtain ⟨_, _, same⟩ := mapError_eq_error.mp run
  cases same

theorem unchecked_eq_ok {found : List Node} (run : node.unchecked = .ok found) :
    ∀ part ∈ found, part = node ∧ node.plainDatum? = .ok none := by
  obtain ⟨datum, read, run⟩ := bind_eq_ok.mp run
  cases run
  cases datum with
  | none => simp [read]
  | some datum => simp

theorem unchecked_misread (run : node.unchecked = .error (.misread misreading)) :
    node.plainDatum? = .error (.misread misreading) := by
  rcases bind_eq_error.mp run with fails | ⟨_, _, impossible⟩
  · exact fails
  · cases impossible

theorem checkPart_misread {part : Option Node × Node}
    (value : part.2.Within root) (keys : ∀ key ∈ part.1, Drawn root (key, part.2))
    (run : node.checkPart part = .error (.misread misreading)) : Misreads root misreading := by
  obtain ⟨none | key, content⟩ := part
  · exact ⟨content, value, unchecked_misread run⟩
  · rcases bind_eq_error.mp run with fails | ⟨inner, _, run⟩
    · rcases bind_eq_error.mp fails with fails | ⟨inner, _, fails⟩
      · exact (keys key rfl).misreads (unchecked_misread fails)
      · split at fails
        · cases fails
        · cases fails
    · rcases bind_eq_error.mp run with fails | ⟨_, _, impossible⟩
      · exact ⟨content, value, unchecked_misread fails⟩
      · cases impossible

theorem Drawn.within {entry : Node × Node} (drawn : Drawn root entry)
    (collection : entry.1.plainDatum? = .ok none) : entry.1.Within root := by
  rcases drawn.key with inside | ⟨t, isText⟩
  · exact inside
  · rw [isText] at collection
    cases collection

theorem checkPart_within {part : Option Node × Node} {inner : List Node}
    (value : part.2.Within root) (keys : ∀ key ∈ part.1, Drawn root (key, part.2))
    (run : node.checkPart part = .ok inner) : ∀ found ∈ inner, found.Within root := by
  obtain ⟨none | key, content⟩ := part
  · intro found member
    rw [(unchecked_eq_ok run found member).1]
    exact value
  · obtain ⟨ofKey, checked, run⟩ := bind_eq_ok.mp run
    obtain ⟨ofValue, unread, run⟩ := bind_eq_ok.mp run
    cases run
    intro found member
    rcases List.mem_append.mp member with isKey | isValue
    · obtain ⟨keyFound, keyRun, checked⟩ := bind_eq_ok.mp checked
      split at checked
      · cases checked
      cases checked
      obtain ⟨rfl, collection⟩ := unchecked_eq_ok keyRun found isKey
      exact (keys found rfl).within collection
    · rw [(unchecked_eq_ok unread found isValue).1]
      exact value

theorem checkParts_misread (inside : node.Within root)
    (run : node.checkParts = .error (.misread misreading)) : Misreads root misreading := by
  rcases bind_eq_error.mp run with fails | ⟨parts, found, run⟩
  · exact absurd fails lift_ne_misread
  rcases bind_eq_error.mp run with fails | ⟨_, _, impossible⟩
  · obtain ⟨part, member, fails⟩ := mapM_eq_error fails
    obtain ⟨value, keys⟩ := parts_drawn inside (lift_eq_ok.mp found) part member
    exact checkPart_misread value keys fails
  · cases impossible

theorem checkParts_within {inner : List Node} (inside : node.Within root)
    (run : node.checkParts = .ok inner) : ∀ found ∈ inner, found.Within root := by
  obtain ⟨parts, found, run⟩ := bind_eq_ok.mp run
  obtain ⟨lists, each, run⟩ := bind_eq_ok.mp run
  cases run
  intro node member
  obtain ⟨list, isList, member⟩ := List.mem_flatten.mp member
  obtain ⟨part, isPart, checked⟩ := mapM_eq_ok each list isList
  obtain ⟨value, keys⟩ := parts_drawn inside (lift_eq_ok.mp found) part isPart
  exact checkPart_within value keys checked node member

/-- A level stays in the tree from one round to the next. -/
theorem checkLevels_misread {level : List Node} {fuel : Nat}
    (inside : ∀ node ∈ level, node.Within root) (run : checkLevels level fuel = .error (.misread misreading)) :
    Misreads root misreading := by
  induction fuel generalizing level with
  | zero => cases run
  | succ fuel ih =>
    rw [checkLevels] at run
    rcases bind_eq_error.mp run with fails | ⟨inner, each, run⟩
    · obtain ⟨node, member, fails⟩ := mapM_eq_error fails
      exact checkParts_misread (inside node member) fails
    · split at run
      · cases run
      refine ih (fun part member => ?_) run
      obtain ⟨list, isList, member⟩ := List.mem_flatten.mp member
      obtain ⟨node, isNode, checked⟩ := mapM_eq_ok each list isList
      exact checkParts_within (inside node isNode) checked part member

/-- A part of a collection that is not read is a part of the tree, for texts are always read. -/
theorem partData_misread {read : Node → Except Obstacle Datum} {part : Option Node × Node}
    (reads : ∀ node : Node, node.Within root → read node = .error (.misread misreading) → Misreads root misreading)
    (texts : ∀ node t, node.plainDatum? = .ok (some (.text t)) → read node ≠ .error (.misread misreading))
    (value : part.2.Within root) (keys : ∀ key ∈ part.1, Drawn root (key, part.2))
    (run : partData read part = .error (.misread misreading)) : Misreads root misreading := by
  obtain ⟨none | key, content⟩ := part
  · rcases bind_eq_error.mp run with fails | ⟨_, _, impossible⟩
    · exact reads content value fails
    · cases impossible
  · rcases bind_eq_error.mp run with fails | ⟨datum, _, run⟩
    · rcases (keys key rfl).key with inside | ⟨t, isText⟩
      · exact reads key inside fails
      · exact absurd fails (texts key t isText)
    · rcases bind_eq_error.mp run with fails | ⟨_, _, impossible⟩
      · exact reads content value fails
      · cases impossible

theorem toDatum_text {t : Text} (isText : node.plainDatum? = .ok (some (.text t))) (fuel : Nat)
    (obstacle : Obstacle) : node.toDatum fuel ≠ .error obstacle := by
  cases fuel with
  | zero => nofun
  | succ fuel =>
    rw [toDatum, isText]
    nofun

theorem toDatum_misread {fuel : Nat} (inside : node.Within root)
    (run : node.toDatum fuel = .error (.misread misreading)) : Misreads root misreading := by
  induction fuel generalizing node with
  | zero => cases run
  | succ fuel ih =>
    rw [toDatum] at run
    rcases bind_eq_error.mp run with fails | ⟨datum, read, run⟩
    · exact ⟨node, inside, fails⟩
    split at run
    · cases run
    · cases run
    rcases bind_eq_error.mp run with fails | ⟨parts, found, run⟩
    · exact absurd fails lift_ne_misread
    rcases bind_eq_error.mp run with fails | ⟨_, _, impossible⟩
    · obtain ⟨part, member, fails⟩ := mapM_eq_error fails
      obtain ⟨value, keys⟩ := parts_drawn inside (lift_eq_ok.mp found) part member
      exact partData_misread (fun _ => ih) (fun _ _ isText => toDatum_text isText fuel _) value keys fails
    · cases impossible

/-- If a tree is not built because of a scalar that is not read, that scalar is in the tree. -/
theorem misreads_of_build (run : root.build = .error (.misread misreading)) : Misreads root misreading := by
  rcases bind_eq_error.mp run with fails | ⟨_, _, run⟩
  · exact ⟨root, .self, fails⟩
  rcases bind_eq_error.mp run with fails | ⟨_, _, fails⟩
  · exact checkLevels_misread (by simp [Within.self]) fails
  · exact toDatum_misread .self fails

end ProxyControl.Yaml.Node
