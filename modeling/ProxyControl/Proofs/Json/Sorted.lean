import Mathlib.Data.List.Forall2
import ProxyControl.Proofs.Json.Rendered

namespace ProxyControl

theorem Text.le_total (t u : Text) : (t.le u || u.le t) = true := by
  induction t generalizing u with
  | nil => rfl
  | cons p t ih =>
    cases u with
    | nil => rfl
    | cons q u =>
      have rest := ih u
      simp only [Bool.or_eq_true] at rest
      simp only [le, Bool.or_eq_true, Bool.and_eq_true, decide_eq_true_eq, beq_iff_eq]
      rcases Nat.lt_trichotomy p.toNat q.toNat with less | same | more
      · exact .inl (.inl less)
      · rcases rest with first | second
        · exact .inl (.inr ⟨same, first⟩)
        · exact .inr (.inr ⟨same.symm, second⟩)
      · exact .inr (.inl more)

theorem Text.le_trans {t u v : Text} (first : t.le u = true) (second : u.le v = true) : t.le v = true := by
  induction t generalizing u v with
  | nil => rfl
  | cons p t ih =>
    cases u with
    | nil => cases first
    | cons q u =>
      cases v with
      | nil => cases second
      | cons r v =>
        simp only [le, Bool.or_eq_true, Bool.and_eq_true, decide_eq_true_eq, beq_iff_eq] at first second ⊢
        rcases first with below | ⟨same, first⟩
        · rcases second with above | ⟨equal, _⟩
          · exact .inl (Nat.lt_trans below above)
          · exact .inl (equal ▸ below)
        · rcases second with above | ⟨equal, second⟩
          · exact .inl (same ▸ above)
          · exact .inr ⟨same.trans equal, ih first second⟩

namespace Json

/-- The same value, but the members of its objects may stand in another order. -/
inductive Reordered : Json → Json → Prop
  | refl (v : Json) : Reordered v v
  | list {items others : List Json} (each : List.Forall₂ Reordered items others) : Reordered (list items) (list others)
  | object {members others order : List (Text × Json)} (keys : others.map Prod.fst = members.map Prod.fst)
      (each : List.Forall₂ Reordered (members.map Prod.snd) (others.map Prod.snd)) (perm : others.Perm order) :
      Reordered (object members) (object order)

/-- The members of every object stand in the order of their keys. -/
inductive KeysSorted : Json → Prop
  | null : KeysSorted null
  | bool (b : Bool) : KeysSorted (bool b)
  | int (n : Int) : KeysSorted (int n)
  | float (x : Binary64) : KeysSorted (float x)
  | text (t : Text) : KeysSorted (text t)
  | list {items : List Json} (each : ∀ item ∈ items, KeysSorted item) : KeysSorted (list items)
  | object {members : List (Text × Json)} (each : ∀ entry ∈ members, KeysSorted entry.2)
      (sorted : members.Pairwise fun entry later => entry.1.le later.1 = true) : KeysSorted (object members)

theorem sortKeysInItems_eq_map (items : List Json) : sortKeysInItems items = items.map sortKeys := by
  induction items with
  | nil => rfl
  | cons item items ih => rw [sortKeysInItems, ih, List.map_cons]

theorem sortKeysInMembers_eq_map (members : List (Text × Json)) :
    sortKeysInMembers members = members.map fun entry => (entry.1, entry.2.sortKeys) := by
  induction members with
  | nil => rfl
  | cons entry members ih => rw [sortKeysInMembers, ih, List.map_cons]

theorem sortKeysInMembers_keys (members : List (Text × Json)) :
    (sortKeysInMembers members).map Prod.fst = members.map Prod.fst := by
  rw [sortKeysInMembers_eq_map, List.map_map]
  rfl

/-- The order that members are brought into. -/
def byKey (entry later : Text × Json) : Bool := entry.1.le later.1

theorem sortKeys_object (members : List (Text × Json)) :
    sortKeys (object members) = object ((sortKeysInMembers members).mergeSort byKey) := by
  rw [sortKeys]
  rfl

theorem mem_sorted {members : List (Text × Json)} {entry : Text × Json} :
    entry ∈ (sortKeysInMembers members).mergeSort byKey ↔
      ∃ source ∈ members, (source.1, source.2.sortKeys) = entry := by
  rw [List.mem_mergeSort, sortKeysInMembers_eq_map, List.mem_map]

theorem nodup_keys_sorted {members : List (Text × Json)} (distinct : (members.map Prod.fst).Nodup) :
    (((sortKeysInMembers members).mergeSort byKey).map Prod.fst).Nodup := by
  rw [((List.mergeSort_perm _ _).map Prod.fst).nodup_iff, sortKeysInMembers_keys]
  exact distinct

theorem lookup_eq_some_iff_mem {key : Text} {value : Json} {members : List (Text × Json)}
    (distinct : (members.map Prod.fst).Nodup) : members.lookup key = some value ↔ (key, value) ∈ members := by
  induction members with
  | nil => exact iff_of_false (Option.some_ne_none value).symm List.not_mem_nil
  | cons entry members ih =>
    obtain ⟨k, v⟩ := entry
    rw [List.map_cons, List.nodup_cons] at distinct
    rw [List.mem_cons, Prod.mk.injEq]
    by_cases same : key = k
    · subst same
      have absent : (key, value) ∉ members := fun member => distinct.1 (List.mem_map.mpr ⟨_, member, rfl⟩)
      rw [List.lookup_cons_self, Option.some.injEq]
      exact ⟨fun equal => .inl ⟨rfl, equal.symm⟩, fun found => (found.resolve_right absent).2.symm⟩
    · rw [List.lookup_cons, beq_eq_false_iff_ne.mpr same]
      exact (ih distinct.2).trans ⟨.inr, fun found => found.resolve_left fun first => same first.1⟩

/-- Sorting keeps what stands under a key, itself sorted. -/
theorem member?_sortKeys {members : List (Text × Json)} (distinct : (members.map Prod.fst).Nodup) (key : Text) :
    (object members).sortKeys.member? key = ((object members).member? key).map sortKeys := by
  rw [sortKeys_object]
  refine Option.ext fun value => ?_
  rw [member?, lookup_eq_some_iff_mem (nodup_keys_sorted distinct), mem_sorted, Option.map_eq_some_iff]
  constructor
  · rintro ⟨⟨_, source⟩, member, same⟩
    cases same
    exact ⟨source, (lookup_eq_some_iff_mem distinct).mpr member, rfl⟩
  · rintro ⟨source, found, rfl⟩
    exact ⟨(key, source), (lookup_eq_some_iff_mem distinct).mp found, rfl⟩

variable {asciiOnly : Bool} {v : Json}

theorem Readable.sortKeys (readable : Readable asciiOnly v) : Readable asciiOnly v.sortKeys := by
  induction readable with
  | null => exact .null
  | bool b => exact .bool b
  | int printable => exact .int printable
  | text unsplit => exact .text unsplit
  | list each ih =>
    rw [Json.sortKeys, sortKeysInItems_eq_map]
    refine .list fun item member => ?_
    obtain ⟨source, found, rfl⟩ := List.mem_map.mp member
    exact ih source found
  | @object members keys each distinct ih =>
    rw [sortKeys_object]
    refine .object (fun entry member => ?_) (fun entry member => ?_) ?_
    · obtain ⟨source, found, rfl⟩ := mem_sorted.mp member
      exact keys source found
    · obtain ⟨source, found, rfl⟩ := mem_sorted.mp member
      exact ih source found
    · exact nodup_keys_sorted distinct

theorem Shallow.sortKeys {depth : Nat} (shallow : Shallow depth v) : Shallow depth v.sortKeys := by
  induction shallow with
  | null => exact .null
  | bool b => exact .bool b
  | int n => exact .int n
  | float x => exact .float x
  | text t => exact .text t
  | list each ih =>
    rw [Json.sortKeys, sortKeysInItems_eq_map]
    refine .list fun item member => ?_
    obtain ⟨source, found, rfl⟩ := List.mem_map.mp member
    exact ih source found
  | object each ih =>
    rw [sortKeys_object]
    refine .object fun entry member => ?_
    obtain ⟨source, found, rfl⟩ := mem_sorted.mp member
    exact ih source found

theorem Readable.reordered_sortKeys (readable : Readable asciiOnly v) : Reordered v v.sortKeys := by
  induction readable with
  | null => exact .refl _
  | bool b => exact .refl _
  | int printable => exact .refl _
  | text unsplit => exact .refl _
  | list each ih =>
    rw [Json.sortKeys, sortKeysInItems_eq_map]
    refine .list (List.forall₂_map_right_iff.mpr ?_)
    exact List.forall₂_same.mpr ih
  | @object members keys each distinct ih =>
    rw [sortKeys_object]
    refine .object (sortKeysInMembers_keys members) ?_ (List.mergeSort_perm _ _).symm
    rw [sortKeysInMembers_eq_map, List.map_map]
    refine List.forall₂_map_left_iff.mpr (List.forall₂_map_right_iff.mpr ?_)
    exact List.forall₂_same.mpr ih

theorem Readable.keysSorted_sortKeys (readable : Readable asciiOnly v) : KeysSorted v.sortKeys := by
  induction readable with
  | null => exact .null
  | bool b => exact .bool b
  | int printable => exact .int _
  | text unsplit => exact .text _
  | list each ih =>
    rw [Json.sortKeys, sortKeysInItems_eq_map]
    refine .list fun item member => ?_
    obtain ⟨source, found, rfl⟩ := List.mem_map.mp member
    exact ih source found
  | @object members keys each distinct ih =>
    rw [sortKeys_object]
    refine .object (fun entry member => ?_) ?_
    · obtain ⟨source, found, rfl⟩ := mem_sorted.mp member
      exact ih source found
    · have trans (a b c : Text × Json) (first : byKey a b = true) (second : byKey b c = true) : byKey a c = true :=
        Text.le_trans first second
      exact List.pairwise_mergeSort trans (fun a b => Text.le_total a.1 b.1) _

end Json

end ProxyControl
