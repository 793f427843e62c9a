import ProxyControl.Json.Value

namespace ProxyControl.Json

variable {key other : Text} {value : Json} {members : List (Text × Json)}

theorem setMember_of_not_mem (absent : key ∉ members.map Prod.fst) :
    setMember key value members = members ++ [(key, value)] := by
  induction members with
  | nil => rfl
  | cons entry members ih =>
    obtain ⟨k, v⟩ := entry
    simp only [List.map_cons, List.mem_cons, not_or] at absent
    rw [setMember, if_neg (Ne.symm absent.1), ih absent.2]
    rfl

theorem mem_setMember {entry : Text × Json} (member : entry ∈ setMember key value members) :
    entry = (key, value) ∨ entry ∈ members := by
  induction members with
  | nil => exact .inl (List.mem_singleton.mp member)
  | cons first members ih =>
    obtain ⟨k, v⟩ := first
    rw [setMember] at member
    split at member
    · rename_i same
      rcases List.mem_cons.mp member with rfl | old
      · exact .inl (by rw [same])
      · exact .inr (List.mem_cons_of_mem _ old)
    · rcases List.mem_cons.mp member with rfl | later
      · exact .inr List.mem_cons_self
      · exact (ih later).imp_right (List.mem_cons_of_mem _)

/-- Setting a member leaves the keys as they are, or adds one. -/
theorem nodup_setMember (distinct : (members.map Prod.fst).Nodup) :
    ((setMember key value members).map Prod.fst).Nodup := by
  induction members with
  | nil => simp [setMember]
  | cons first members ih =>
    obtain ⟨k, v⟩ := first
    rw [List.map_cons, List.nodup_cons] at distinct
    rw [setMember]
    split
    · exact List.nodup_cons.mpr distinct
    · rename_i differs
      refine List.nodup_cons.mpr ⟨fun member => ?_, ih distinct.2⟩
      obtain ⟨entry, inside, named⟩ := List.mem_map.mp member
      rcases mem_setMember inside with rfl | old
      · exact differs named.symm
      · exact distinct.1 (List.mem_map.mpr ⟨entry, old, named⟩)

theorem lookup_setMember_self : (setMember key value members).lookup key = some value := by
  induction members with
  | nil => exact List.lookup_cons_self
  | cons first members ih =>
    obtain ⟨k, v⟩ := first
    rw [setMember]
    split
    · rename_i same
      rw [same]
      exact List.lookup_cons_self
    · rename_i differs
      rw [List.lookup_cons, beq_eq_false_iff_ne.mpr (Ne.symm differs)]
      exact ih

theorem lookup_setMember_of_ne (apart : other ≠ key) :
    (setMember key value members).lookup other = members.lookup other := by
  induction members with
  | nil => rw [setMember, List.lookup_cons, beq_eq_false_iff_ne.mpr apart]
  | cons first members ih =>
    obtain ⟨k, v⟩ := first
    rw [setMember]
    split
    · rename_i same
      rw [List.lookup_cons, List.lookup_cons, same, beq_eq_false_iff_ne.mpr apart]
    · rw [List.lookup_cons, List.lookup_cons, ih]

end ProxyControl.Json
