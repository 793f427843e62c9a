import ProxyControl.Policy
import ProxyControl.Proofs.Json.Rendered
import ProxyControl.Proofs.Validation

namespace ProxyControl

open Json (Readable)

namespace Field

/-- What is left of a field once it was sent: a null stays away like a field that was left out. -/
def sent {α : Type} : Field α → Field α
  | value a => value a
  | _ => unset

def map {α β : Type} (f : α → β) : Field α → Field β
  | unset => unset
  | null => null
  | value a => value (f a)

/-- The value of a field in a document that gives it. -/
def given {α : Type} (encode : α → Json) : Field α → Option Json
  | unset => none
  | null => some .null
  | value a => some (encode a)

variable {α β : Type}

@[simp] theorem value?_sent (field : Field α) : field.sent.value? = field.value? := by cases field <;> rfl

@[simp] theorem value?_map (f : α → β) (field : Field α) : (field.map f).value? = field.value?.map f := by
  cases field <;> rfl

theorem value?_ofNested (nested : Option (Option α)) : (ofNested nested).value? = nested.join := by
  rcases nested with _ | _ | _ <;> rfl

theorem ofNested_value? (field : Field α) : ofNested (field.value?.map some) = field.sent := by cases field <;> rfl

end Field

theorem keys_optionalMember (key : Text) (value : Option Json) :
    ((optionalMember key value).map Prod.fst).Sublist [key] := by
  cases value with
  | none => exact List.nil_sublist _
  | some value => exact List.Sublist.refl _

theorem forall_mem_optionalMember {key : Text} {value : Option Json} {holds : Json → Prop} :
    (∀ entry ∈ optionalMember key value, holds entry.2) ↔ ∀ v ∈ value, holds v := by
  cases value with
  | none => simp [optionalMember]
  | some value => simp [optionalMember]

theorem lookup_optionalMember (key : Text) (value : Option Json) : (optionalMember key value).lookup key = value := by
  cases value with
  | none => rfl
  | some value => simp [optionalMember]

theorem lookup_optionalMember_of_ne {key other : Text} (differ : other ≠ key) (value : Option Json) :
    (optionalMember key value).lookup other = none := by
  cases value with
  | none => rfl
  | some value => simp [optionalMember, List.lookup_cons, beq_eq_false_iff_ne.mpr differ]

namespace Json

theorem lookup?_membersToData (key : Text) (members : List (Text × Json)) :
    Datum.lookup? key (membersToData members) = (member? key (object members)).map toDatum := by
  rw [member?]
  induction members with
  | nil => rfl
  | cons member members ih =>
    obtain ⟨k, value⟩ := member
    rw [membersToData, Datum.lookup?, List.lookup_cons]
    by_cases same : k = key
    · rw [if_pos same, beq_iff_eq.mpr same.symm]
      rfl
    · rw [if_neg same, beq_eq_false_iff_ne.mpr (Ne.symm same), ih]

variable {α β : Type} {members : List (Text × Json)} {check : Datum → Validation.Checked β}

/-- A field that is sent only with a value is read back as what became of the value. -/
theorem field_optional (back : α → β) {key : Text} {encode : α → Json} {given : Option α}
    (present : member? key (object members) = given.map encode)
    (reads : ∀ a, Validation.optional check (encode a).toDatum = .ok (some (back a))) :
    Validation.field [key] (Validation.optional check) (membersToData members) =
      .ok (given.map fun a => some (back a)) := by
  have found : Validation.find? [key] (membersToData members) = given.map fun a => (key, (encode a).toDatum) := by
    rw [Validation.find?, List.findSome?_cons, lookup?_membersToData, present]
    cases given with
    | none => rfl
    | some a => rfl
  rw [Validation.field, found]
  cases given with
  | none => rfl
  | some a =>
    change ((Validation.optional check (encode a).toDatum).map some).mapError _ = _
    rw [reads]
    rfl

theorem find?_of_lookup {key : Text} {others : List Text} {value : Json}
    (present : member? key (object members) = some value) :
    Validation.find? (key :: others) (membersToData members) = some (key, value.toDatum) := by
  rw [Validation.find?, List.findSome?_cons, lookup?_membersToData, present]
  rfl

theorem required_of_lookup {key : Text} {others : List Text} {value : Json} {b : β}
    (present : member? key (object members) = some value) (reads : check value.toDatum = .ok b) :
    Validation.required (key :: others) check (membersToData members) = .ok b := by
  rw [Validation.required, find?_of_lookup present]
  exact Validation.under_eq_ok.mpr reads

theorem field_of_lookup {key : Text} {others : List Text} {value : Json} {b : β}
    (present : member? key (object members) = some value) (reads : check value.toDatum = .ok b) :
    Validation.field (key :: others) check (membersToData members) = .ok (some b) := by
  rw [Validation.field, find?_of_lookup present]
  exact Validation.under_eq_ok.mpr (map_eq_ok.mpr ⟨b, reads, rfl⟩)

variable {key : Text} {names : List Text}

theorem find?_membersToData (names : List Text) (members : List (Text × Json)) :
    (Validation.find? names (membersToData members)).map Prod.snd =
      (names.findSome? fun name => member? name (object members)).map toDatum := by
  rw [Validation.find?]
  induction names with
  | nil => rfl
  | cons name names ih =>
    rw [List.findSome?_cons, List.findSome?_cons, lookup?_membersToData]
    cases member? name (object members) with
    | none => exact ih
    | some value => rfl

/-- A field that must be there is read from the first of its names. -/
theorem required_eq_ok {b : β} : Validation.required names check (membersToData members) = .ok b ↔
    ∃ value, (names.findSome? fun name => member? name (object members)) = some value ∧
      check value.toDatum = .ok b := by
  have found := find?_membersToData names members
  rw [Validation.required]
  split
  · rename_i missing
    rw [missing] at found
    have unnamed := Option.map_eq_none_iff.mp found.symm
    constructor
    · intro run
      cases Validation.under_eq_ok.mp run
    · rintro ⟨value, named, _⟩
      rw [unnamed] at named
      cases named
  · rename_i datum present
    rw [present] at found
    obtain ⟨value, named, rfl⟩ := Option.map_eq_some_iff.mp found.symm
    rw [Validation.under_eq_ok, named]
    constructor
    · intro run
      exact ⟨value, rfl, run⟩
    · rintro ⟨_, same, run⟩
      cases same
      exact run

theorem text_eq_ok {value : Json} {t : Text} : Validation.text value.toDatum = .ok t ↔ value = .text t := by
  constructor
  · intro run
    cases value with
    | text u =>
      cases run
      rfl
    | _ => cases run
  · rintro rfl
    rfl

/-- A text that must be there is that of its member. -/
theorem required_text_eq_ok {t : Text} :
    Validation.required [key] Validation.text (membersToData members) = .ok t ↔
      member? key (object members) = some (.text t) := by
  rw [required_eq_ok, List.findSome?_singleton]
  constructor
  · rintro ⟨value, named, read⟩
    rwa [← text_eq_ok.mp read]
  · intro named
    exact ⟨.text t, named, rfl⟩

/-- A text that may be left out or null is read as it was given. -/
theorem field_text_eq_ok {found : Option (Option Text)} :
    Validation.field [key] (Validation.optional Validation.text) (membersToData members) = .ok found ↔
      member? key (object members) = (Field.ofNested found).given .text := by
  have named := find?_membersToData [key] members
  rw [List.findSome?_singleton] at named
  rw [Validation.field]
  split
  · rename_i missing
    rw [missing] at named
    rw [Option.map_eq_none_iff.mp named.symm]
    rcases found with _ | _ | _ <;> simp [Field.ofNested, Field.given]
  · rename_i datum present
    rw [present] at named
    obtain ⟨value, there, rfl⟩ := Option.map_eq_some_iff.mp named.symm
    rw [Validation.under_eq_ok, map_eq_ok, there]
    constructor
    · rintro ⟨nested, read, rfl⟩
      cases value with
      | null =>
        cases read
        rfl
      | text t =>
        cases read
        rfl
      | _ => cases read
    · intro given
      rcases found with _ | _ | t
      · cases given
      · cases given
        exact ⟨none, rfl, rfl⟩
      · cases given
        exact ⟨some t, rfl, rfl⟩

/-- The value of a field in a document, unless it is null. -/
def present? (key : Text) (object : Json) : Option Json :=
  match object.member? key with
  | some .null => none
  | found => found

theorem present?_of_given {object : Json} {field : Field Text} (given : object.member? key = field.given .text) :
    present? key object = field.value?.map .text := by
  rw [present?, given]
  cases field <;> rfl

end Json

/-- An object whose keys are some of a few known names. -/
theorem Json.readable_object {asciiOnly : Bool} {members : List (Text × Json)} {names : List Text}
    (keys : (members.map Prod.fst).Sublist names) (distinct : names.Nodup) (unicode : ∀ name ∈ names, name.IsUnicode)
    (each : ∀ entry ∈ members, Readable asciiOnly entry.2) : Readable asciiOnly (object members) := by
  refine .object (fun entry member _ => ?_) each (distinct.sublist keys)
  exact unsplit_of_isUnicode (unicode _ (keys.subset (List.mem_map_of_mem member)))

end ProxyControl
