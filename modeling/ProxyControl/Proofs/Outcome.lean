import Mathlib.Data.List.Forall2
import ProxyControl.Failure

namespace ProxyControl

variable {ε ε' α β : Type}

theorem bind_eq_ok {x : Except ε α} {f : α → Except ε β} {b : β} :
    (x >>= f) = .ok b ↔ ∃ a, x = .ok a ∧ f a = .ok b := by
  cases x with
  | ok a =>
    constructor
    · intro run
      exact ⟨a, rfl, run⟩
    · rintro ⟨_, found, run⟩
      cases found
      exact run
  | error e =>
    constructor
    · intro run
      cases run
    · rintro ⟨_, found, _⟩
      cases found

theorem bind_eq_error {x : Except ε α} {f : α → Except ε β} {e : ε} :
    (x >>= f) = .error e ↔ x = .error e ∨ ∃ a, x = .ok a ∧ f a = .error e := by
  cases x with
  | ok a =>
    constructor
    · intro fails
      exact .inr ⟨a, rfl, fails⟩
    · rintro (impossible | ⟨_, same, fails⟩)
      · cases impossible
      · cases same
        exact fails
  | error e =>
    constructor
    · intro fails
      cases fails
      exact .inl rfl
    · rintro (fails | ⟨_, impossible, _⟩)
      · cases fails
        rfl
      · cases impossible

theorem map_eq_ok {x : Except ε α} {f : α → β} {b : β} : x.map f = .ok b ↔ ∃ a, x = .ok a ∧ f a = b := by
  cases x with
  | ok a => simp [Except.map]
  | error e => simp [Except.map]

theorem mapError_eq_ok {x : Except ε α} {f : ε → ε'} {a : α} : x.mapError f = .ok a ↔ x = .ok a := by
  cases x with
  | ok b =>
    change Except.ok b = Except.ok a ↔ _
    rw [Except.ok.injEq, Except.ok.injEq]
  | error e =>
    constructor
    · intro same
      cases same
    · intro same
      cases same

theorem mapError_eq_error {x : Except ε α} {f : ε → ε'} {e' : ε'} :
    x.mapError f = .error e' ↔ ∃ e, x = .error e ∧ f e = e' := by
  cases x with
  | ok a =>
    constructor
    · intro same
      cases same
    · rintro ⟨_, same, _⟩
      cases same
  | error e =>
    change Except.error (f e) = Except.error e' ↔ _
    simp

theorem toOption_eq_some {x : Except ε α} {a : α} : x.toOption = some a ↔ x = .ok a := by
  cases x with
  | ok b => simp [Except.toOption]
  | error e => simp [Except.toOption]

theorem mapM_eq_ok {f : α → Except ε β} {list : List α} {found : List β} (run : list.mapM f = .ok found) :
    ∀ b ∈ found, ∃ a ∈ list, f a = .ok b := by
  induction list generalizing found with
  | nil =>
    cases run
    simp
  | cons a list ih =>
    rw [List.mapM_cons] at run
    obtain ⟨first, here, run⟩ := bind_eq_ok.mp run
    obtain ⟨others, rest, same⟩ := bind_eq_ok.mp run
    cases same
    intro b member
    rcases List.mem_cons.mp member with rfl | later
    · exact ⟨a, List.mem_cons_self, here⟩
    · obtain ⟨source, inside, found⟩ := ih rest b later
      exact ⟨source, List.mem_cons_of_mem _ inside, found⟩

theorem mapM_ok_of_mem {f : α → Except ε β} {list : List α} {found : List β} (run : list.mapM f = .ok found) :
    ∀ a ∈ list, ∃ b, f a = .ok b := by
  induction list generalizing found with
  | nil => simp
  | cons a list ih =>
    rw [List.mapM_cons] at run
    obtain ⟨first, here, run⟩ := bind_eq_ok.mp run
    obtain ⟨others, rest, _⟩ := bind_eq_ok.mp run
    intro other member
    rcases List.mem_cons.mp member with rfl | later
    · exact ⟨first, here⟩
    · exact ih rest other later

theorem mapM_eq_ok_iff {f : α → Except ε β} {list : List α} {found : List β} :
    list.mapM f = .ok found ↔ List.Forall₂ (fun a b => f a = .ok b) list found := by
  induction list generalizing found with
  | nil =>
    rw [List.mapM_nil, List.forall₂_nil_left_iff]
    exact ⟨fun same => (Except.ok.inj same).symm, fun same => congrArg Except.ok same.symm⟩
  | cons a list ih =>
    rw [List.mapM_cons, List.forall₂_cons_left_iff]
    constructor
    · intro run
      obtain ⟨first, here, run⟩ := bind_eq_ok.mp run
      obtain ⟨others, rest, same⟩ := bind_eq_ok.mp run
      cases same
      exact ⟨first, others, here, ih.mp rest, rfl⟩
    · rintro ⟨first, others, here, rest, rfl⟩
      exact bind_eq_ok.mpr ⟨first, here, bind_eq_ok.mpr ⟨others, ih.mpr rest, rfl⟩⟩

/-- Of a list whose members are all mapped, the whole is mapped. -/
theorem exists_mapM_of_forall {f : α → Except ε β} {list : List α} (each : ∀ a ∈ list, ∃ b, f a = .ok b) :
    ∃ found, list.mapM f = .ok found := by
  induction list with
  | nil => exact ⟨[], rfl⟩
  | cons a list ih =>
    obtain ⟨first, here⟩ := each a List.mem_cons_self
    obtain ⟨others, rest⟩ := ih fun b member => each b (List.mem_cons_of_mem _ member)
    exact ⟨first :: others, mapM_eq_ok_iff.mpr (.cons here (mapM_eq_ok_iff.mp rest))⟩

theorem mapM_eq_error {f : α → Except ε β} {list : List α} {e : ε} (run : list.mapM f = .error e) :
    ∃ a ∈ list, f a = .error e := by
  induction list with
  | nil => cases run
  | cons a list ih =>
    rw [List.mapM_cons] at run
    rcases bind_eq_error.mp run with fails | ⟨_, _, run⟩
    · exact ⟨a, List.mem_cons_self, fails⟩
    · rcases bind_eq_error.mp run with fails | ⟨_, _, impossible⟩
      · obtain ⟨source, inside, fails⟩ := ih fails
        exact ⟨source, List.mem_cons_of_mem _ inside, fails⟩
      · cases impossible

section

variable {integers : List Int} {a b : α} {failure : Failure}

/-- What is made of digits is there exactly if every integer has its digits. -/
theorem printing_eq_ok : printing integers a = .ok b ↔ (∀ n ∈ integers, Json.Printable n) ∧ a = b := by
  unfold printing
  split
  · rename_i printable
    rw [Except.ok.injEq]
    exact ⟨fun same => ⟨printable, same⟩, And.right⟩
  · rename_i unprintable
    constructor
    · intro impossible
      cases impossible
    · rintro ⟨printable, _⟩
      exact absurd printable unprintable

theorem printing_of_unprintable (unprintable : ¬ ∀ n ∈ integers, Json.Printable n) :
    printing integers a = .error (.fault .value Text.unprintable) := by
  rw [printing, if_neg unprintable]

theorem printing_eq_error (fails : printing integers a = .error failure) :
    failure = .fault .value Text.unprintable := by
  unfold printing at fails
  split at fails
  · cases fails
  · cases fails
    rfl

end

/-- The fault that an outcome is; unlike outcomes, faults can be compared. -/
def Outcome.fault? : Outcome α → Option (Fault × Text)
  | .error (.fault kind message) => some (kind, message)
  | _ => none

theorem Outcome.fault?_eq_some {outcome : Outcome α} {kind : Fault} {message : Text} :
    outcome.fault? = some (kind, message) ↔ outcome = .error (.fault kind message) := by
  unfold fault?
  split
  · simp
  · rename_i noFault
    constructor
    · intro impossible
      cases impossible
    · intro same
      exact absurd same (noFault kind message)

end ProxyControl
