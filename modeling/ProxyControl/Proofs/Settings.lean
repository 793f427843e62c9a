import ProxyControl.Settings

namespace ProxyControl.Environment

variable {left right environment : Environment} {free : Text → Prop} {key name value : Text}

/-- What the environment says under a name, in whatever case the name is written there. -/
def under (environment : Environment) (name : Text) : Environment :=
  environment.filter fun (key, _) => key.lower == name

theorem under_cons_of_eq (same : key.lower = name) :
    under ((key, value) :: environment) name = (key, value) :: environment.under name :=
  List.filter_cons_of_pos (beq_iff_eq.mpr same)

theorem under_cons_of_ne (other : key.lower ≠ name) :
    under ((key, value) :: environment) name = environment.under name :=
  List.filter_cons_of_neg fun same => other (beq_iff_eq.mp same)

theorem value?_cons_of_ne (other : name ≠ key) :
    value? ((key, value) :: environment) name = environment.value? name := by
  rw [value?, List.lookup_cons, beq_eq_false_iff_ne.mpr other]
  rfl

/-- Two environments with the same variables, apart from those that are free to differ. -/
def AgreeExcept (free : Text → Prop) (left right : Environment) : Prop :=
  ∀ name, ¬ free name → left.under name = right.under name

theorem setting?_eq_under : environment.setting? name = (environment.under name).getLast?.map Prod.snd := by
  rw [setting?, ← List.head?_filter, List.filter_reverse, List.head?_reverse]
  rfl

/-- A variable that is read in one spelling is among those that a setting of its name may come from. -/
theorem value?_eq_under : environment.value? name = (environment.under name.lower).value? name := by
  induction environment with
  | nil => rfl
  | cons entry environment ih =>
    obtain ⟨key, value⟩ := entry
    by_cases same : name = key
    · subst same
      rw [under_cons_of_eq rfl, value?, value?, List.lookup_cons_self, List.lookup_cons_self]
    · rw [value?_cons_of_ne same, ih]
      by_cases kept : key.lower = name.lower
      · rw [under_cons_of_eq kept, value?_cons_of_ne same]
      · rw [under_cons_of_ne kept]

namespace AgreeExcept

theorem setting? (agree : AgreeExcept free left right) (fixed : ¬ free name) :
    left.setting? name = right.setting? name := by
  rw [setting?_eq_under, setting?_eq_under, agree name fixed]

theorem home (agree : AgreeExcept free left right) (fixed : ¬ free (Text.lower "HOME")) : left.home = right.home := by
  rw [Environment.home, Environment.home, value?_eq_under, agree _ fixed, ← value?_eq_under]

theorem rfl : AgreeExcept free left left := fun _ _ => Eq.refl _

/-- A variable that is free to differ may have two values. -/
theorem cons {first second : Text} (agree : AgreeExcept free left right) (different : free key.lower) :
    AgreeExcept free ((key, first) :: left) ((key, second) :: right) := by
  intro name fixed
  have other : key.lower ≠ name := fun same => fixed (same ▸ different)
  rw [under_cons_of_ne other, under_cons_of_ne other]
  exact agree name fixed

end AgreeExcept

end ProxyControl.Environment
