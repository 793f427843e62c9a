import Mathlib.Data.List.DropRight
import ProxyControl.Proofs.Text.Split
import ProxyControl.Unicode.Digits

namespace ProxyControl.Text

variable {isSeparator other : CodePoint → Bool} {t : Text} {p : CodePoint}

/-- The runs of a text depend on what separates them in that text only. -/
theorem runs_congr (same : ∀ p ∈ t, isSeparator p = other p) : runs isSeparator t = runs other t := by
  induction t with
  | nil => rfl
  | cons p t ih =>
    have first := same p List.mem_cons_self
    have rest := ih fun q member => same q (List.mem_cons_of_mem p member)
    cases t with
    | nil => simp only [runs, first]
    | cons next t =>
      have second := same next (List.mem_cons_of_mem p List.mem_cons_self)
      rw [runs.eq_def, runs.eq_def other]
      dsimp only
      rw [first, rest, second]

theorem runs_cons_of_separator (separates : isSeparator p = true) : runs isSeparator (p :: t) = runs isSeparator t :=
  if_pos separates

/-- A code point that separates nothing is at the front of the first run. -/
theorem exists_runs_cons (kept : isSeparator p = false) (t : Text) :
    ∃ run more, runs isSeparator (p :: t) = (p :: run) :: more ∧
      (runs isSeparator t = more ∨ runs isSeparator t = run :: more) := by
  rw [runs.eq_def]
  dsimp only
  rw [if_neg (by rw [kept]; exact Bool.false_ne_true)]
  cases t with
  | nil => exact ⟨[], [], rfl, .inl rfl⟩
  | cons next t =>
    dsimp only
    split
    · exact ⟨[], _, rfl, .inl rfl⟩
    · split
      · rename_i empty
        exact ⟨[], [], rfl, .inl empty⟩
      · rename_i run more split
        exact ⟨run, more, rfl, .inr split⟩

theorem exists_mem_runs (inside : p ∈ t) (kept : isSeparator p = false) : ∃ run ∈ runs isSeparator t, p ∈ run := by
  induction t with
  | nil => cases inside
  | cons q t ih =>
    cases first : isSeparator q with
    | true =>
      rw [runs_cons_of_separator first]
      rcases List.mem_cons.mp inside with rfl | later
      · rw [kept] at first
        cases first
      · exact ih later
    | false =>
      obtain ⟨run, more, split, rest⟩ := exists_runs_cons first t
      rw [split]
      rcases List.mem_cons.mp inside with rfl | later
      · exact ⟨_, List.mem_cons_self, List.mem_cons_self⟩
      · obtain ⟨found, member, here⟩ := ih later
        rcases rest with rest | rest
        · exact ⟨found, List.mem_cons_of_mem _ (rest ▸ member), here⟩
        · rcases List.mem_cons.mp (rest ▸ member) with rfl | later
          · exact ⟨_, List.mem_cons_self, List.mem_cons_of_mem q here⟩
          · exact ⟨found, List.mem_cons_of_mem _ later, here⟩

theorem runs_eq_nil (all : ∀ p ∈ t, isSeparator p = true) : runs isSeparator t = [] := by
  induction t with
  | nil => rfl
  | cons p t ih =>
    rw [runs_cons_of_separator (all p List.mem_cons_self)]
    exact ih fun q member => all q (List.mem_cons_of_mem p member)

/-- What has words is not blank. -/
theorem strip_ne_nil (some : words t ≠ []) : strip t ≠ [] := by
  intro blank
  have rest : ∀ p ∈ t.dropWhile Unicode.isSpace, Unicode.isSpace p = true := List.rdropWhile_eq_nil_iff.mp blank
  have all : ∀ p ∈ t, Unicode.isSpace p = true := by
    intro p member
    rw [← List.takeWhile_append_dropWhile (p := Unicode.isSpace) (l := t), List.mem_append] at member
    rcases member with front | later
    · exact List.mem_takeWhile_imp front
    · exact rest p later
  exact some (runs_eq_nil all)

end ProxyControl.Text
