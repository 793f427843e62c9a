import ProxyControl.PolicyView
import ProxyControl.Proofs.Policy.Printed
import ProxyControl.Proofs.Table.Grid

namespace ProxyControl.Autoscale

variable {a : Autoscale}

/-- A policy with a trigger or a window. -/
def Active (a : Autoscale) : Prop :=
  a.cpu.value? ≠ none ∨ a.memory.value? ≠ none ∨ a.rps.value? ≠ none ∨ ∃ w rest, a.schedules.value? = some (w :: rest)

theorem triggerRow_eq_nil {name unit : Text} {target : Field Int} :
    triggerRow name unit target = [] ↔ target.value? = none := by
  unfold triggerRow
  cases target.value? <;> simp

theorem rows_ne_nil (active : a.Active) : a.rows ≠ [] := by
  intro none
  simp only [rows, List.append_eq_nil_iff, triggerRow_eq_nil] at none
  obtain ⟨⟨⟨cpu, memory⟩, rps⟩, windows⟩ := none
  rcases active with some | some | some | ⟨w, rest, some⟩
  · exact some cpu
  · exact some memory
  · exact some rps
  · rw [some] at windows
    cases windows

/-- The row for the windows, if there are any. -/
def windowsRow (schedules : Field (List ScheduledWindow)) : List (Text × Text) :=
  match schedules.value? with
  | some (w :: rest) => [("Schedule(s)", Text.join "\n\n" (blocks 1 (w :: rest)))]
  | _ => []

theorem rows_eq (a : Autoscale) : a.rows = triggerRow "CPU" "%" a.cpu ++ triggerRow "Memory" "%" a.memory ++
    triggerRow "RPS" " req/s" a.rps ++ windowsRow a.schedules := rfl

theorem names_triggerRow (label unit : Text) (target : Field Int) :
    ((triggerRow label unit target).map Prod.fst).Sublist [label] := by
  unfold triggerRow
  cases target.value? with
  | none => exact List.nil_sublist _
  | some n => exact List.Sublist.refl _

theorem names_windowsRow (schedules : Field (List ScheduledWindow)) :
    ((windowsRow schedules).map Prod.fst).Sublist ["Schedule(s)"] := by
  unfold windowsRow
  split
  · exact List.Sublist.refl _
  · exact List.nil_sublist _

theorem names_rows (a : Autoscale) :
    (a.rows.map Prod.fst).Sublist ["CPU", "Memory", "RPS", "Schedule(s)"] := by
  rw [rows_eq]
  simp only [List.map_append]
  exact (((names_triggerRow ..).append (names_triggerRow ..)).append (names_triggerRow ..)).append (names_windowsRow _)

theorem name_of_mem_rows {row : Text × Text} (member : row ∈ a.rows) :
    row.1 ∈ (["CPU", "Memory", "RPS", "Schedule(s)"] : List Text) :=
  a.names_rows.subset (List.mem_map_of_mem member)

/-- The lines of a policy: its bounds, and below them the table. -/
def viewLines (a : Autoscale) (table : List Text) : List Text :=
  ("min replicas: " ++ Text.ofNat a.minimum) :: ("max replicas: " ++ Text.ofNat a.maximum) :: table

theorem newline_not_mem_bound {label : Text} (visible : Terminal.Visible label) (n : Nat) :
    .char '\n' ∉ label ++ Text.ofNat n :=
  (visible.append (Json.printable_digits (Json.digits_ofNat n)).visible).not_mem (by decide)

theorem renderTable_eq {table : List Text} (some : a.rows ≠ [])
    (drawn : Table.render ["Triggers", "trigger details"] (a.rows.map fun (name, details) => [name, details]) =
      table.flatMap fun line => line ++ [.char '\n']) :
    a.renderTable = (a.viewLines table).flatMap fun line => line ++ [.char '\n'] := by
  unfold renderTable
  dsimp only
  split
  · rename_i none
    exact absurd none some
  · rw [drawn, viewLines, List.flatMap_cons, List.flatMap_cons]
    simp only [List.append_assoc]
    rfl

/-- The details of the triggers and windows, line by line. -/
def detailLines (a : Autoscale) : List Text := a.rows.flatMap fun row => Text.splitOn (.char '\n') row.2

/-- A policy with a trigger or a window is shown as its bounds and a grid, if its integers can be printed, and not at all
otherwise. -/
theorem renderTable_isGrid (active : a.Active) :
    ((∀ n ∈ a.payload.integers, Json.Printable n) → ∃ output left right table, a.rendered false = .ok output ∧
      Text.splitOn (.char '\n') output = a.viewLines table ++ [[]] ∧
        Table.IsGrid Table.Drawn left right a.detailLines table) ∧
    (¬ (∀ n ∈ a.payload.integers, Json.Printable n) →
      a.rendered false = .error (.fault .value Text.unprintable)) := by
  refine ⟨fun printable => ?_, printing_of_unprintable⟩
  have named : ∀ row ∈ a.rows, .char '\n' ∉ row.1 := by
    intro row member
    have names : ∀ name ∈ (["CPU", "Memory", "RPS", "Schedule(s)"] : List Text), .char '\n' ∉ name := by decide
    exact names row.1 (name_of_mem_rows member)
  obtain ⟨left, right, table, drawn, grid⟩ := Table.render_isGrid (a := "Triggers") (b := "trigger details")
    (by decide) (by decide) (by decide) (by decide) named
  refine ⟨a.renderTable, left, right, table, rendered_eq_ok.mpr ⟨printable, rfl⟩, ?_,
    grid.mono fun _ _ inLine => inLine.1⟩
  rw [renderTable_eq (rows_ne_nil active) drawn, Text.splitOn_lines]
  intro line member
  rcases List.mem_cons.mp member with rfl | member
  · exact newline_not_mem_bound (by decide) _
  rcases List.mem_cons.mp member with rfl | member
  · exact newline_not_mem_bound (by decide) _
  · exact grid.newline_not_mem member

/-- A policy with a trigger and a window. -/
def nightly : Autoscale :=
  { minReplicas := some 1, maxReplicas := some 5, cpu := .value 80,
    schedules := .value [{ minReplicas := 3, opening := "0 22 * * *", closing := "0 6 * * *" }] }

theorem nightly_isGrid : ∃ output left right table, nightly.rendered false = .ok output ∧
    Text.splitOn (.char '\n') output = nightly.viewLines table ++ [[]] ∧
      Table.IsGrid Table.Drawn left right nightly.detailLines table :=
  (renderTable_isGrid (.inl (by decide))).1 (by decide +kernel)

/-- A window in a time zone whose name ends with a joiner. -/
def inJoinedZone : Autoscale :=
  { minReplicas := some 1, maxReplicas := some 2,
    schedules := .value [{ minReplicas := 1, opening := "0 9 * * *", closing := "0 18 * * *",
                           timezone := .value "America/Argentina/ComodRivadavia\u200d" }] }

/-- One of its cells is a cell narrower than its column. -/
theorem inJoinedZone_not_aligned : ¬ ∃ output left right table, inJoinedZone.rendered false = .ok output ∧
    Text.splitOn (.char '\n') output = inJoinedZone.viewLines table ++ [[]] ∧
      Table.IsGrid (fun width cell => cell.cellLength = width) left right inJoinedZone.detailLines table := by
  rintro ⟨output, left, right, _, shown, split, head, _, body, rfl, _, rows⟩
  obtain ⟨_, rfl⟩ := rendered_eq_ok.mp shown
  have ruled : (Text.splitOn (.char '\n') inJoinedZone.renderTable)[2]? = some (Table.rule 13 46) := by decide +kernel
  rw [show inJoinedZone.renderTable = inJoinedZone.render false from rfl, split] at ruled
  obtain ⟨_, rfl⟩ := Table.rule_inj (Option.some.inj ruled)
  have told : ("  Timezone: America/Argentina/ComodRivadavia\u200d" : Text) ∈ inJoinedZone.detailLines := by decide +kernel
  obtain ⟨_, _, _, _, _, filled⟩ := Table.exists_detail rows.flip told
  revert filled
  decide +kernel

end ProxyControl.Autoscale
