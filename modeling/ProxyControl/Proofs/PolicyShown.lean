import ProxyControl.Proofs.PolicyView
import ProxyControl.Proofs.Table.Whole
import ProxyControl.Proofs.Table.Width

namespace ProxyControl

/-- Of lists tied item by item, a relation that a property of the second items decides holds just if all have it. -/
theorem forall₂_iff_of_agree {α β : Type} {Tied Shown : α → β → Prop} {Holds : β → Prop} {left : List α}
    {right : List β} (tied : List.Forall₂ Tied left right) (agree : ∀ x y, Tied x y → (Shown x y ↔ Holds y)) :
    List.Forall₂ Shown left right ↔ ∀ y ∈ right, Holds y := by
  induction tied with
  | nil => simp
  | cons here _ ih => rw [List.forall₂_cons, List.forall_mem_cons, agree _ _ here, ih]

/-- A block ends with the name of the time zone, if there is one. -/
theorem ScheduledWindow.exists_block (number : Int) (w : ScheduledWindow) {name : Text} (zone : w.timezone = .value name)
    (some : name ≠ []) : ∃ front, w.block number = front ++ .char '\n' :: (("  Timezone: " : Text) ++ name) := by
  unfold block
  simp only [zone, Field.value?, List.isEmpty_iff, if_neg some]
  refine ⟨Text.join "\n" ["Window " ++ Text.ofInt number ++ ":", "  Min replicas: " ++ Text.ofNat w.minReplicas,
    "  Start: " ++ Cron.humanize w.opening, "  End: " ++ Cron.humanize w.closing], ?_⟩
  simp only [Text.join, List.cons_append, List.nil_append, List.intercalate_cons_cons, List.intercalate_singleton,
    List.append_assoc]
  rfl

namespace Autoscale

open Table (EndsVisibly Fits Ordinary Shows)
open Terminal (isDropped withoutTabs)

variable {a : Autoscale}

/-- The lines of a table below its headings: what follows the two bounds, a rule, the headings and a rule, up to the
last rule. -/
def bodyLines (output : Text) : List Text := ((Text.splitOn (.char '\n') output).drop 5).dropLast.dropLast

/-- There is a table, and it shows all that there is to tell, each line of the details in a line of its own. -/
def ShowsDetails (a : Autoscale) : Prop :=
  ∃ output, a.rendered false = .ok output ∧ List.Forall₂ Shows (bodyLines output) a.detailLines

/-- The cells that the details get in a line. -/
def detailCells (a : Autoscale) : Nat := (Table.pairWidths "Triggers" "trigger details" a.rows).getD 1 0 - 2

theorem exists_widths (a : Autoscale) : ∃ left right,
    Table.pairWidths "Triggers" "trigger details" a.rows = [left, right] ∧ 2 ≤ left ∧ right = a.detailCells + 2 ∧
      a.detailCells ≠ 0 ∧ a.detailCells ≤ 4091 := by
  obtain ⟨left, right, widths, wide, alsoWide, low⟩ :=
    Table.exists_pairWidths (a := "Triggers") (b := "trigger details") a.rows (by decide) (by decide)
  have cells : a.detailCells = right - 2 := by
    rw [detailCells, widths]
    rfl
  have some : Table.lineWidth - 3 = 4093 := rfl
  exact ⟨left, right, widths, by omega, by omega, by omega, by omega⟩

theorem splitOn_viewLines (a : Autoscale) {table : List Text} (plain : ∀ line ∈ table, .char '\n' ∉ line) :
    Text.splitOn (.char '\n') ((a.viewLines table).flatMap fun line => line ++ [.char '\n']) =
      a.viewLines table ++ [[]] := by
  refine Text.splitOn_lines fun line member => ?_
  rcases List.mem_cons.mp member with rfl | member
  · exact newline_not_mem_bound (by decide) _
  rcases List.mem_cons.mp member with rfl | member
  · exact newline_not_mem_bound (by decide) _
  · exact plain line member

/-- Names are plain. -/
theorem names_plain (a : Autoscale) : (∀ row ∈ a.rows, .char '\n' ∉ row.1) ∧ ∀ row ∈ a.rows, .char '|' ∉ row.1 := by
  have names : ∀ name ∈ (["CPU", "Memory", "RPS", "Schedule(s)"] : List Text),
      .char '\n' ∉ name ∧ .char '|' ∉ name := by
    decide
  exact ⟨fun row member => (names row.1 (name_of_mem_rows member)).1,
    fun row member => (names row.1 (name_of_mem_rows member)).2⟩

theorem bodyLines_of_rows_eq_nil (none : a.rows = []) : bodyLines a.renderTable = [] := by
  have bounds : a.renderTable = (a.viewLines []).flatMap fun line => line ++ [.char '\n'] := by
    rw [renderTable, none, viewLines]
    simp only [List.flatMap_cons, List.flatMap_nil, List.append_assoc, List.append_nil]
    rfl
  rw [bodyLines, bounds, splitOn_viewLines a (by simp)]
  rfl

theorem bodyLines_of_rows (some : a.rows ≠ []) : ∃ left,
    bodyLines a.renderTable = Table.pairLines "Triggers" "trigger details" left (a.detailCells + 2) a.rows := by
  obtain ⟨left, right, widths, wide, rfl, _⟩ := a.exists_widths
  have grid := Table.pairTable_isGrid (a := "Triggers") (b := "trigger details") (by decide) (by decide) wide
    (Nat.le_add_left 2 a.detailCells) a.names_plain.1
  have drawn := Table.render_pairs widths
  change _ = (Table.pairTable "Triggers" "trigger details" left (a.detailCells + 2) a.rows).flatMap _ at drawn
  obtain ⟨head, shape⟩ := Table.exists_pairTable (a := "Triggers") (b := "trigger details") (by decide) (by decide) left
    (a.detailCells + 2) a.rows
  rw [shape] at grid drawn
  refine ⟨left, ?_⟩
  rw [bodyLines, renderTable_eq some drawn, splitOn_viewLines a fun line => grid.newline_not_mem, viewLines]
  simp only [List.cons_append, List.drop_succ_cons, List.drop_zero, List.dropLast_concat]

/-- Below the headings stand the cells of the details, each behind a name or a blank. -/
theorem bodyLines_cells (a : Autoscale) : List.Forall₂ (fun line detail => ∃ start, .char '|' ∉ start ∧
    line = Table.framed (.char '|') start (Table.cell false (a.detailCells + 2) (Terminal.clean detail)))
    (bodyLines a.renderTable) a.detailLines := by
  by_cases none : a.rows = []
  · rw [bodyLines_of_rows_eq_nil none, detailLines, none]
    exact .nil
  · obtain ⟨left, body⟩ := bodyLines_of_rows none
    have cells := Table.pairLines_cells "Triggers" "trigger details" left (a.detailCells + 2) a.names_plain.1
    rw [body]
    refine cells.imp fun line detail => ?_
    rintro ⟨start, framed, filled⟩
    refine ⟨start, fun bar => ?_, framed⟩
    rcases filled with ⟨row, member, rfl⟩ | rfl
    · rcases Table.mem_cell bar with inside | filler
      · exact a.names_plain.2 row member (List.mem_of_mem_filter inside)
      · revert filler
        decide
    · cases (List.mem_replicate.mp bar).2

theorem showsDetails_iff (a : Autoscale) : a.ShowsDetails ↔
    (∀ n ∈ a.payload.integers, Json.Printable n) ∧ ∀ line ∈ a.detailLines, Fits a.detailCells line := by
  obtain ⟨_, _, _, _, _, some, _⟩ := a.exists_widths
  have fits : List.Forall₂ Shows (bodyLines a.renderTable) a.detailLines ↔
      ∀ line ∈ a.detailLines, Fits a.detailCells line := by
    refine forall₂_iff_of_agree a.bodyLines_cells ?_
    rintro line detail ⟨start, barless, rfl⟩
    have wide : 3 ≤ a.detailCells + 2 := by omega
    have shown : Shows _ detail ↔ _ := Table.shows_cell_iff wide barless
    rwa [Nat.add_sub_cancel] at shown
  rw [← fits]
  constructor
  · rintro ⟨output, drawn, shown⟩
    obtain ⟨printable, rfl⟩ := rendered_eq_ok.mp drawn
    exact ⟨printable, shown⟩
  · rintro ⟨printable, shown⟩
    exact ⟨a.renderTable, rendered_eq_ok.mpr ⟨printable, rfl⟩, shown⟩

/-- There is room for the details in any table that is not extremely wide: next to the longest name, bars and spaces
leave 4078 cells for them. -/
theorem cellLength_le_detailCells (ordinary : ∀ line ∈ a.detailLines, Ordinary line ∧ line.cellLength ≤ 4078) :
    ∀ line ∈ a.detailLines, line.cellLength ≤ a.detailCells := by
  have lines {row : Text × Text} (member : row ∈ a.rows) : ∀ line ∈ Text.splitOn (.char '\n') row.2,
      Ordinary line ∧ line.cellLength ≤ 4078 :=
    fun line inside => ordinary line (List.mem_flatMap.mpr ⟨row, member, inside⟩)
  have names : Table.wanted (Terminal.clean "Triggers") (a.rows.map fun row => Terminal.clean row.1) ≤ 11 + 2 := by
    refine Table.wanted_le (List.forall_mem_cons.mpr ⟨by decide, fun content member => ?_⟩)
    obtain ⟨row, inside, rfl⟩ := List.mem_map.mp member
    have short : ∀ name ∈ (["CPU", "Memory", "RPS", "Schedule(s)"] : List Text),
        Table.naturalWidth (Terminal.clean name) ≤ 11 := by
      decide
    exact short row.1 (name_of_mem_rows inside)
  have details : Table.wanted (Terminal.clean "trigger details") (a.rows.map fun row => Terminal.clean row.2) ≤
      4078 + 2 := by
    refine Table.wanted_le (List.forall_mem_cons.mpr ⟨by decide, fun content member => ?_⟩)
    obtain ⟨row, inside, rfl⟩ := List.mem_map.mp member
    obtain ⟨agree, same⟩ := Table.linesAgree_of_ordinary fun line here => (lines inside line here).1
    rw [same]
    exact Table.naturalWidth_le agree fun line here => (lines inside line here).2
  have some : Table.lineWidth - 3 = 4093 := rfl
  have cells : a.detailCells = Table.wanted (Terminal.clean "trigger details")
      (a.rows.map fun row => Terminal.clean row.2) - 2 := by
    rw [detailCells, Table.pairWidths, Table.fit_of_le _ _ (by omega)]
    rfl
  intro line member
  obtain ⟨row, inside, here⟩ := List.mem_flatMap.mp member
  obtain ⟨agree, same⟩ := Table.linesAgree_of_ordinary fun line here => (lines inside line here).1
  have wide := Table.cellLength_le_naturalWidth agree here
  have room : Table.naturalWidth (Terminal.clean row.2) + 2 ≤ Table.wanted (Terminal.clean "trigger details")
      (a.rows.map fun row => Terminal.clean row.2) :=
    Table.le_wanted (List.mem_cons_of_mem _ (List.mem_map.mpr ⟨row, inside, rfl⟩))
  rw [same] at room
  omega

/-- The table shows all the details just if the integers can be printed and each of the lines fits into its column; a line
that does not end with white space does so if no control code is dropped from it and there is room for its cells, tabs
expanded. The table has room for all lines of up to 4078 cells in which there is nothing but ordinary characters. -/
theorem details_shown_iff (a : Autoscale) :
    (a.ShowsDetails ↔
      (∀ n ∈ a.payload.integers, Json.Printable n) ∧ ∀ line ∈ a.detailLines, Fits a.detailCells line) ∧
    (∀ line, EndsVisibly (withoutTabs line) → (Fits a.detailCells line ↔
      (∀ p ∈ line, isDropped p = false) ∧ (withoutTabs line).cellLength ≤ a.detailCells)) ∧
    ((∀ n ∈ a.payload.integers, Json.Printable n) →
      (∀ line ∈ a.detailLines, Ordinary line ∧ line.cellLength ≤ 4078) → a.ShowsDetails) := by
  obtain ⟨_, _, _, _, _, some, _⟩ := a.exists_widths
  refine ⟨a.showsDetails_iff, fun line visible => Table.fits_iff some visible, fun printable ordinary => ?_⟩
  refine a.showsDetails_iff.mpr ⟨printable, fun line member => ?_⟩
  exact (ordinary line member).1.fits (cellLength_le_detailCells ordinary line member)

/-- The table of the policy with a trigger and a window shows all of it. -/
theorem nightly_shown : nightly.ShowsDetails ∧ nightly.detailLines.length = 5 := by
  refine ⟨(details_shown_iff nightly).2.2 ?_ ?_, ?_⟩
  · decide +kernel
  · decide +kernel
  · decide +kernel

/-- A window in a time zone of some name. -/
def zoned (name : Text) : ScheduledWindow :=
  { minReplicas := 1, opening := "0 9 * * *", closing := "0 18 * * *", timezone := .value name }

/-- A policy with that window only. -/
def inZone (name : Text) : Autoscale :=
  { minReplicas := some 1, maxReplicas := some 2, schedules := .value [zoned name] }

theorem zone_mem_detailLines {name : Text} (some : name ≠ []) (unbroken : .char '\n' ∉ name) :
    ("  Timezone: " : Text) ++ name ∈ (inZone name).detailLines := by
  have rows : (inZone name).rows = ([("Schedule(s)", (zoned name).block 1)] : List (Text × Text)) := by
    change ([("Schedule(s)", Text.join "\n\n" [(zoned name).block 1])] : List (Text × Text)) = _
    rw [Text.join, List.intercalate_singleton]
  obtain ⟨front, shape⟩ := (zoned name).exists_block 1 rfl some
  have plain : .char '\n' ∉ ("  Timezone: " : Text) ++ name := by
    rw [List.mem_append, not_or]
    exact ⟨by decide, unbroken⟩
  rw [detailLines, rows, List.flatMap_singleton, shape, Text.splitOn_append_self, Text.splitOn_of_not_mem plain]
  exact List.mem_append_right _ List.mem_cons_self

/-- A name that is as long as a table may be wide. -/
def longName : Text := List.replicate 4096 (.char 'a')

theorem printable_longName : Terminal.Printable longName :=
  fun _ member => (List.mem_replicate.mp member).2 ▸ rfl

/-- The name of a zone is cut if it is longer than a table is wide, and if it holds a tab, for which there is no room
since it is measured as nothing. -/
theorem inZone_not_shown :
    ¬ (inZone longName).ShowsDetails ∧ ¬ (inZone "Europe/Berlin\tsummer time").ShowsDetails := by
  constructor
  · intro shown
    have newline : .char '\n' ∉ longName := printable_longName.visible.not_mem (by decide)
    have told : ("  Timezone: " : Text) ++ longName ∈ (inZone longName).detailLines := by
      exact zone_mem_detailLines (List.cons_ne_nil _ _) newline
    have printable : Terminal.Printable (("  Timezone: " : Text) ++ longName) :=
      Terminal.Printable.append (by decide) printable_longName
    have visible : EndsVisibly (("  Timezone: " : Text) ++ longName) := by
      intro p last
      rw [longName, List.replicate_succ', ← List.append_assoc, List.getLast?_concat] at last
      cases last
      decide
    have same : withoutTabs (("  Timezone: " : Text) ++ longName) = ("  Timezone: " : Text) ++ longName :=
      Table.withoutTabs_of_not_mem (printable.visible.not_mem (by decide))
    obtain ⟨_, _, _, _, _, some, low⟩ := (inZone longName).exists_widths
    obtain ⟨_, room⟩ := (Table.fits_iff some (same.symm ▸ visible)).mp (((showsDetails_iff _).mp shown).2 _ told)
    have length : longName.length = 4096 := List.length_replicate
    rw [same, Text.cellLength_of_printable printable, List.length_append, length] at room
    omega
  · rw [showsDetails_iff]
    refine fun shown => absurd shown.2 ?_
    decide +kernel

end Autoscale

end ProxyControl
