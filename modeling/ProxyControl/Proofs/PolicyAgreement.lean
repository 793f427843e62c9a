import ProxyControl.Proofs.Policy.RoundTrip
import ProxyControl.Proofs.Policy.Stored
import ProxyControl.Proofs.PolicyView

namespace ProxyControl

/-- The line that a block has for a time zone as it is printed. -/
def zoneLine : Option Json → List Text
  | some (.text zone) => if zone.isEmpty then [] else ["  Timezone: " ++ zone]
  | _ => []

/-- A block under a number, made of what a printed window says. -/
structure BlockOf (number : Nat) (window : Json) (block : Text) : Prop where
  lines : ∃ minimum opening closing, window.member? "minReplicas" = some (.int minimum) ∧
    window.member? "start" = some (.text opening) ∧ window.member? "end" = some (.text closing) ∧
    block = Text.join "\n"
      ([ "Window " ++ Text.ofNat number ++ ":",
         "  Min replicas: " ++ Text.ofInt minimum,
         "  Start: " ++ Cron.humanize opening,
         "  End: " ++ Cron.humanize closing ] ++ zoneLine (window.member? "timezone"))
  zone : ∀ value ∈ window.member? "timezone", ∃ zone, value = .text zone

/-- There is a row of a name just if a number is printed, and the row shows that number in decimal. -/
structure NumberRow (rows : List (Text × Text)) (name unit : Text) (printed : Option Json) : Prop where
  there : (∃ details, (name, details) ∈ rows) ↔ printed ≠ none
  shown : ∀ details, (name, details) ∈ rows → ∃ n, printed = some (.int n) ∧ details = Text.ofInt n ++ unit

/-- There is a row of a name just if windows are printed, and the row shows a block for each of them. -/
structure WindowsRow (rows : List (Text × Text)) (name : Text) (printed : Option Json) : Prop where
  there : (∃ details, (name, details) ∈ rows) ↔ ∃ windows, printed = some (.list windows) ∧ windows ≠ []
  shown : ∀ details, (name, details) ∈ rows → ∃ windows blocks, printed = some (.list windows) ∧
    details = Text.join "\n\n" blocks ∧ blocks.length = windows.length ∧
    ∀ k window block, windows[k]? = some window → blocks[k]? = some block → BlockOf (k + 1) window block

/-- Rows, none of them twice, that show what an object tells. -/
structure RowsOf (object : Json) (rows : List (Text × Text)) : Prop where
  names : (rows.map Prod.fst).Sublist ["CPU", "Memory", "RPS", "Schedule(s)"]
  cpu : NumberRow rows "CPU" "%" (object.member? "cpu")
  memory : NumberRow rows "Memory" "%" (object.member? "memory")
  rps : NumberRow rows "RPS" " req/s" (object.member? "rps")
  windows : WindowsRow rows "Schedule(s)" (object.member? "schedules")

namespace ScheduledWindow

theorem nodup_keys_payload (w : ScheduledWindow) : (w.members.map Prod.fst).Nodup :=
  w.members_keys.nodup (by decide)

/-- The block of a window says what is printed for the window. -/
theorem blockOf_payload (number : Nat) (w : ScheduledWindow) : BlockOf number w.payload.sortKeys (w.block number) := by
  obtain ⟨minimum, opening, closing, zone⟩ := w.member?_payload
  have sorted := Json.member?_sortKeys w.nodup_keys_payload
  rw [← payload_eq] at sorted
  refine ⟨⟨w.minReplicas, w.opening, w.closing, ?_, ?_, ?_, ?_⟩, ?_⟩
  · rw [sorted, minimum]
    rfl
  · rw [sorted, opening]
    rfl
  · rw [sorted, closing]
    rfl
  · rw [sorted, zone, block]
    cases w.timezone.value? <;> rfl
  · rw [sorted, zone]
    intro value printed
    cases given : w.timezone.value? with
    | none =>
      rw [given] at printed
      cases printed
    | some zone =>
      rw [given] at printed
      cases printed
      exact ⟨zone, rfl⟩

end ScheduledWindow

namespace Autoscale

variable {a : Autoscale} {name unit details : Text} {target : Field Int} {windows : List ScheduledWindow}

theorem nodup_keys_payload (a : Autoscale) : (a.members.map Prod.fst).Nodup := a.members_keys.nodup (by decide)

theorem length_blocks (number : Nat) (windows : List ScheduledWindow) :
    (blocks number windows).length = windows.length := by
  induction windows generalizing number with
  | nil => rfl
  | cons w windows ih => rw [blocks, List.length_cons, List.length_cons, ih]

/-- The blocks are numbered one after the other. -/
theorem getElem?_blocks (number k : Nat) (windows : List ScheduledWindow) :
    (blocks number windows)[k]? = windows[k]?.map fun w => w.block (number + k : Nat) := by
  induction windows generalizing number k with
  | nil => rfl
  | cons w windows ih =>
    cases k with
    | zero => rfl
    | succ k =>
      rw [blocks, List.getElem?_cons_succ, List.getElem?_cons_succ, ih, Nat.add_right_comm]
      rfl

theorem mem_triggerRow {label : Text} : (name, details) ∈ triggerRow label unit target ↔
    name = label ∧ ∃ n, target.value? = some n ∧ details = Text.ofInt n ++ unit := by
  unfold triggerRow
  cases target.value? with
  | none => simp
  | some n => simp

theorem mem_windowsRow {schedules : Field (List ScheduledWindow)} : (name, details) ∈ windowsRow schedules ↔
    name = "Schedule(s)" ∧ ∃ windows, schedules.value? = some windows ∧ windows ≠ [] ∧
      details = Text.join "\n\n" (blocks 1 windows) := by
  unfold windowsRow
  rcases schedules.value? with _ | _ | ⟨w, rest⟩
  · simp
  · simp
  · simp

/-- A trigger with a number is printed and has a row, and one without is not printed and has none. -/
theorem numberRow_of_value {rows : List (Text × Text)} {printed : Option Json}
    (member : ∀ details, (name, details) ∈ rows ↔ ∃ n, target.value? = some n ∧ details = Text.ofInt n ++ unit)
    (told : printed = target.value?.map .int) : NumberRow rows name unit printed := by
  constructor
  · simp only [member, told]
    cases target.value? <;> simp
  · intro details there
    obtain ⟨n, given, rfl⟩ := (member details).mp there
    exact ⟨n, by rw [told, given]; rfl, rfl⟩

/-- Windows are printed and have a row, unless there are none. -/
theorem windowsRow_of_value {rows : List (Text × Text)} {printed : Option Json} {schedules : Field (List ScheduledWindow)}
    (member : ∀ details, (name, details) ∈ rows ↔ ∃ windows, schedules.value? = some windows ∧ windows ≠ [] ∧
      details = Text.join "\n\n" (blocks 1 windows))
    (told : printed = schedules.value?.map fun windows => .list (windows.map fun w => w.payload.sortKeys)) :
    WindowsRow rows name printed := by
  constructor
  · constructor
    · rintro ⟨details, there⟩
      obtain ⟨windows, given, some, _⟩ := (member details).mp there
      exact ⟨_, by rw [told, given]; rfl, by simpa using some⟩
    · rintro ⟨elements, listed, some⟩
      rw [told, Option.map_eq_some_iff] at listed
      obtain ⟨windows, given, same⟩ := listed
      cases same
      exact ⟨_, (member _).mpr ⟨windows, given, by simpa using some, rfl⟩⟩
  · intro details there
    obtain ⟨windows, given, _, rfl⟩ := (member details).mp there
    refine ⟨_, blocks 1 windows, by rw [told, given]; rfl, rfl, by rw [length_blocks, List.length_map], ?_⟩
    intro k element block listed numbered
    rw [List.getElem?_map, Option.map_eq_some_iff] at listed
    rw [getElem?_blocks, Option.map_eq_some_iff] at numbered
    obtain ⟨w, first, rfl⟩ := listed
    obtain ⟨_, second, rfl⟩ := numbered
    cases first.symm.trans second
    rw [Nat.add_comm 1 k]
    exact w.blockOf_payload (k + 1)

/-- What a row shows, by its name. -/
theorem mem_rows : (name, details) ∈ a.rows ↔
    (name = "CPU" ∧ ∃ n, a.cpu.value? = some n ∧ details = Text.ofInt n ++ "%") ∨
    (name = "Memory" ∧ ∃ n, a.memory.value? = some n ∧ details = Text.ofInt n ++ "%") ∨
    (name = "RPS" ∧ ∃ n, a.rps.value? = some n ∧ details = Text.ofInt n ++ " req/s") ∨
    (name = "Schedule(s)" ∧ ∃ windows, a.schedules.value? = some windows ∧ windows ≠ [] ∧
      details = Text.join "\n\n" (blocks 1 windows)) := by
  simp only [rows_eq, List.mem_append, mem_triggerRow, mem_windowsRow, or_assoc]

/-- The rows of a policy show what is printed for it. -/
theorem rowsOf_payload (a : Autoscale) : RowsOf a.payload.sortKeys a.rows := by
  obtain ⟨_, _, cpu, memory, rps, schedules⟩ := a.member?_payload
  have sorted (key : Text) : a.payload.sortKeys.member? key = (Json.member? key a.payload).map Json.sortKeys :=
    Json.member?_sortKeys a.nodup_keys_payload key
  have number {key : Text} {target : Field Int} (told : Json.member? key a.payload = target.value?.map .int) :
      a.payload.sortKeys.member? key = target.value?.map .int := by
    rw [sorted, told]
    cases target.value? <;> rfl
  have listed : a.payload.sortKeys.member? "schedules" =
      a.schedules.value?.map fun windows => .list (windows.map fun w => w.payload.sortKeys) := by
    rw [sorted, schedules, Option.map_map]
    refine Option.map_congr fun windows _ => ?_
    rw [Function.comp_apply, Json.sortKeys, Json.sortKeysInItems_eq_map, List.map_map]
    rfl
  refine ⟨a.names_rows, numberRow_of_value (fun _ => ?_) (number cpu), numberRow_of_value (fun _ => ?_) (number memory),
    numberRow_of_value (fun _ => ?_) (number rps), windowsRow_of_value (fun _ => ?_) listed⟩
  all_goals
    rw [mem_rows]
    simp +decide only [true_and, false_and, or_false, false_or]

/-- A policy read from a JSON text is shown the same way in both forms: the rows of its table show what the object tells
that is printed for programs. For a source in Unicode, that object can be read from what is printed. -/
theorem rows_agree_with_printed {source : Text} {document : Json} {policy : Autoscale}
    (parsed : Json.parse source = .ok document) (accepted : validate document = .ok policy) :
    ∃ printed, policy.renderJson = Json.renderIndented 0 printed ++ "\n" ∧ RowsOf printed policy.rows ∧
      (source.IsUnicode → Json.parse policy.renderJson = .ok printed) := by
  refine ⟨policy.payload.sortKeys, rfl, policy.rowsOf_payload, fun unicode => ?_⟩
  have holds := holds_of_validate (Json.keeps_unsplit.parse parsed unicode) accepted
  exact parse_renderJson (holds.readable fun _ unsplit _ => unsplit)

/-- A policy with a trigger of zero, one that is null, and a window without a description of its end. -/
def mixedSource : Text :=
  "\x7b\"cpu\": \"80\", \"memory\": null, \"rps\": 0, \"schedules\": [\x7b\"min_replicas\": 2, \"start\": \"0 8 * * *\", \"end\": \"never\", \"timezone\": \"\"\x7d]\x7d"

def mixed : Autoscale :=
  { cpu := .value 80, memory := .null, rps := .value 0,
    schedules := .value [{ minReplicas := 2, opening := "0 8 * * *", closing := "never", timezone := .value [] }] }

def mixedRows : List (Text × Text) :=
  [("CPU", "80%"), ("RPS", "0 req/s"),
    ("Schedule(s)", "Window 1:\n  Min replicas: 2\n  Start: At 08:00 AM (0 8 * * *)\n  End: never")]

theorem rows_agree_with_printed_mixed : ∃ document printed, Json.parse mixedSource = .ok document ∧
    validate document = .ok mixed ∧ mixedSource.IsUnicode ∧ mixed.rows = mixedRows ∧
    Json.parse mixed.renderJson = .ok printed ∧ RowsOf printed mixedRows := by
  have run : ((Json.parse mixedSource).toOption.bind fun document => (validate document).toOption) = some mixed := by
    decide +kernel
  obtain ⟨document, parsed, accepted⟩ := Option.bind_eq_some_iff.mp run
  rw [toOption_eq_some] at parsed accepted
  have unicode : mixedSource.IsUnicode := by decide +kernel
  have rows : mixed.rows = mixedRows := by decide +kernel
  obtain ⟨printed, _, shown, read⟩ := rows_agree_with_printed parsed accepted
  exact ⟨document, printed, parsed, accepted, unicode, rows, read unicode, rows ▸ shown⟩

end Autoscale

end ProxyControl
