import ProxyControl.Proofs.Policy.Member

namespace ProxyControl

open Json (Printable Readable Shallow Unsplit nestingLimit)
open Validation (Passes)

namespace ScheduledWindow

/-- The number of a window can be written, and its texts meet a condition. -/
structure Holds (onText : Text → Prop) (w : ScheduledWindow) : Prop where
  minReplicas : Printable w.minReplicas
  opening : onText w.opening
  closing : onText w.closing
  timezone : ∀ zone ∈ w.timezone.value?, onText zone

variable {onText : Text → Prop}

/-- All that reading a window can do. -/
theorem check_eq_ok {input : Datum} {w : ScheduledWindow} :
    check input = .ok w ↔ ∃ entries minReplicas opening closing timezone,
      input = .mapping entries ∧
      Validation.required ["minReplicas", "min_replicas"] Validation.count entries = .ok minReplicas ∧
      Validation.required ["start"] Validation.text entries = .ok opening ∧
      Validation.required ["end"] Validation.text entries = .ok closing ∧
      Validation.field ["timezone"] (Validation.optional Validation.text) entries = .ok timezone ∧
      w = { minReplicas, opening, closing, timezone := .ofNested timezone } := by
  rw [check, bind_eq_ok]
  simp only [Validation.entries_eq_ok, Validation.with_eq_ok, Except.ok.injEq]
  constructor
  · rintro ⟨entries, mapping, _, timezone, ⟨_, closing, ⟨_, opening, ⟨_, minReplicas, rfl, first, rfl⟩, second, rfl⟩,
      third, rfl⟩, fourth, rfl⟩
    exact ⟨entries, minReplicas, opening, closing, timezone, mapping, first, second, third, fourth, rfl⟩
  · rintro ⟨entries, minReplicas, opening, closing, timezone, mapping, first, second, third, fourth, rfl⟩
    exact ⟨entries, mapping, _, timezone, ⟨_, closing, ⟨_, opening, ⟨_, minReplicas, rfl, first, rfl⟩, second, rfl⟩,
      third, rfl⟩, fourth, rfl⟩

theorem passes_check : Passes Printable onText check (Holds onText) := by
  intro input w each run
  obtain ⟨entries, minReplicas, opening, closing, timezone, rfl, first, second, third, fourth, rfl⟩ :=
    check_eq_ok.mp run
  have inner : ∀ entry ∈ entries, entry.2.Each Printable onText := by
    cases each with
    | mapping each => exact each
  refine ⟨?_, ?_, ?_, ?_⟩
  · exact Validation.passes_count.required inner first
  · exact Validation.passes_text.required inner second
  · exact Validation.passes_text.required inner third
  · have zones := Validation.passes_text.optional.field inner fourth
    intro zone given
    rw [Field.value?_ofNested] at given
    exact zones (some zone) (Option.join_eq_some_iff.mp given) zone rfl

/-- The members of what is sent for a window. -/
def members (w : ScheduledWindow) : List (Text × Json) :=
  optionalMember "minReplicas" (some (.int w.minReplicas)) ++ (optionalMember "start" (some (.text w.opening)) ++
    (optionalMember "end" (some (.text w.closing)) ++ optionalMember "timezone" (w.timezone.value?.map .text)))

theorem payload_eq (w : ScheduledWindow) : w.payload = .object w.members := rfl

theorem members_keys (w : ScheduledWindow) :
    (w.members.map Prod.fst).Sublist ["minReplicas", "start", "end", "timezone"] := by
  simp only [members, List.map_append]
  exact (keys_optionalMember _ _).append ((keys_optionalMember _ _).append
    ((keys_optionalMember _ _).append (keys_optionalMember _ _)))

/-- The window as it is known after it was sent. -/
def sent (w : ScheduledWindow) : ScheduledWindow := { w with timezone := w.timezone.sent }

/-- What stands in the payload of a window. -/
theorem member?_payload (w : ScheduledWindow) : Json.member? "minReplicas" w.payload = some (.int w.minReplicas) ∧
    Json.member? "start" w.payload = some (.text w.opening) ∧ Json.member? "end" w.payload = some (.text w.closing) ∧
    Json.member? "timezone" w.payload = w.timezone.value?.map .text := by
  simp (disch := decide) only [payload_eq, members, Json.member?, List.lookup_append, lookup_optionalMember,
    lookup_optionalMember_of_ne, Option.or_none, Option.none_or, and_self]

/-- A window that was sent is read back with the same values. -/
theorem check_payload (w : ScheduledWindow) : check w.payload.toDatum = .ok w.sent := by
  obtain ⟨number, opening, closing, zone⟩ := w.member?_payload
  rw [check_eq_ok]
  refine ⟨Json.membersToData w.members, w.minReplicas, w.opening, w.closing, w.timezone.value?.map some, rfl,
    Json.required_of_lookup number rfl, Json.required_of_lookup opening rfl, Json.required_of_lookup closing rfl,
    Json.field_optional id zone fun _ => rfl, ?_⟩
  rw [sent, Field.ofNested_value?]

theorem Holds.readable {asciiOnly : Bool} {w : ScheduledWindow} (holds : w.Holds onText)
    (unsplit : ∀ t, onText t → asciiOnly = true → Unsplit t) : Readable asciiOnly w.payload := by
  rw [payload_eq]
  refine Json.readable_object w.members_keys (by decide) (by decide) ?_
  simp only [members, List.forall_mem_append, forall_mem_optionalMember, Option.mem_def,
    Option.some.injEq, forall_eq', Option.map_eq_some_iff, forall_exists_index, and_imp, forall_apply_eq_imp_iff₂]
  exact ⟨.int holds.minReplicas, .text (unsplit _ holds.opening), .text (unsplit _ holds.closing),
    fun zone given => .text (unsplit zone (holds.timezone zone given))⟩

theorem shallow_payload (w : ScheduledWindow) : Shallow 1 w.payload := by
  rw [payload_eq]
  refine .object ?_
  simp only [members, List.forall_mem_append, forall_mem_optionalMember, Option.mem_def, Option.some.injEq,
    forall_eq', Option.map_eq_some_iff, forall_exists_index, and_imp, forall_apply_eq_imp_iff₂]
  exact ⟨.int _, .text _, .text _, fun zone _ => .text zone⟩

end ScheduledWindow

namespace Autoscale

/-- The integers of a policy can be written, and the texts of its windows meet a condition. -/
structure Holds (onText : Text → Prop) (a : Autoscale) : Prop where
  minimum : Printable a.minimum
  maximum : Printable a.maximum
  cpu : ∀ n ∈ a.cpu.value?, Printable n
  memory : ∀ n ∈ a.memory.value?, Printable n
  rps : ∀ n ∈ a.rps.value?, Printable n
  schedules : ∀ windows ∈ a.schedules.value?, ∀ w ∈ windows, w.Holds onText

variable {onText : Text → Prop}

/-- All that reading a policy can do. -/
theorem check_eq_ok {input : Datum} {a : Autoscale} :
    check input = .ok a ↔ ∃ entries minReplicas maxReplicas cpu memory rps schedules,
      input = .mapping entries ∧
      Validation.field ["minReplicas", "min_replicas"] Validation.count entries = .ok minReplicas ∧
      Validation.field ["maxReplicas", "max_replicas"] Validation.count entries = .ok maxReplicas ∧
      Validation.field ["cpu"] (Validation.optional Validation.integer) entries = .ok cpu ∧
      Validation.field ["memory"] (Validation.optional Validation.integer) entries = .ok memory ∧
      Validation.field ["rps"] (Validation.optional Validation.integer) entries = .ok rps ∧
      Validation.field ["schedules"] (Validation.optional (Validation.listOf ScheduledWindow.check)) entries =
        .ok schedules ∧
      a = { minReplicas, maxReplicas, cpu := .ofNested cpu, memory := .ofNested memory, rps := .ofNested rps,
            schedules := .ofNested schedules } := by
  rw [check, bind_eq_ok]
  simp only [Validation.entries_eq_ok, Validation.with_eq_ok, Except.ok.injEq]
  constructor
  · rintro ⟨entries, mapping, _, schedules, ⟨_, rps, ⟨_, memory, ⟨_, cpu, ⟨_, maxReplicas, ⟨_, minReplicas, rfl,
      first, rfl⟩, second, rfl⟩, third, rfl⟩, fourth, rfl⟩, fifth, rfl⟩, sixth, rfl⟩
    exact ⟨entries, minReplicas, maxReplicas, cpu, memory, rps, schedules, mapping, first, second, third, fourth, fifth,
      sixth, rfl⟩
  · rintro ⟨entries, minReplicas, maxReplicas, cpu, memory, rps, schedules, mapping, first, second, third, fourth,
      fifth, sixth, rfl⟩
    exact ⟨entries, mapping, _, schedules, ⟨_, rps, ⟨_, memory, ⟨_, cpu, ⟨_, maxReplicas, ⟨_, minReplicas, rfl,
      first, rfl⟩, second, rfl⟩, third, rfl⟩, fourth, rfl⟩, fifth, rfl⟩, sixth, rfl⟩

theorem passes_check : Passes Printable onText check (Holds onText) := by
  intro input a each run
  obtain ⟨entries, minReplicas, maxReplicas, cpu, memory, rps, schedules, rfl, first, second, third, fourth, fifth,
    sixth, rfl⟩ := check_eq_ok.mp run
  have inner : ∀ entry ∈ entries, entry.2.Each Printable onText := by
    cases each with
    | mapping each => exact each
  have bound {given : Option Nat} (each : ∀ n ∈ given, Printable n) : Printable (given.getD 0 : Nat) := by
    cases given with
    | none => exact Json.printable_zero
    | some n => exact each n rfl
  have nested {α : Type} {given : Option (Option α)} {kept : α → Prop}
      (each : ∀ found ∈ given, ∀ x ∈ found, kept x) : ∀ x ∈ (Field.ofNested given).value?, kept x := by
    intro x value
    rw [Field.value?_ofNested] at value
    exact each (some x) (Option.join_eq_some_iff.mp value) x rfl
  refine ⟨?_, ?_, ?_, ?_, ?_, ?_⟩
  · exact bound (Validation.passes_count.field inner first)
  · exact bound (Validation.passes_count.field inner second)
  · exact nested (Validation.passes_integer.optional.field inner third)
  · exact nested (Validation.passes_integer.optional.field inner fourth)
  · exact nested (Validation.passes_integer.optional.field inner fifth)
  · exact nested (ScheduledWindow.passes_check.listOf.optional.field inner sixth)

/-- The members of what is sent for a policy. -/
def members (a : Autoscale) : List (Text × Json) :=
  optionalMember "minReplicas" (some (.int a.minimum)) ++ (optionalMember "maxReplicas" (some (.int a.maximum)) ++
    (optionalMember "cpu" (a.cpu.value?.map .int) ++ optionalMember "memory" (a.memory.value?.map .int) ++
      optionalMember "rps" (a.rps.value?.map .int) ++
      optionalMember "schedules" (a.schedules.value?.map fun windows => .list (windows.map ScheduledWindow.payload))))

theorem payload_eq (a : Autoscale) : a.payload = .object a.members := rfl

theorem members_keys (a : Autoscale) :
    (a.members.map Prod.fst).Sublist ["minReplicas", "maxReplicas", "cpu", "memory", "rps", "schedules"] := by
  simp only [members, List.map_append]
  exact (keys_optionalMember _ _).append ((keys_optionalMember _ _).append
    ((((keys_optionalMember _ _).append (keys_optionalMember _ _)).append (keys_optionalMember _ _)).append
      (keys_optionalMember _ _)))

/-- The policy as it is known after it was sent. -/
def sent (a : Autoscale) : Autoscale where
  minReplicas := some a.minimum
  maxReplicas := some a.maximum
  cpu := a.cpu.sent
  memory := a.memory.sent
  rps := a.rps.sent
  schedules := (a.schedules.map (List.map ScheduledWindow.sent)).sent

theorem itemsFrom_windows (position : Nat) (windows : List ScheduledWindow) :
    Validation.itemsFrom ScheduledWindow.check position (Json.itemsToData (windows.map ScheduledWindow.payload)) =
      .ok (windows.map ScheduledWindow.sent) := by
  induction windows generalizing position with
  | nil => rfl
  | cons w windows ih =>
    rw [List.map_cons, Json.itemsToData, Validation.itemsFrom, Validation.with_eq_ok]
    refine ⟨List.cons w.sent, windows.map ScheduledWindow.sent, ?_, ih (position + 1), rfl⟩
    exact Validation.with_eq_ok.mpr ⟨List.cons, w.sent, rfl, Validation.under_eq_ok.mpr w.check_payload, rfl⟩

/-- What stands in the payload of a policy. -/
theorem member?_payload (a : Autoscale) : Json.member? "minReplicas" a.payload = some (.int a.minimum) ∧
    Json.member? "maxReplicas" a.payload = some (.int a.maximum) ∧
    Json.member? "cpu" a.payload = a.cpu.value?.map .int ∧
    Json.member? "memory" a.payload = a.memory.value?.map .int ∧
    Json.member? "rps" a.payload = a.rps.value?.map .int ∧
    Json.member? "schedules" a.payload =
      a.schedules.value?.map fun windows => .list (windows.map ScheduledWindow.payload) := by
  simp (disch := decide) only [payload_eq, members, Json.member?, List.lookup_append, lookup_optionalMember,
    lookup_optionalMember_of_ne, Option.or_none, Option.none_or, and_self]

/-- A policy that was sent is read back with the same values. -/
theorem check_payload (a : Autoscale) : check a.payload.toDatum = .ok a.sent := by
  obtain ⟨minimum, maximum, cpu, memory, rps, schedules⟩ := a.member?_payload
  rw [check_eq_ok]
  refine ⟨Json.membersToData a.members, some a.minimum, some a.maximum, a.cpu.value?.map some,
    a.memory.value?.map some, a.rps.value?.map some,
    a.schedules.value?.map fun windows => some (windows.map ScheduledWindow.sent), rfl,
    Json.field_of_lookup minimum rfl, Json.field_of_lookup maximum rfl, Json.field_optional id cpu fun _ => rfl,
    Json.field_optional id memory fun _ => rfl, Json.field_optional id rps fun _ => rfl,
    Json.field_optional (List.map ScheduledWindow.sent) schedules fun windows => ?_, ?_⟩
  · exact map_eq_ok.mpr ⟨_, itemsFrom_windows 0 windows, rfl⟩
  · have windows : a.schedules.value?.map (fun windows => some (windows.map ScheduledWindow.sent)) =
        (a.schedules.map (List.map ScheduledWindow.sent)).value?.map some := by
      rw [Field.value?_map, Option.map_map]
      rfl
    rw [sent, windows]
    simp only [Field.ofNested_value?]

theorem validate_payload (a : Autoscale) : validate a.payload = .ok a.sent :=
  mapError_eq_ok.mpr (mapError_eq_ok.mpr a.check_payload)

theorem Holds.readable {asciiOnly : Bool} {a : Autoscale} (holds : a.Holds onText)
    (unsplit : ∀ t, onText t → asciiOnly = true → Unsplit t) : Readable asciiOnly a.payload := by
  rw [payload_eq]
  refine Json.readable_object a.members_keys (by decide) (by decide) ?_
  simp only [members, List.forall_mem_append, forall_mem_optionalMember, Option.mem_def, Option.some.injEq, forall_eq',
    Option.map_eq_some_iff, forall_exists_index, and_imp, forall_apply_eq_imp_iff₂]
  refine ⟨.int holds.minimum, .int holds.maximum, ⟨⟨fun n given => .int (holds.cpu n given),
    fun n given => .int (holds.memory n given)⟩, fun n given => .int (holds.rps n given)⟩, fun windows given => ?_⟩
  refine .list fun item member => ?_
  obtain ⟨w, source, rfl⟩ := List.mem_map.mp member
  exact (holds.schedules windows given w source).readable unsplit

/-- Whatever its windows, what is sent for a policy goes three levels deep at most. -/
theorem shallow_payload (a : Autoscale) : Shallow nestingLimit a.payload := by
  rw [payload_eq]
  suffices shallow : Shallow 3 (.object a.members) from shallow.mono (by decide)
  refine .object ?_
  simp only [members, List.forall_mem_append, forall_mem_optionalMember, Option.mem_def, Option.some.injEq, forall_eq',
    Option.map_eq_some_iff, forall_exists_index, and_imp, forall_apply_eq_imp_iff₂]
  refine ⟨.int _, .int _, ⟨⟨fun n _ => .int n, fun n _ => .int n⟩, fun n _ => .int n⟩, fun windows _ => ?_⟩
  refine .list fun item member => ?_
  obtain ⟨w, _, rfl⟩ := List.mem_map.mp member
  exact w.shallow_payload

end Autoscale

end ProxyControl
