import ProxyControl.Proofs.Policy.Payload

namespace ProxyControl

open Json (Printable Unsplit)

namespace ScheduledWindow

/-- The window with the split pairs of its texts joined, as an escaped text has them. -/
def joined (w : ScheduledWindow) : ScheduledWindow :=
  { w with opening := Json.joined w.opening, closing := Json.joined w.closing, timezone := w.timezone.map Json.joined }

theorem renderMember_text (key t : Text) :
    Json.renderMember Json.spaced (key, .text (Json.joined t)) = Json.renderMember Json.spaced (key, .text t) := by
  rw [Json.renderMember, Json.renderMember, Json.render, Json.render, Json.spaced, Json.literal_joined]

theorem render_joined (w : ScheduledWindow) : w.joined.payload.render Json.spaced = w.payload.render Json.spaced := by
  rw [payload_eq, payload_eq, Json.render, Json.render, Json.renderMembers_eq_join, Json.renderMembers_eq_join]
  cases zone : w.timezone with
  | value zone => simp [members, joined, optionalMember, zone, Field.map, Field.value?, renderMember_text]
  | unset => simp [members, joined, optionalMember, zone, Field.map, Field.value?, renderMember_text]
  | null => simp [members, joined, optionalMember, zone, Field.map, Field.value?, renderMember_text]

theorem Holds.joined {onText : Text → Prop} {w : ScheduledWindow} (holds : w.Holds onText) :
    w.joined.Holds Unsplit := by
  refine ⟨holds.minReplicas, Json.unsplit_joined _, Json.unsplit_joined _, fun zone given => ?_⟩
  rw [ScheduledWindow.joined, Field.value?_map] at given
  obtain ⟨source, _, rfl⟩ := Option.map_eq_some_iff.mp given
  exact Json.unsplit_joined source

theorem Holds.joined_eq {w : ScheduledWindow} (holds : w.Holds Unsplit) : w.joined = w := by
  have zone : w.timezone.map Json.joined = w.timezone := by
    cases given : w.timezone with
    | value zone => rw [Field.map, Json.joined_of_unsplit (holds.timezone zone (by rw [given]; rfl))]
    | unset => rfl
    | null => rfl
  rw [ScheduledWindow.joined, Json.joined_of_unsplit holds.opening, Json.joined_of_unsplit holds.closing, zone]

@[simp] theorem payload_sent (w : ScheduledWindow) : w.sent.payload = w.payload := by
  rw [payload_eq, payload_eq, members, members, sent, Field.value?_sent]

@[simp] theorem sameValues_sent (w : ScheduledWindow) : w.sameValues w.sent = true := by
  simp [sameValues, sent]

end ScheduledWindow

namespace Autoscale

/-- The policy with the split pairs of its texts joined. -/
def joined (a : Autoscale) : Autoscale := { a with schedules := a.schedules.map (List.map ScheduledWindow.joined) }

theorem renderMember_windows (windows : List ScheduledWindow) :
    Json.renderMember Json.spaced
        ("schedules", .list ((windows.map ScheduledWindow.joined).map ScheduledWindow.payload)) =
      Json.renderMember Json.spaced ("schedules", .list (windows.map ScheduledWindow.payload)) := by
  simp only [Json.renderMember, Json.render, Json.renderItems_eq_join, List.map_map, Function.comp_def,
    ScheduledWindow.render_joined]

theorem render_joined (a : Autoscale) : a.joined.payload.render Json.spaced = a.payload.render Json.spaced := by
  have last : (optionalMember "schedules" (a.joined.schedules.value?.map fun windows =>
      .list (windows.map ScheduledWindow.payload))).map (Json.renderMember Json.spaced) =
      (optionalMember "schedules" (a.schedules.value?.map fun windows =>
        .list (windows.map ScheduledWindow.payload))).map (Json.renderMember Json.spaced) := by
    rw [joined, Field.value?_map]
    cases a.schedules.value? with
    | none => rfl
    | some windows => exact congrArg (fun member => [member]) (renderMember_windows windows)
  rw [payload_eq, payload_eq, Json.render, Json.render, Json.renderMembers_eq_join, Json.renderMembers_eq_join, members,
    members]
  simp only [List.map_append, last]
  rfl

theorem Holds.joined {onText : Text → Prop} {a : Autoscale} (holds : a.Holds onText) : a.joined.Holds Unsplit := by
  refine ⟨holds.minimum, holds.maximum, holds.cpu, holds.memory, holds.rps, fun windows given w member => ?_⟩
  rw [Autoscale.joined, Field.value?_map] at given
  obtain ⟨source, found, rfl⟩ := Option.map_eq_some_iff.mp given
  obtain ⟨v, from_source, rfl⟩ := List.mem_map.mp member
  exact (holds.schedules source found v from_source).joined

theorem Holds.joined_eq {a : Autoscale} (holds : a.Holds Unsplit) : a.joined = a := by
  have windows : a.schedules.map (List.map ScheduledWindow.joined) = a.schedules := by
    cases given : a.schedules with
    | value windows =>
      rw [Field.map, List.map_congr_left fun w member =>
        (holds.schedules windows (by rw [given]; rfl) w member).joined_eq, List.map_id']
    | unset => rfl
    | null => rfl
  rw [Autoscale.joined, windows]

@[simp] theorem payload_sent (a : Autoscale) : a.sent.payload = a.payload := by
  rw [payload_eq, payload_eq, members, members]
  simp only [sent, minimum, maximum, Field.value?_sent, Field.value?_map, Option.map_map, Function.comp_def,
    Option.getD_some, List.map_map, ScheduledWindow.payload_sent]

theorem sameWindows_sent (windows : List ScheduledWindow) :
    sameWindows windows (windows.map ScheduledWindow.sent) = true := by
  induction windows with
  | nil => rfl
  | cons w windows ih => rw [List.map_cons, sameWindows, ih, ScheduledWindow.sameValues_sent, Bool.and_true]

@[simp] theorem sameValues_sent (a : Autoscale) : a.sameValues a.sent = true := by
  have windows : a.sent.schedules.value? = a.schedules.value?.map (List.map ScheduledWindow.sent) := by
    rw [sent, Field.value?_sent, Field.value?_map]
  rw [sameValues, windows]
  cases a.schedules.value? with
  | none => simp [sent, minimum, maximum]
  | some windows => simp [sent, minimum, maximum, sameWindows_sent]

/-- Validation takes the integers and texts of a policy from the document. -/
theorem holds_of_validate {onText : Text → Prop} {document : Json} {a : Autoscale}
    (each : document.toDatum.Each Printable onText) (accepted : validate document = .ok a) : a.Holds onText :=
  passes_check _ a each (mapError_eq_ok.mp (mapError_eq_ok.mp accepted))

/-- A policy read from a JSON text, written and read again, is a policy that is written as the same text. It has the
same values as the first one; only a source that spells a pair of bare surrogates, which no Unicode text does, may
come back with the one code point that they stand for. -/
theorem validate_written_payload {source : Text} {document : Json} {policy : Autoscale}
    (parsed : Json.parse source = .ok document) (accepted : validate document = .ok policy) :
    ∃ back again, Json.parse (policy.payload.render Json.spaced) = .ok back ∧ validate back = .ok again ∧
      again.payload.render Json.spaced = policy.payload.render Json.spaced ∧
      (source.IsUnicode → policy.sameValues again = true ∧ again.payload = policy.payload) := by
  have holds := holds_of_validate (Json.keeps_nothing.parse parsed trivial) accepted
  have written : Json.parse (policy.payload.render Json.spaced) = .ok policy.joined.payload := by
    rw [← render_joined]
    exact Json.parse_render Json.plain_spaced (holds.joined.readable fun _ unsplit _ => unsplit)
      policy.joined.shallow_payload
  refine ⟨policy.joined.payload, policy.joined.sent, written, validate_payload policy.joined, ?_, fun unicode => ?_⟩
  · rw [payload_sent, render_joined]
  · have unsplit := holds_of_validate (Json.keeps_unsplit.parse parsed unicode) accepted
    rw [unsplit.joined_eq]
    exact ⟨sameValues_sent policy, payload_sent policy⟩

theorem validate_written_payload_mixed :
    ∃ document, Json.parse "\x7b\"min_replicas\": \"2\", \"cpu\": 70.0, \"rps\": null, \"x\": 1\x7d" = .ok document ∧
      validate document = .ok { minReplicas := some 2, cpu := .value 70, rps := .null } ∧
      ∃ back again, Json.parse "\x7b\"minReplicas\": 2, \"maxReplicas\": 0, \"cpu\": 70\x7d" = .ok back ∧
        validate back = .ok again ∧
        sameValues { minReplicas := some 2, cpu := .value 70, rps := .null } again = true := by
  have run : ((Json.parse "\x7b\"min_replicas\": \"2\", \"cpu\": 70.0, \"rps\": null, \"x\": 1\x7d").toOption.bind
      fun document => (validate document).toOption) =
      some { minReplicas := some 2, cpu := .value 70, rps := .null } := by decide +kernel
  obtain ⟨document, parsed, accepted⟩ := Option.bind_eq_some_iff.mp run
  rw [toOption_eq_some] at parsed accepted
  have written : (payload { minReplicas := some 2, cpu := .value 70, rps := .null }).render Json.spaced =
      "\x7b\"minReplicas\": 2, \"maxReplicas\": 0, \"cpu\": 70\x7d" := by decide +kernel
  obtain ⟨back, again, read, valid, _, equal⟩ := validate_written_payload parsed accepted
  rw [written] at read
  exact ⟨document, parsed, accepted, back, again, read, valid, (equal (by decide +kernel)).1⟩

end Autoscale

end ProxyControl
