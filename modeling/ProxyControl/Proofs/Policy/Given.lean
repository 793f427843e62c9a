import ProxyControl.Proofs.Policy.Update

namespace ProxyControl

/-- What is sent for a window, by the object that describes it: its minimum as a number, both expressions, and the time
zone unless it is null. The wire name of the minimum wins over the other one. -/
def ScheduledWindow.SentFor (object sent : Json) : Prop :=
  ∃ value minimum opening closing,
    (["minReplicas", "min_replicas"] : List Text).findSome? (fun name => object.member? name) = some value ∧
    Validation.count value.toDatum = .ok minimum ∧
    object.member? "start" = some (.text opening) ∧ object.member? "end" = some (.text closing) ∧
    sent = .object (("minReplicas", .int minimum) :: ("start", .text opening) :: ("end", .text closing) ::
      optionalMember "timezone" (object.present? "timezone"))

theorem ScheduledWindow.sentFor_of_parse {fragment : Text} {w : ScheduledWindow} (run : parse fragment = .ok w) :
    ∃ object, Json.parse fragment = .ok object ∧ SentFor object w.payload := by
  obtain ⟨object, document, described, _⟩ := parse_eq_ok.mp run
  obtain ⟨value, named, taken⟩ := described.minimum
  refine ⟨object, document, value, w.minReplicas, w.opening, w.closing, named, Validation.count_eq_ok.mpr taken,
    described.opening, described.closing, ?_⟩
  rw [Json.present?_of_given described.timezone]
  rfl

namespace UpdateFlags

theorem target_of_positive (trigger : Trigger) {asked : Option Int} (positive : ∀ n ∈ asked, 0 < n) :
    ∃ field, target trigger asked = .ok field := by
  cases asked with
  | none => exact ⟨.unset, rfl⟩
  | some n =>
    have above := positive n rfl
    exact ⟨.value n, by rw [target, if_neg (by omega)]⟩

/-- An update that asks for what it has to is taken. -/
theorem policy_of_accepted {flags : UpdateFlags} (accepted : flags.Accepted) : ∃ policy, flags.policy = .ok policy := by
  have positive := accepted.positive
  obtain ⟨cpu, first⟩ := target_of_positive .cpu fun n given => positive n (.inl given)
  obtain ⟨memory, second⟩ := target_of_positive .memory fun n given => positive n (.inr (.inl given))
  obtain ⟨rps, third⟩ := target_of_positive .rps fun n given => positive n (.inr (.inr given))
  obtain ⟨windows, fourth⟩ := exists_mapM_of_forall accepted.windows
  rw [policy, if_neg (Int.not_lt.mpr accepted.natural), if_neg (Int.not_le.mpr accepted.above), first, second, third,
    fourth]
  exact ⟨_, rfl⟩

/-- The members that are sent for an update: both bounds, the triggers that were given, and the windows if there are
any. -/
def members (flags : UpdateFlags) (windows : List Json) : List (Text × Json) :=
  ("minReplicas", .int flags.minimum) :: ("maxReplicas", .int flags.maximum) ::
    (optionalMember "cpu" (flags.cpu.map .int) ++ optionalMember "memory" (flags.memory.map .int) ++
      optionalMember "rps" (flags.rps.map .int) ++
      optionalMember "schedules" (if flags.schedules = [] then none else some (.list windows)))

/-- An update is taken exactly if its bounds are in order, its triggers are positive, and each fragment describes a
window. Then just what was given is sent, and the windows in the order of their fragments. -/
theorem policy_sends_given (flags : UpdateFlags) :
    ((∃ policy, flags.policy = .ok policy) ↔ flags.Accepted) ∧
    ∀ policy, flags.policy = .ok policy → ∃ windows,
      List.Forall₂ (fun fragment w => ScheduledWindow.parse fragment = .ok w) flags.schedules windows ∧
      List.Forall₂ (fun fragment sent => ∃ object, Json.parse fragment = .ok object ∧
        ScheduledWindow.SentFor object sent) flags.schedules (windows.map ScheduledWindow.payload) ∧
      policy.payload = .object (flags.members (windows.map ScheduledWindow.payload)) := by
  refine ⟨⟨fun ⟨_, taken⟩ => accepted_of_policy taken, policy_of_accepted⟩, fun policy taken => ?_⟩
  obtain ⟨natural, above, minimum, maximum, cpu, memory, rps, windows, parsed, schedules⟩ := policy_eq_ok taken
  have each := mapM_eq_ok_iff.mp parsed
  refine ⟨windows, each, List.forall₂_map_right_iff.mpr (each.imp fun _ _ => ScheduledWindow.sentFor_of_parse), ?_⟩
  have lower : (policy.minimum : Int) = flags.minimum := by
    rw [Autoscale.minimum, minimum, Option.getD_some, Int.toNat_of_nonneg natural]
  have upper : (policy.maximum : Int) = flags.maximum := by
    rw [Autoscale.maximum, maximum, Option.getD_some, Int.toNat_of_nonneg (by omega)]
  have listed : (policy.schedules.value?.map fun windows => Json.list (windows.map ScheduledWindow.payload)) =
      if flags.schedules = [] then none else some (.list (windows.map ScheduledWindow.payload)) := by
    rw [schedules]
    cases flags.schedules with
    | nil => rfl
    | cons fragment more => rfl
  rw [Autoscale.payload, lower, upper, cpu, memory, rps, listed, members]

/-- An update with one trigger and two windows. The minimum of the first one is a text under its other name, and its
time zone is null. -/
def daytimeFlags : UpdateFlags where
  minimum := 2
  maximum := 6
  memory := some 70
  schedules :=
    ["\x7b\"min_replicas\": \"3\", \"start\": \"0 8 * * *\", \"end\": \"0 18 * * *\", \"timezone\": null\x7d",
      "\x7b\"minReplicas\": 4, \"start\": \"0 9 * * 1\", \"end\": \"0 17 * * 1\", \"timezone\": \"UTC\", \"x\": 0\x7d"]

/-- The body that is sent for it. -/
def daytimeBody : Text :=
  "\x7b\"minReplicas\":2,\"maxReplicas\":6,\"memory\":70,\"schedules\":[\x7b\"minReplicas\":3,\"start\":\"0 8 * * *\",\"end\":\"0 18 * * *\"\x7d,\x7b\"minReplicas\":4,\"start\":\"0 9 * * 1\",\"end\":\"0 17 * * 1\",\"timezone\":\"UTC\"\x7d]\x7d"

theorem policy_sends_daytime :
    ∃ policy windows, daytimeFlags.policy = .ok policy ∧
      List.Forall₂ (fun fragment w => ScheduledWindow.parse fragment = .ok w) daytimeFlags.schedules windows ∧
      policy.payload = .object (daytimeFlags.members (windows.map ScheduledWindow.payload)) ∧
      policy.payload.render Json.wire = daytimeBody := by
  have sent : daytimeFlags.policy.toOption.map (fun policy => policy.payload.render Json.wire) = some daytimeBody := by
    decide +kernel
  obtain ⟨policy, taken, shown⟩ := Option.map_eq_some_iff.mp sent
  obtain ⟨windows, each, _, payload⟩ := (policy_sends_given daytimeFlags).2 policy (toOption_eq_some.mp taken)
  exact ⟨policy, windows, toOption_eq_some.mp taken, each, payload, shown⟩

end UpdateFlags

end ProxyControl
