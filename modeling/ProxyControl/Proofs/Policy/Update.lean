import ProxyControl.Proofs.Policy.Fragment
import ProxyControl.Proofs.Policy.RoundTrip

namespace ProxyControl

/-- The window that a fragment of a command line describes. -/
theorem ScheduledWindow.holds_of_parse {fragment : Text} {w : ScheduledWindow} (run : parse fragment = .ok w) :
    w.Holds fun _ => True := by
  obtain ⟨object, document, described, _⟩ := parse_eq_ok.mp run
  obtain ⟨members, rfl⟩ := described.exists_members
  exact passes_check _ w (Json.keeps_nothing.parse document trivial) (check_object_eq_ok.mpr described)

namespace UpdateFlags

/-- The numbers of an update can be printed. -/
structure Printable (flags : UpdateFlags) : Prop where
  minimum : Json.Printable flags.minimum
  maximum : Json.Printable flags.maximum
  cpu : ∀ n ∈ flags.cpu, Json.Printable n
  memory : ∀ n ∈ flags.memory, Json.Printable n
  rps : ∀ n ∈ flags.rps, Json.Printable n

theorem target_eq_ok {trigger : Trigger} {asked : Option Int} {field : Field Int}
    (run : target trigger asked = .ok field) : field.value? = asked ∧ ∀ n ∈ asked, 0 < n := by
  unfold target at run
  split at run
  · cases run
    simp [Field.value?]
  · rename_i n
    split at run
    · cases run
    · rename_i positive
      cases run
      refine ⟨rfl, fun m same => ?_⟩
      cases same
      omega

/-- What the policy of an update asks for. -/
theorem policy_eq_ok {flags : UpdateFlags} {policy : Autoscale} (accepted : flags.policy = .ok policy) :
    0 ≤ flags.minimum ∧ flags.minimum < flags.maximum ∧ policy.minReplicas = some flags.minimum.toNat ∧
      policy.maxReplicas = some flags.maximum.toNat ∧ policy.cpu.value? = flags.cpu ∧
      policy.memory.value? = flags.memory ∧ policy.rps.value? = flags.rps ∧
      ∃ windows, flags.schedules.mapM ScheduledWindow.parse = .ok windows ∧
        policy.schedules = if flags.schedules.isEmpty then .unset else .value windows := by
  unfold UpdateFlags.policy at accepted
  split at accepted
  · cases accepted
  rename_i natural
  split at accepted
  · cases accepted
  rename_i above
  obtain ⟨cpu, first, accepted⟩ := bind_eq_ok.mp accepted
  obtain ⟨memory, second, accepted⟩ := bind_eq_ok.mp accepted
  obtain ⟨rps, third, accepted⟩ := bind_eq_ok.mp accepted
  obtain ⟨windows, fourth, accepted⟩ := bind_eq_ok.mp accepted
  cases accepted
  exact ⟨by omega, by omega, rfl, rfl, (target_eq_ok first).1, (target_eq_ok second).1, (target_eq_ok third).1, windows,
    fourth, rfl⟩

/-- What an update has to ask for. -/
structure Accepted (flags : UpdateFlags) : Prop where
  natural : 0 ≤ flags.minimum
  above : flags.minimum < flags.maximum
  positive : ∀ n, flags.cpu = some n ∨ flags.memory = some n ∨ flags.rps = some n → 0 < n
  windows : ∀ fragment ∈ flags.schedules, ∃ window, ScheduledWindow.parse fragment = .ok window

theorem accepted_of_policy {flags : UpdateFlags} {policy : Autoscale}
    (described : flags.policy = .ok policy) : flags.Accepted := by
  unfold UpdateFlags.policy at described
  split at described
  · cases described
  rename_i natural
  split at described
  · cases described
  rename_i above
  obtain ⟨_, cpu, described⟩ := bind_eq_ok.mp described
  obtain ⟨_, memory, described⟩ := bind_eq_ok.mp described
  obtain ⟨_, rps, described⟩ := bind_eq_ok.mp described
  obtain ⟨_, windows, _⟩ := bind_eq_ok.mp described
  refine ⟨Int.not_lt.mp natural, Int.not_le.mp above, ?_, mapM_ok_of_mem windows⟩
  rintro n (given | given | given)
  · exact (target_eq_ok cpu).2 n given
  · exact (target_eq_ok memory).2 n given
  · exact (target_eq_ok rps).2 n given

theorem holds_of_policy {flags : UpdateFlags} {policy : Autoscale} (printable : flags.Printable)
    (accepted : flags.policy = .ok policy) : policy.Holds fun _ => True := by
  obtain ⟨natural, above, minimum, maximum, cpu, memory, rps, windows, parsed, schedules⟩ := policy_eq_ok accepted
  have whole {n : Int} (natural : 0 ≤ n) (printable : Json.Printable n) : Json.Printable (n.toNat : Int) := by
    rwa [Int.toNat_of_nonneg natural]
  refine ⟨?_, ?_, ?_, ?_, ?_, ?_⟩
  · rw [Autoscale.minimum, minimum]
    exact whole natural printable.minimum
  · rw [Autoscale.maximum, maximum]
    exact whole (by omega) printable.maximum
  · rw [cpu]
    exact printable.cpu
  · rw [memory]
    exact printable.memory
  · rw [rps]
    exact printable.rps
  · intro list given w member
    rw [schedules] at given
    split at given
    · cases given
    · cases given
      obtain ⟨fragment, _, described⟩ := mapM_eq_ok parsed w member
      exact ScheduledWindow.holds_of_parse described

end UpdateFlags

end ProxyControl
