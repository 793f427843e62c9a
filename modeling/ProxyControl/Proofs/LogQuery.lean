import ProxyControl.Proofs.LogRequest

namespace ProxyControl

namespace LogArgs

variable {args : LogArgs} {name value : Text}

/-- Whether there is a value under a name. -/
def Tells (parameters : List (Text × Text)) (name value : Text) : Prop := (name, value) ∈ parameters

theorem tells_singleton {own told : Text} : Tells [(own, told)] name value ↔ name = own ∧ value = told := by
  rw [Tells, List.mem_singleton, Prod.mk.injEq]

/-- A parameter that is left out in some cases. -/
theorem tells_unless {skip : Prop} [Decidable skip] {own told : Text} :
    Tells (if skip then [] else [(own, told)]) name value ↔ name = own ∧ ¬ skip ∧ value = told := by
  split
  · rename_i skipped
    exact iff_of_false List.not_mem_nil fun sent => sent.2.1 skipped
  · rename_i kept
    rw [tells_singleton, and_iff_right kept]

theorem tells_textParameter {given : Option Text} {own : Text} :
    Tells (textParameter own given) name value ↔ name = own ∧ given = some value ∧ value ≠ [] := by
  cases given with
  | none => exact iff_of_false List.not_mem_nil fun sent => nomatch sent.2.1
  | some t =>
    refine tells_unless.trans (and_congr_right fun _ => ?_)
    rw [List.isEmpty_iff, Option.some.injEq]
    constructor
    · rintro ⟨nonempty, rfl⟩
      exact ⟨rfl, nonempty⟩
    · rintro ⟨rfl, nonempty⟩
      exact ⟨nonempty, rfl⟩

theorem tells_linesParameter {lines : Option Nat} : Tells (linesParameter lines) name value ↔
    name = "lines" ∧ ∃ n, lines = some n ∧ n ≠ 0 ∧ value = Text.ofNat n := by
  rcases lines with _ | _ | n
  · refine iff_of_false List.not_mem_nil ?_
    rintro ⟨_, _, absent, _⟩
    cases absent
  · refine iff_of_false List.not_mem_nil ?_
    rintro ⟨_, _, same, some, _⟩
    cases same
    exact some rfl
  · refine tells_singleton.trans (and_congr_right fun _ => ?_)
    constructor
    · rintro rfl
      exact ⟨n + 1, rfl, Nat.succ_ne_zero n, rfl⟩
    · rintro ⟨_, same, _, told⟩
      cases same
      exact told

theorem tells_sinceParameter {since : Option Duration} : Tells (sinceParameter since) name value ↔
    name = "since" ∧ ∃ d, since = some d ∧ d ≠ .zero ∧ value = Text.ofInt d.ceilingSeconds := by
  cases since with
  | none =>
    refine iff_of_false List.not_mem_nil ?_
    rintro ⟨_, _, absent, _⟩
    cases absent
  | some d =>
    refine tells_unless.trans (and_congr_right fun _ => ?_)
    constructor
    · rintro ⟨nonempty, told⟩
      exact ⟨d, rfl, nonempty, told⟩
    · rintro ⟨_, same, nonempty, told⟩
      cases same
      exact ⟨nonempty, told⟩

/-- What a log request holds under each name. -/
theorem tells_query : Tells args.query name value ↔
    (name = "follow" ∧ value = flagText args.follow) ∨ (name = "color" ∧ value = flagText args.color) ∨
    (name = "lines" ∧ ∃ n, args.lines = some n ∧ n ≠ 0 ∧ value = Text.ofNat n) ∨
    (name = "since" ∧ ∃ d, args.since = some d ∧ d ≠ .zero ∧ value = Text.ofInt d.ceilingSeconds) ∨
    (name = "pod" ∧ args.pod = some value ∧ value ≠ []) ∨
    (name = "container" ∧ args.container = some value ∧ value ≠ []) := by
  rw [← tells_linesParameter, ← tells_sinceParameter, ← tells_textParameter, ← tells_textParameter]
  unfold Tells query
  rw [List.mem_cons, List.mem_cons, List.mem_append, List.mem_append, List.mem_append, Prod.mk.injEq, Prod.mk.injEq,
    or_assoc, or_assoc]

theorem tells_lines : Tells args.query "lines" value ↔
    ∃ n, args.lines = some n ∧ n ≠ 0 ∧ value = Text.ofNat n := by
  rw [tells_query]
  simp +decide only [false_and, false_or, true_and, or_false]

theorem tells_since : Tells args.query "since" value ↔
    ∃ d, args.since = some d ∧ d ≠ .zero ∧ value = Text.ofInt d.ceilingSeconds := by
  rw [tells_query]
  simp +decide only [false_and, false_or, true_and, or_false]

theorem nodup_names_query (args : LogArgs) : (args.query.map Prod.fst).Nodup :=
  args.names_query.nodup (by decide)

end LogArgs

namespace LogFlags

open LogArgs (Tells tells_query)

variable {flags : LogFlags} {args : LogArgs}

/-- What is sent for flags that are accepted. -/
theorem args_eq_ok : flags.args = .ok args ↔ ∃ target since, Text.present flags.target = some target ∧
    (∀ n ∈ flags.lines, 0 ≤ n) ∧ (Text.present flags.since).mapM Duration.parse = .ok since ∧
    args = { target, since, pod := Text.present flags.pod, container := Text.present flags.container,
             lines := flags.lines.map Int.toNat, follow := flags.follow, color := flags.color } := by
  unfold LogFlags.args
  cases named : Text.present flags.target with
  | none =>
    refine iff_of_false nofun ?_
    rintro ⟨_, _, present, _⟩
    cases present
  | some target =>
    dsimp only
    split
    · rename_i negative
      obtain ⟨n, given, below⟩ := (Option.any_eq_true _ _).mp negative
      refine iff_of_false nofun ?_
      rintro ⟨_, _, _, natural, _⟩
      exact absurd (natural n given) (Int.not_le.mpr (of_decide_eq_true below))
    · rename_i natural
      have natural : ∀ n ∈ flags.lines, 0 ≤ n := by
        intro n given
        refine Int.not_lt.mp fun below => natural ?_
        exact (Option.any_eq_true _ _).mpr ⟨n, given, decide_eq_true below⟩
      rw [bind_eq_ok]
      constructor
      · rintro ⟨since, read, built⟩
        cases built
        exact ⟨target, since, rfl, natural, read, rfl⟩
      · rintro ⟨_, since, same, _, read, rfl⟩
        cases same
        exact ⟨since, read, rfl⟩

/-- A query that has every flag in it but the span: whether to follow and to color, and under their names the number of
lines, the pod and the container if they were given, as they were given. -/
structure Forwarded (flags : LogFlags) (query : List (Text × Text)) : Prop where
  follow : ∀ value, Tells query "follow" value ↔ value = LogArgs.flagText flags.follow
  color : ∀ value, Tells query "color" value ↔ value = LogArgs.flagText flags.color
  lines : ∀ value, Tells query "lines" value ↔ ∃ n, flags.lines = some n ∧ value = Text.ofInt n
  pod : ∀ value, Tells query "pod" value ↔ flags.pod = some value ∧ value ≠ []
  container : ∀ value, Tells query "container" value ↔ flags.container = some value ∧ value ≠ []

/-- The flags without a number of lines that is zero. -/
def withoutZeroLines (flags : LogFlags) : LogFlags := { flags with lines := flags.lines.filter (· ≠ 0) }

theorem tells_lines (accepted : flags.args = .ok args) (value : Text) :
    Tells args.query "lines" value ↔ ∃ n, flags.lines = some n ∧ n ≠ 0 ∧ value = Text.ofInt n := by
  obtain ⟨target, since, _, natural, _, rfl⟩ := args_eq_ok.mp accepted
  rw [LogArgs.tells_lines]
  constructor
  · rintro ⟨_, sent, some, rfl⟩
    obtain ⟨n, given, rfl⟩ := Option.map_eq_some_iff.mp sent
    obtain ⟨k, rfl⟩ := Int.eq_ofNat_of_zero_le (natural n given)
    rw [Int.toNat_natCast] at some
    exact ⟨k, given, by omega, rfl⟩
  · rintro ⟨n, given, some, rfl⟩
    obtain ⟨k, rfl⟩ := Int.eq_ofNat_of_zero_le (natural n given)
    exact ⟨k, Option.map_eq_some_iff.mpr ⟨k, given, rfl⟩, by omega, rfl⟩

/-- Everything but a number of lines that is zero is in the query. -/
theorem forwarded_withoutZeroLines (accepted : flags.args = .ok args) :
    flags.withoutZeroLines.Forwarded args.query := by
  obtain ⟨target, since, _, natural, _, rfl⟩ := args_eq_ok.mp accepted
  constructor
  · intro value
    rw [tells_query]
    simp +decide [withoutZeroLines]
  · intro value
    rw [tells_query]
    simp +decide [withoutZeroLines]
  · intro value
    rw [tells_lines accepted]
    simp only [withoutZeroLines, Option.filter_eq_some_iff, decide_eq_true_eq, and_assoc]
  · intro value
    rw [tells_query]
    simp +decide [withoutZeroLines, Text.present_eq_some]
  · intro value
    rw [tells_query]
    simp +decide [withoutZeroLines, Text.present_eq_some]

/-- The number of lines that is sent can be printed as the one that was given. -/
theorem printable_lines_iff (accepted : flags.args = .ok args) :
    (∀ n ∈ args.lines, Json.Printable (n : Nat)) ↔ ∀ n ∈ flags.lines, Json.Printable n := by
  obtain ⟨_, _, _, natural, _, rfl⟩ := args_eq_ok.mp accepted
  dsimp only
  cases given : flags.lines with
  | none => simp
  | some n =>
    have same : (n.toNat : Int) = n := Int.toNat_of_nonneg (natural n given)
    simp [same]

/-- The query of an accepted log command is made just if its number of lines can be printed. It has no name twice, and it
has every flag in it, a number of lines that is zero excepted. -/
theorem forwarded_iff (accepted : flags.args = .ok args) :
    ((∀ n ∈ flags.lines, Json.Printable n) → ∃ query, args.parameters = .ok query ∧ (query.map Prod.fst).Nodup ∧
      flags.withoutZeroLines.Forwarded query ∧ (flags.Forwarded query ↔ flags.lines ≠ some 0)) ∧
    (¬ (∀ n ∈ flags.lines, Json.Printable n) → args.parameters = .error (.fault .value Text.unprintable)) := by
  have forwarded := forwarded_withoutZeroLines accepted
  rw [← printable_lines_iff accepted]
  refine ⟨fun printable => ⟨args.query, LogArgs.parameters_eq_ok.mpr ⟨printable, rfl⟩, args.nodup_names_query, forwarded,
    fun all zero => ?_, fun some => ?_⟩, LogArgs.parameters_of_unprintable⟩
  · obtain ⟨n, given, natural, _⟩ := (tells_lines accepted (Text.ofInt 0)).mp ((all.lines _).mpr ⟨0, zero, rfl⟩)
    exact natural (Option.some.inj (given.symm.trans zero))
  · have same : flags.withoutZeroLines = flags := by
      unfold withoutZeroLines
      cases given : flags.lines with
      | none => rw [Option.filter_none, ← given]
      | some n =>
        have natural : n ≠ 0 := by
          rintro rfl
          exact some given
        rw [Option.filter_some, if_pos (decide_eq_true natural), ← given]
    rwa [same] at forwarded

/-- All that a log command can ask for. -/
def full : LogFlags :=
  { target := some "my-instance", pod := some "my-instance-abc", container := some "nginx", lines := some 50,
    since := some "2m30s", follow := true, color := false }

theorem full_forwarded : ∃ args query, full.args = .ok args ∧ args.parameters = .ok query ∧ full.Forwarded query := by
  have accepted : full.args.toOption.isSome := by decide +kernel
  obtain ⟨args, built⟩ := Option.isSome_iff_exists.mp accepted
  have built := toOption_eq_some.mp built
  obtain ⟨query, made, _, _, whole⟩ := (forwarded_iff built).1 (by decide +kernel)
  exact ⟨args, query, built, made, whole.mpr (by decide)⟩

/-- A log command that asks for no lines. -/
def lineless : LogFlags := { target := some "my-instance", lines := some 0 }

theorem lineless_not_forwarded : ∃ args query, lineless.args = .ok args ∧ args.parameters = .ok query ∧
    ¬ lineless.Forwarded query := by
  refine ⟨{ target := "my-instance", lines := some 0 }, _, rfl, LogArgs.parameters_eq_ok.mpr ⟨?_, rfl⟩, fun all => ?_⟩
  · decide +kernel
  have told : Tells _ "lines" "0" := (all.lines _).mpr ⟨0, rfl, rfl⟩
  revert told
  unfold Tells
  decide

end LogFlags

end ProxyControl
