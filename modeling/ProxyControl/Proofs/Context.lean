import Mathlib.Data.List.Induction
import ProxyControl.Context
import ProxyControl.Proofs.CodePoint

namespace ProxyControl

/-- The parts of a target. -/
inductive TargetPart where
  | rpaasUrl
  | rpaasUser
  | rpaasPassword
  | tsuruTarget
  | tsuruToken

namespace Target

def part (target : Target) : TargetPart → Option Text
  | .rpaasUrl => target.rpaasUrl
  | .rpaasUser => target.rpaasUser
  | .rpaasPassword => target.rpaasPassword
  | .tsuruTarget => target.tsuruTarget
  | .tsuruToken => target.tsuruToken

theorem ext_part {left right : Target} (same : ∀ name, left.part name = right.part name) : left = right := by
  cases left
  cases right
  rw [mk.injEq]
  exact ⟨same .rpaasUrl, same .rpaasUser, same .rpaasPassword, same .tsuruTarget, same .tsuruToken⟩

theorem part_over (target base : Target) (name : TargetPart) :
    (target.over base).part name = (Text.present (target.part name)).or (base.part name) := by cases name <;> rfl

end Target

/-- What a context is configured from: the environment, the settings file if one was loaded, and the flags. -/
structure Sources where
  settings : Settings
  config : Option Config
  flags : Target

namespace Sources

/-- What is supplied for a part of the target, if it is not empty: a flag, or else what the environment says. -/
def part (sources : Sources) (name : TargetPart) : Option Text :=
  (Text.present (sources.flags.part name)).or (Text.present (sources.settings.target.part name))

def timeout (sources : Sources) : Option Binary64 := sources.config.map Config.timeout

def userAgent (sources : Sources) : Option Text := sources.config.bind Config.userAgent

theorem part_ne_nil {sources : Sources} {name : TargetPart} {value : Text} (supplied : sources.part name = some value) :
    value ≠ [] := by
  rcases Option.or_eq_some_iff.mp supplied with flag | ⟨_, setting⟩
  · exact (Text.present_eq_some.mp flag).2
  · exact (Text.present_eq_some.mp setting).2

end Sources

namespace Context

variable (context : Context) (sources : Sources) (name : TargetPart)

def configureFrom : Context := context.configure sources.settings sources.config sources.flags

theorem part_configureFrom :
    (context.configureFrom sources).target.part name = (sources.part name).or (context.target.part name) := by
  rw [configureFrom, configure, Target.part_over, Target.part_over, ← Option.or_assoc]
  rfl

theorem timeout_configureFrom :
    (context.configureFrom sources).options.timeout = context.options.timeout.or sources.timeout := rfl

theorem userAgent_configureFrom :
    (context.configureFrom sources).options.userAgent = context.options.userAgent.or sources.userAgent := rfl

theorem or_or_self {α : Type} (first rest : Option α) : first.or (first.or rest) = first.or rest := by
  rw [← Option.or_assoc, Option.or_self]

/-- A second configuration from the same sources changes nothing. -/
theorem configureFrom_twice : (context.configureFrom sources).configureFrom sources = context.configureFrom sources := by
  have target : ((context.configureFrom sources).configureFrom sources).target =
      (context.configureFrom sources).target := by
    refine Target.ext_part fun name => ?_
    rw [part_configureFrom, part_configureFrom, or_or_self]
  have options : ((context.configureFrom sources).configureFrom sources).options =
      (context.configureFrom sources).options := by
    simp only [configureFrom, configure, Option.or_assoc, Option.or_self]
  exact congrArg₂ mk target options

/-- Configures a context from one source after the other. -/
def configureAll (calls : List Sources) : Context := calls.foldl configureFrom context

variable (calls : List Sources)

theorem configureAll_append (later : List Sources) :
    context.configureAll (calls ++ later) = (context.configureAll calls).configureAll later := List.foldl_append

/-- For the target, the last call that supplies a part wins. -/
theorem part_configureAll : (context.configureAll calls).target.part name =
    (calls.reverse.findSome? fun sources => sources.part name).or (context.target.part name) := by
  induction calls generalizing context with
  | nil => rfl
  | cons sources calls ih =>
    have next : context.configureAll (sources :: calls) = (context.configureFrom sources).configureAll calls := rfl
    rw [next, ih, part_configureFrom, ← Option.or_assoc, List.reverse_cons, List.findSome?_append,
      List.findSome?_singleton]

/-- For the options of the client, the first call that knows a value wins. -/
theorem options_configureAll :
    (context.configureAll calls).options.timeout = context.options.timeout.or (calls.findSome? Sources.timeout) ∧
      (context.configureAll calls).options.userAgent =
        context.options.userAgent.or (calls.findSome? Sources.userAgent) := by
  induction calls generalizing context with
  | nil => exact ⟨(Option.or_none).symm, (Option.or_none).symm⟩
  | cons sources calls ih =>
    obtain ⟨timeout, userAgent⟩ := ih (context.configureFrom sources)
    have next : context.configureAll (sources :: calls) = (context.configureFrom sources).configureAll calls := rfl
    rw [next, timeout, userAgent, timeout_configureFrom, userAgent_configureFrom, Option.or_assoc, Option.or_assoc]
    constructor
    · cases known : sources.timeout <;> simp [known]
    · cases known : sources.userAgent <;> simp [known]

/-- A part that is there and not empty. -/
def Filled (part : Option Text) : Prop := ∃ value, part = some value ∧ value ≠ []

variable {context calls name}

/-- What is filled stays filled, though maybe with another value. -/
theorem filled_configureAll (filled : Filled (context.target.part name)) :
    Filled ((context.configureAll calls).target.part name) := by
  rw [part_configureAll]
  cases supplied : calls.reverse.findSome? fun sources => sources.part name with
  | none => exact filled
  | some value =>
    obtain ⟨_, _, given⟩ := List.exists_of_findSome?_eq_some supplied
    exact ⟨value, rfl, Sources.part_ne_nil given⟩

variable (context calls)

/-- After a run of calls, every part of the target is what the last call supplied that supplied something not empty, or
else what it was at first, and every option of the client is the first that was known. A part that is filled stays
filled all along, and the last call may as well be repeated. -/
theorem configureAll_settles :
    (∀ name, (context.configureAll calls).target.part name =
      (calls.reverse.findSome? fun sources => sources.part name).or (context.target.part name)) ∧
    (∀ name earlier later, calls = earlier ++ later → Filled ((context.configureAll earlier).target.part name) →
      Filled ((context.configureAll calls).target.part name)) ∧
    (context.configureAll calls).options.timeout = context.options.timeout.or (calls.findSome? Sources.timeout) ∧
    (context.configureAll calls).options.userAgent =
      context.options.userAgent.or (calls.findSome? Sources.userAgent) ∧
    ∀ earlier last, calls = earlier ++ [last] →
      context.configureAll (calls ++ [last]) = context.configureAll calls := by
  obtain ⟨timeout, userAgent⟩ := options_configureAll context calls
  refine ⟨fun name => part_configureAll context name calls, ?_, timeout, userAgent, ?_⟩
  · rintro name earlier later rfl filled
    rw [configureAll_append]
    exact filled_configureAll filled
  · rintro earlier last rfl
    have once (start : Context) : start.configureAll [last] = start.configureFrom last := rfl
    rw [configureAll_append, configureAll_append, once, once, configureFrom_twice]

/-- Two calls, of which the second has an empty flag for an address and a settings file with a name for the client. -/
def relocation : List Sources :=
  [{ settings := ⟨{ rpaasUrl := some "http://first.test", rpaasUser := some "" }, none⟩, config := none,
     flags := { rpaasUrl := some "http://second.test" } },
   { settings := ⟨{}, none⟩, config := some { userAgent := some "tester" }, flags := { rpaasUrl := some "" } }]

theorem configureAll_settles_relocation :
    ((configureAll {} relocation).target.rpaasUrl = some ("http://second.test" : Text) ∧
      (configureAll {} relocation).target.rpaasUser = none ∧
      (configureAll {} relocation).options.userAgent = some ("tester" : Text)) ∧
    Filled ((configureAll {} (relocation.take 1)).target.part .rpaasUrl) ∧
    Filled ((configureAll {} relocation).target.part .rpaasUrl) ∧
    ∃ last, relocation = relocation.take 1 ++ [last] ∧
      configureAll {} (relocation ++ [last]) = configureAll {} relocation := by
  obtain ⟨_, kept, _, _, again⟩ := configureAll_settles {} relocation
  have filled : Filled ((configureAll {} (relocation.take 1)).target.part .rpaasUrl) :=
    ⟨"http://second.test", by decide +kernel, by decide⟩
  exact ⟨by decide +kernel, filled, kept .rpaasUrl (relocation.take 1) (relocation.drop 1) rfl filled, _, rfl,
    again (relocation.take 1) _ rfl⟩

end Context

end ProxyControl
