import ProxyControl.Proofs.CommandLine.Run
import ProxyControl.Proofs.Settings

namespace ProxyControl

/-- Of the environment, finding the settings file takes the home directory, and the name of the file unless a path is
given. -/
theorem ConfigCache.getConfig_congr {left right : Environment} {files : Files} {path : Option Text}
    (home : left.home = right.home)
    (named : path = none → left.setting? "rpaasv2_config" = right.setting? "rpaasv2_config") :
    (getConfig {} left files path).1 = (getConfig {} right files path).1 := by
  have resolved : (resolvePath {} left path).1 = (resolvePath {} right path).1 := by
    cases path with
    | some path => exact congrArg (fun home => Settings.resolvePath ⟨{}, none⟩ home (some path)) home
    | none =>
      have same : left.settings.configPath = right.settings.configPath := named rfl
      change left.settings.resolvePath left.home none = right.settings.resolvePath right.home none
      rw [Settings.resolvePath, Settings.resolvePath, same, home]
  have determined (environment : Environment) : (getConfig {} environment files path).1 =
      (resolvePath {} environment path).1.bind fun place =>
        (Config.load files place path.isSome).map fun config => (place, config) := by
    unfold getConfig
    rcases resolvePath {} environment path with ⟨failure | place, cache⟩
    · rfl
    · dsimp only [List.lookup_nil, Except.bind]
      cases Config.load files place path.isSome <;> rfl
  rw [determined, determined, resolved]

namespace CommandLine

variable {left right : Environment} {invocation : Invocation} {surroundings : Surroundings} {words : List Text}
  {files : Files}

theorem prepare_congr (home : left.home = right.home)
    (named : invocation.configPath = none → left.setting? "rpaasv2_config" = right.setting? "rpaasv2_config") :
    invocation.prepare left files = invocation.prepare right files := by
  rw [Invocation.prepare, Invocation.prepare, ConfigCache.getConfig_congr home named, home]

/-- A flag that is given and not empty decides, whatever else there is. -/
theorem present_or_congr {flag : Option Text} {first second rest : Option Text}
    (decided : (Text.present flag).isSome = true ∨ first = second) :
    (Text.present flag).or ((Text.present first).or rest) = (Text.present flag).or ((Text.present second).or rest) := by
  rcases decided with given | rfl
  · obtain ⟨value, given⟩ := Option.isSome_iff_exists.mp given
    rw [given]
    rfl
  · rfl

/-- What the global flag says that stands for an environment variable. -/
def Invocation.flag? (invocation : Invocation) (name : Text) : Option Text :=
  let flags : List (Text × Option Text) :=
    [("rpaas_url", invocation.target.rpaasUrl), ("rpaas_user", invocation.target.rpaasUser),
      ("rpaas_password", invocation.target.rpaasPassword), ("tsuru_target", invocation.target.tsuruTarget),
      ("tsuru_token", invocation.target.tsuruToken), ("rpaasv2_config", invocation.config)]
  (flags.lookup name).join

/-- A global flag overrides an environment variable if it is given a value that is not empty. -/
def Invocation.Overrides (invocation : Invocation) (name : Text) : Prop :=
  (Text.present (invocation.flag? name)).isSome = true

theorem run_congr (prepared : ∀ invocation, Invocation.ofWords words = .ok invocation →
      invocation.prepare left surroundings.files = invocation.prepare right surroundings.files)
    (targets : ∀ invocation, Invocation.ofWords words = .ok invocation →
      invocation.target.over (left.settings.target.over {}) = invocation.target.over (right.settings.target.over {})) :
    run { surroundings with environment := left } words = run { surroundings with environment := right } words := by
  unfold run
  dsimp only
  cases read : Invocation.ofWords words with
  | error reason => rfl
  | ok invocation =>
    dsimp only
    rw [prepared invocation read]
    cases invocation.prepare right surroundings.files with
    | error failure => rfl
    | ok found =>
      obtain ⟨config, logging, files⟩ := found
      have same := targets invocation read
      dsimp only
      unfold Context.configure
      rw [same]
      rfl

/-- Global flags override the environment: variables that a flag is given for, with a value that is not empty, have no
effect on anything that an invocation leaves behind. -/
theorem run_overridden (agree : ∀ invocation, Invocation.ofWords words = .ok invocation →
      Environment.AgreeExcept invocation.Overrides left right) :
    run { surroundings with environment := left } words = run { surroundings with environment := right } words := by
  have setting (invocation : Invocation) (read : Invocation.ofWords words = .ok invocation) (name : Text) :
      invocation.Overrides name ∨ left.setting? name = right.setting? name := by
    by_cases overridden : invocation.Overrides name
    · exact .inl overridden
    · exact .inr ((agree invocation read).setting? overridden)
  refine run_congr (fun invocation read => ?_) fun invocation read => ?_
  · have unnamed : invocation.flag? (Text.lower "HOME") = none := by
      rw [show Text.lower "HOME" = "home" by decide +kernel]
      rfl
    have home : left.home = right.home := (agree invocation read).home (by rw [Invocation.Overrides, unnamed]; decide)
    refine prepare_congr home fun absent => ?_
    refine (setting invocation read "rpaasv2_config").resolve_left fun overridden => ?_
    have given : (Text.present invocation.config).isSome = true := overridden
    rw [Option.map_eq_none_iff.mp absent] at given
    cases given
  · have field := setting invocation read
    simp only [Target.over, Environment.settings, Target.mk.injEq]
    exact ⟨present_or_congr (field "rpaas_url"), present_or_congr (field "rpaas_user"),
      present_or_congr (field "rpaas_password"), present_or_congr (field "tsuru_target"),
      present_or_congr (field "tsuru_token")⟩

/-- The address on the command line makes two addresses in the environment the same. -/
theorem removal_overridden :
    run { answering 204 with environment := [("RPAAS_URL", "http://first.test")] } removal =
        run { answering 204 with environment := [("RPAAS_URL", "http://second.test")] } removal ∧
      (run { answering 204 with environment := [("RPAAS_URL", "http://second.test")] } removal).requests.map
        (fun request => request.url.host) = [("rpaas.test" : Text)] := by
  have given : (Invocation.ofWords removal).toOption.map (fun invocation => invocation.flag? (Text.lower "RPAAS_URL")) =
      some (some ("http://rpaas.test" : Text)) := by decide +kernel
  refine ⟨run_overridden fun invocation read => Environment.AgreeExcept.rfl.cons ?_, by decide +kernel⟩
  rw [read] at given
  have address : invocation.flag? (Text.lower "RPAAS_URL") = some "http://rpaas.test" := Option.some.inj given
  rw [Invocation.Overrides, address]
  decide

end CommandLine

end ProxyControl
