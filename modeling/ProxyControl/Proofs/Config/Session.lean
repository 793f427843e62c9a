import Mathlib.Data.List.Dedup
import Mathlib.Data.List.Perm.Subperm
import ProxyControl.ConfigCache
import ProxyControl.Proofs.Outcome

namespace ProxyControl

namespace ConfigCache

variable {cache : ConfigCache} {key other : Option Text} {value : Path × Config}

/-- The paths whose configurations are kept. -/
def keys (cache : ConfigCache) : List (Option Text) := cache.configs.map Prod.fst

theorem lookup_others {configs : List (Option Text × Path × Config)} (apart : other ≠ key) :
    (configs.filter fun (k, _) => k != key).lookup other = configs.lookup other := by
  induction configs with
  | nil => rfl
  | cons config configs ih =>
    obtain ⟨k, found⟩ := config
    by_cases same : k = key
    · rw [List.filter_cons_of_neg (by simp [same]), ih, List.lookup_cons, same, beq_eq_false_iff_ne.mpr apart]
    · rw [List.filter_cons_of_pos (by simpa using same), List.lookup_cons, List.lookup_cons, ih]

theorem lookup_keep_self : (cache.keep key value).configs.lookup key = some value := by
  rw [keep, capacity, List.take_succ_cons, List.lookup_cons_self]

theorem mem_keys_keep (kept : other ∈ (cache.keep key value).keys) : other = key ∨ other ∈ cache.keys := by
  obtain ⟨entry, member, rfl⟩ := List.mem_map.mp kept
  rcases List.mem_cons.mp (List.mem_of_mem_take member) with rfl | old
  · exact .inl rfl
  · exact .inr (List.mem_map_of_mem (List.mem_of_mem_filter old))

/-- The keys once a configuration is put first, if there is room for all of them. -/
def keysWith (cache : ConfigCache) (key : Option Text) : List (Option Text) :=
  key :: cache.keys.filter (· != key)

theorem keys_keep : (cache.keep key value).keys = (cache.keysWith key).take capacity := by
  rw [keys, keep, List.map_take, keysWith, keys, List.filter_map]
  rfl

theorem nodup_keysWith (distinct : cache.keys.Nodup) : (cache.keysWith key).Nodup := by
  refine List.nodup_cons.mpr ⟨fun member => ?_, distinct.filter _⟩
  simpa using (List.mem_filter.mp member).2

/-- As long as there is room, putting a configuration first loses no other one. -/
theorem lookup_keep_of_ne (apart : other ≠ key) (room : (cache.keysWith key).length ≤ capacity) :
    (cache.keep key value).configs.lookup other = cache.configs.lookup other := by
  have whole : ((key, value) :: cache.configs.filter fun (k, _) => k != key).length ≤ capacity := by
    have same : (cache.keysWith key).length = (cache.configs.filter fun (k, _) => k != key).length + 1 := by
      rw [keysWith, keys, List.filter_map, List.length_cons, List.length_map]
      rfl
    rw [List.length_cons, ← same]
    exact room
  rw [keep]
  dsimp only
  rw [List.take_of_length_le whole, List.lookup_cons, beq_eq_false_iff_ne.mpr apart]
  exact lookup_others apart

variable {environment : Environment} {files : Files} {path : Option Text} {found : Path × Config}

/-- What is loaded for a path argument without a look at what was loaded before. A file that was asked for by its path
must be there. -/
def load (settings : Settings) (home : Text) (files : Files) (path : Option Text) : Outcome (Path × Config) := do
  let place ← settings.resolvePath home path
  let config ← Config.load files place path.isSome
  return (place, config)

/-- The cache once it knows the settings, which it needs only where no path is given. -/
def informed (cache : ConfigCache) (environment : Environment) (path : Option Text) : ConfigCache :=
  match path with
  | some _ => cache
  | none => { cache with settings := some (cache.settings.getD environment.settings) }

theorem resolvePath_eq (cache : ConfigCache) (environment : Environment) (path : Option Text) :
    cache.resolvePath environment path =
      ((cache.settings.getD environment.settings).resolvePath environment.home path,
        cache.informed environment path) := by
  cases path with
  | some path => rfl
  | none =>
    obtain ⟨settings, configs⟩ := cache
    cases settings with
    | none => rfl
    | some settings => rfl

theorem getSettings_eq (cache : ConfigCache) (environment : Environment) :
    cache.getSettings environment = (cache.settings.getD environment.settings, cache.informed environment none) := by
  obtain ⟨settings, configs⟩ := cache
  cases settings with
  | none => rfl
  | some settings => rfl

@[simp] theorem configs_informed : (cache.informed environment path).configs = cache.configs := by cases path <;> rfl

@[simp] theorem keys_informed : (cache.informed environment path).keys = cache.keys := by cases path <;> rfl

theorem isSome_settings_informed (known : path = none ∨ cache.settings.isSome = true) :
    (cache.informed environment path).settings.isSome = true := by
  cases path with
  | none => rfl
  | some path => exact known.resolve_left (Option.some_ne_none path)

/-- Where the settings are known already, nothing is learned. -/
theorem informed_of_known (known : path = none → cache.settings.isSome = true) :
    cache.informed environment path = cache := by
  cases path with
  | some path => rfl
  | none =>
    obtain ⟨settings, configs⟩ := cache
    obtain ⟨settings, rfl⟩ := Option.isSome_iff_exists.mp (known rfl)
    rfl

theorem mem_keys_of_lookup (kept : cache.configs.lookup key = some value) : key ∈ cache.keys := by
  by_contra missing
  refine Option.some_ne_none value (kept.symm.trans (List.lookup_eq_none_iff.mpr fun entry member => ?_))
  rw [bne_iff_ne]
  rintro rfl
  exact missing (List.mem_map_of_mem member)

theorem getConfig_of_kept (kept : cache.configs.lookup path = some found) :
    cache.getConfig environment files path = (.ok found, cache.keep path found) := by
  rw [getConfig, kept]

/-- A path without a configuration is looked up anew, and only a success is kept. -/
theorem getConfig_of_unkept (unkept : cache.configs.lookup path = none) :
    cache.getConfig environment files path =
      let answer := load (cache.settings.getD environment.settings) environment.home files path
      (answer, answer.toOption.elim (cache.informed environment path) ((cache.informed environment path).keep path)) := by
  rw [getConfig, unkept, resolvePath_eq, load]
  dsimp only
  cases (cache.settings.getD environment.settings).resolvePath environment.home path with
  | error failure => rfl
  | ok place =>
    change _ = let answer := (do
        let config ← Config.load files place path.isSome
        return (place, config) : Outcome (Path × Config))
      (answer, answer.toOption.elim (cache.informed environment path) ((cache.informed environment path).keep path))
    dsimp only
    cases Config.load files place path.isSome with
    | error failure => rfl
    | ok config => rfl

end ConfigCache

/-- A question to the caches, in the environment in which it was asked. -/
inductive Question where
  | settings (environment : Environment)
  | place (environment : Environment) (path : Option Text)
  | config (environment : Environment) (path : Option Text) (answer : Outcome (Path × Config))

namespace Question

/-- The environment of a question that asks for the settings, or for what depends on them. -/
def reader? : Question → Option Environment
  | settings environment | place environment none | config environment none _ => some environment
  | _ => none

def configPath? : Question → Option (Option Text)
  | config _ path _ => some path
  | _ => none

/-- What was found when the configuration for a path was asked for. -/
def found? (path : Option Text) : Question → Option (Path × Config)
  | config _ asked answer => if asked = path then answer.toOption else none
  | _ => none

end Question

/-- What a program does around its configuration. -/
inductive ConfigAct where
  | setEnvironment (environment : Environment)
  | write (name content : Text)
  | delete (name : Text)
  | clear
  | getSettings
  | resolvePath (path : Option Text)
  | getConfig (path : Option Text)

/-- The environment, the files and the caches of a program, and what it has asked the caches since they were cleared. -/
structure ConfigSession where
  environment : Environment
  files : Files
  cache : ConfigCache := {}
  past : List Question := []

namespace ConfigSession

def step (session : ConfigSession) : ConfigAct → ConfigSession
  | .setEnvironment environment => { session with environment }
  | .write name content => { session with files := session.files.write name content }
  | .delete name => { session with files := session.files.delete name }
  | .clear => { session with cache := {}, past := [] }
  | .getSettings =>
    let (_, cache) := session.cache.getSettings session.environment
    { session with cache, past := session.past ++ [.settings session.environment] }
  | .resolvePath path =>
    let (_, cache) := session.cache.resolvePath session.environment path
    { session with cache, past := session.past ++ [.place session.environment path] }
  | .getConfig path =>
    let (answer, cache) := session.cache.getConfig session.environment session.files path
    { session with cache, past := session.past ++ [.config session.environment path answer] }

/-- The session once some more was done. -/
def after (session : ConfigSession) (acts : List ConfigAct) : ConfigSession := acts.foldl step session

/-- The environment in which the settings were first read. -/
def reader? (past : List Question) : Option Environment := past.findSome? Question.reader?

/-- The configuration that was first found for a path. -/
def found? (past : List Question) (path : Option Text) : Option (Path × Config) := past.findSome? (Question.found? path)

/-- The different paths whose configurations were asked for. -/
def paths (past : List Question) : List (Option Text) := (past.filterMap Question.configPath?).dedup

/-- What the caches know is what was first answered since they were cleared. -/
structure Sound (session : ConfigSession) : Prop where
  settings : session.cache.settings = (reader? session.past).map Environment.settings
  distinct : session.cache.keys.Nodup
  asked : session.cache.keys ⊆ paths session.past
  informed : none ∈ session.cache.keys → session.cache.settings.isSome = true
  kept : (paths session.past).length ≤ ConfigCache.capacity →
    ∀ path, session.cache.configs.lookup path = found? session.past path

section

variable {past : List Question} {question : Question} {path : Option Text}

theorem reader?_append : reader? (past ++ [question]) = (reader? past).or question.reader? := by
  rw [reader?, List.findSome?_append, List.findSome?_singleton]
  rfl

theorem found?_append : found? (past ++ [question]) path = (found? past path).or (question.found? path) := by
  rw [found?, List.findSome?_append, List.findSome?_singleton]
  rfl

theorem paths_subset_append : paths past ⊆ paths (past ++ [question]) := by
  intro path asked
  rw [paths, List.mem_dedup] at asked ⊢
  rw [List.filterMap_append]
  exact List.mem_append_left _ asked

theorem length_paths_append : (paths past).length ≤ (paths (past ++ [question])).length :=
  ((List.nodup_dedup _).subperm paths_subset_append).length_le

theorem mem_paths_append (asked : question.configPath? = some path) : path ∈ paths (past ++ [question]) := by
  rw [paths, List.mem_dedup, List.filterMap_append]
  exact List.mem_append_right _ (List.mem_filterMap.mpr ⟨question, List.mem_singleton_self _, asked⟩)

end

variable {session : ConfigSession} {question : Question} {path : Option Text} {found : Path × Config}
  {environment : Environment}

/-- A question about the settings, or about what depends on them, makes them known. -/
theorem Sound.settings_append (sound : session.Sound)
    (reads : question.reader? = path.elim (some environment) fun _ => none) :
    (session.cache.informed environment path).settings =
      (reader? (session.past ++ [question])).map Environment.settings := by
  rw [reader?_append, reads]
  cases path with
  | some path => rw [Option.elim_some, Option.or_none, ← sound.settings, ConfigCache.informed]
  | none =>
    rw [ConfigCache.informed]
    dsimp only
    rw [sound.settings]
    cases reader? session.past with
    | none => rfl
    | some first => rfl

/-- After a question that finds no configuration, the caches know no more than the settings. -/
theorem Sound.inform (sound : session.Sound)
    (reads : question.reader? = path.elim (some environment) fun _ => none)
    (unfound : ∀ path, question.found? path = none) :
    Sound { session with
      cache := session.cache.informed environment path, past := session.past ++ [question] } := by
  refine ⟨sound.settings_append reads, ?_, ?_, ?_, ?_⟩
  · rw [ConfigCache.keys_informed]
    exact sound.distinct
  · rw [ConfigCache.keys_informed]
    exact List.Subset.trans sound.asked paths_subset_append
  · rw [ConfigCache.keys_informed]
    exact fun kept => ConfigCache.isSome_settings_informed (.inr (sound.informed kept))
  · intro few other
    rw [ConfigCache.configs_informed, found?_append, unfound, Option.or_none]
    exact sound.kept (Nat.le_trans length_paths_append few) other

/-- After a question that finds a configuration, the caches know that one, if it is the first for its path. -/
theorem Sound.learn (sound : session.Sound)
    (first : ∀ old ∈ session.cache.configs.lookup path, old = found) :
    Sound { session with
      cache := (session.cache.informed environment path).keep path found
      past := session.past ++ [.config environment path (.ok found)] } := by
  have reads : (Question.config environment path (.ok found)).reader? = path.elim (some environment) fun _ => none := by
    cases path <;> rfl
  have inside : path ∈ paths (session.past ++ [.config environment path (.ok found)]) := mem_paths_append rfl
  have earlier : session.cache.keys ⊆ paths (session.past ++ [.config environment path (.ok found)]) :=
    List.Subset.trans sound.asked paths_subset_append
  have distinct : ((session.cache.informed environment path).keysWith path).Nodup :=
    ConfigCache.nodup_keysWith (by rw [ConfigCache.keys_informed]; exact sound.distinct)
  refine ⟨sound.settings_append reads, ?_, fun other kept => ?_, fun kept => ?_, fun few other => ?_⟩
  · rw [ConfigCache.keys_keep]
    exact distinct.sublist (List.take_sublist _ _)
  · rcases ConfigCache.mem_keys_keep kept with rfl | old
    · exact inside
    · exact earlier (ConfigCache.keys_informed ▸ old)
  · rcases ConfigCache.mem_keys_keep kept with same | old
    · exact ConfigCache.isSome_settings_informed (.inl same.symm)
    · exact ConfigCache.isSome_settings_informed (.inr (sound.informed (ConfigCache.keys_informed ▸ old)))
  · rw [found?_append, ← sound.kept (Nat.le_trans length_paths_append few)]
    by_cases same : path = other
    · subst same
      rw [ConfigCache.lookup_keep_self, Question.found?, if_pos rfl]
      cases known : session.cache.configs.lookup path with
      | none => rfl
      | some old => rw [Option.some_or, first old known]
    · -- No other configuration had to make room.
      have room : ((session.cache.informed environment path).keysWith path).length ≤ ConfigCache.capacity := by
        refine Nat.le_trans (List.Subperm.length_le (distinct.subperm fun key member => ?_)) few
        rcases List.mem_cons.mp member with rfl | old
        · exact inside
        · rw [ConfigCache.keys_informed] at old
          exact earlier (List.mem_of_mem_filter old)
      rw [ConfigCache.lookup_keep_of_ne (Ne.symm same) room, ConfigCache.configs_informed, Question.found?,
        if_neg same, Option.or_none]

/-- The answer to a question for a configuration: the one that is kept for the path, or what is loaded now. -/
def answer (session : ConfigSession) (path : Option Text) : Outcome (Path × Config) :=
  (session.cache.configs.lookup path).elim
    (ConfigCache.load (session.cache.settings.getD session.environment.settings) session.environment.home session.files
      path) .ok

theorem Sound.getConfig_eq (sound : session.Sound) (path : Option Text) :
    session.cache.getConfig session.environment session.files path =
      (session.answer path, (session.answer path).toOption.elim (session.cache.informed session.environment path)
        ((session.cache.informed session.environment path).keep path)) := by
  rw [answer]
  cases known : session.cache.configs.lookup path with
  | none => exact ConfigCache.getConfig_of_unkept known
  | some found =>
    have informed : session.cache.informed session.environment path = session.cache := by
      refine ConfigCache.informed_of_known fun absent => sound.informed ?_
      rw [← absent]
      exact ConfigCache.mem_keys_of_lookup known
    rw [ConfigCache.getConfig_of_kept known, informed]
    rfl

theorem sound_start {files : Files} : Sound ⟨environment, files, {}, []⟩ where
  settings := rfl
  distinct := List.nodup_nil
  asked := List.nil_subset _
  informed := fun none => absurd none List.not_mem_nil
  kept := fun _ _ => rfl

theorem Sound.step (sound : session.Sound) (act : ConfigAct) : (session.step act).Sound := by
  cases act with
  | setEnvironment environment => exact ⟨sound.settings, sound.distinct, sound.asked, sound.informed, sound.kept⟩
  | write name content => exact ⟨sound.settings, sound.distinct, sound.asked, sound.informed, sound.kept⟩
  | delete name => exact ⟨sound.settings, sound.distinct, sound.asked, sound.informed, sound.kept⟩
  | clear => exact sound_start
  | getSettings =>
    rw [ConfigSession.step, ConfigCache.getSettings_eq]
    exact sound.inform rfl fun _ => rfl
  | resolvePath path =>
    rw [ConfigSession.step, ConfigCache.resolvePath_eq]
    exact sound.inform (by cases path <;> rfl) fun _ => rfl
  | getConfig path =>
    rw [ConfigSession.step, sound.getConfig_eq]
    cases answered : session.answer path with
    | error failure => exact sound.inform (by cases path <;> rfl) fun _ => by rw [Question.found?]; split <;> rfl
    | ok found =>
      refine sound.learn fun old known => ?_
      rw [answer, known] at answered
      exact Except.ok.inj answered

theorem Sound.after (sound : session.Sound) (acts : List ConfigAct) : (session.after acts).Sound := by
  induction acts generalizing session with
  | nil => exact sound
  | cons act acts ih => exact ih (sound.step act)

/-- Whatever a program does, as long as no more paths were asked for than configurations are kept, a question for a
configuration is answered by the first one that was found for the same path since the caches were cleared. If there is
none, it is answered by what the files hold now, under the settings as they were first read. -/
theorem getConfig_answers_first {files : Files} {acts : List ConfigAct} (path : Option Text)
    (few : (paths (after ⟨environment, files, {}, []⟩ acts).past).length ≤ ConfigCache.capacity) :
    let session := after ⟨environment, files, {}, []⟩ acts
    (session.cache.getConfig session.environment session.files path).1 =
      (found? session.past path).elim
        (ConfigCache.load ((reader? session.past).getD session.environment).settings session.environment.home
          session.files path) .ok := by
  intro session
  have sound : session.Sound := sound_start.after acts
  have settings : session.cache.settings.getD session.environment.settings =
      ((reader? session.past).getD session.environment).settings := by
    rw [sound.settings]
    cases reader? session.past with
    | none => rfl
    | some first => rfl
  rw [sound.getConfig_eq, answer, settings, sound.kept few]

/-- A settings file that is written and edited after it was missed, and an environment that comes to name it. -/
def editing : List ConfigAct :=
  [.getConfig (some "c.yaml"), .write "c.yaml" "client:\n  user_agent: first\n", .getConfig (some "c.yaml"),
    .write "c.yaml" "client:\n  user_agent: second\n", .setEnvironment [("HOME", "home"), ("RPAASV2_CONFIG", "c.yaml")]]

theorem getConfig_answers_first_while_editing :
    let session := after ⟨[("HOME", "home")], [], {}, []⟩ editing
    let agent (path : Option Text) :=
      (session.cache.getConfig session.environment session.files path).1.toOption.bind fun found => found.2.userAgent
    agent (some "c.yaml") = some "first" ∧ agent none = some "second" := by
  have few : (paths (after ⟨[("HOME", "home")], [], {}, []⟩ editing).past).length ≤ ConfigCache.capacity := by
    decide +kernel
  dsimp only
  rw [getConfig_answers_first (some "c.yaml") few, getConfig_answers_first none few]
  decide +kernel

end ConfigSession

end ProxyControl
