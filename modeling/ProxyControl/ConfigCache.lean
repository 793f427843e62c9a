import ProxyControl.Config

namespace ProxyControl

/-- The settings and configurations that were read already; the configuration used last comes first. -/
structure ConfigCache where
  settings : Option Settings := none
  configs : List (Option Text × Path × Config) := []
  deriving Repr

namespace ConfigCache

/-- More configurations are not kept. -/
def capacity : Nat := 128

/-- The settings, read from the environment only if they were not read before. -/
def getSettings (cache : ConfigCache) (environment : Environment) : Settings × ConfigCache :=
  match cache.settings with
  | some settings => (settings, cache)
  | none =>
    let settings := environment.settings
    (settings, { cache with settings := some settings })

/-- Where the settings file is. The settings are read only if no path is given. -/
def resolvePath (cache : ConfigCache) (environment : Environment) (path : Option Text) :
    Outcome Path × ConfigCache :=
  match path with
  | some _ => (Settings.resolvePath ⟨{}, none⟩ environment.home path, cache)
  | none =>
    let (settings, cache) := cache.getSettings environment
    (settings.resolvePath environment.home none, cache)

/-- Puts a configuration first. -/
def keep (cache : ConfigCache) (key : Option Text) (value : Path × Config) : ConfigCache :=
  let others := cache.configs.filter fun (k, _) => k != key
  { cache with configs := ((key, value) :: others).take capacity }

/-- The configuration for a path argument. It is loaded once; a failure is not kept. -/
def getConfig (cache : ConfigCache) (environment : Environment) (files : Files) (path : Option Text) :
    Outcome (Path × Config) × ConfigCache :=
  match cache.configs.lookup path with
  | some found => (.ok found, cache.keep path found)
  | none =>
    let (resolved, cache) := cache.resolvePath environment path
    match resolved with
    | .error failure => (.error failure, cache)
    | .ok place =>
      match Config.load files place path.isSome with
      | .error failure => (.error failure, cache)
      | .ok config => (.ok (place, config), cache.keep path (place, config))

end ConfigCache

end ProxyControl
