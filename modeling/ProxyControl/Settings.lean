import ProxyControl.Client
import ProxyControl.Files.Path
import ProxyControl.Unicode.Case

namespace ProxyControl

/-- Environment variables, by name. -/
abbrev Environment := List (Text × Text)

/-- What the environment says about the target and the settings file. -/
structure Settings where
  target : Target
  configPath : Option Text
  deriving DecidableEq, Repr

namespace Environment

def value? (environment : Environment) (name : Text) : Option Text := environment.lookup name

/-- The value of a variable whose name may be written in any case; the last one counts. -/
def setting? (environment : Environment) (name : Text) : Option Text :=
  (environment.reverse.find? fun (key, _) => key.lower == name).map Prod.snd

def home (environment : Environment) : Text := (environment.value? "HOME").getD []

def settings (environment : Environment) : Settings where
  target :=
    { rpaasUrl := environment.setting? "rpaas_url"
      rpaasUser := environment.setting? "rpaas_user"
      rpaasPassword := environment.setting? "rpaas_password"
      tsuruTarget := environment.setting? "tsuru_target"
      tsuruToken := environment.setting? "tsuru_token" }
  configPath := environment.setting? "rpaasv2_config"

end Environment

/-- The settings file: the path given, or else the one in the environment, or else the usual one. -/
def Settings.resolvePath (settings : Settings) (home : Text) (path : Option Text) : Outcome Path :=
  let chosen : Text := path.getD ((Text.present settings.configPath).getD "~/.rpaasv2/config.yaml")
  (Path.ofText chosen).expandHome home

end ProxyControl
