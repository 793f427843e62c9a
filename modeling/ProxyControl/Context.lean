import ProxyControl.Config

namespace ProxyControl

/-- A target whose parts win over those of another one, as far as they are there and not empty. -/
def Target.over (target base : Target) : Target where
  rpaasUrl := (Text.present target.rpaasUrl).or base.rpaasUrl
  rpaasUser := (Text.present target.rpaasUser).or base.rpaasUser
  rpaasPassword := (Text.present target.rpaasPassword).or base.rpaasPassword
  tsuruTarget := (Text.present target.tsuruTarget).or base.tsuruTarget
  tsuruToken := (Text.present target.tsuruToken).or base.tsuruToken

/-- What the commands of an invocation share: where the API is and how to talk to it. -/
structure Context where
  target : Target := {}
  options : ClientOptions := {}
  deriving Repr

namespace Context

/-- Flags win over the environment, and that over what was known before. What the settings file says about
the client only fills gaps. -/
def configure (context : Context) (settings : Settings) (config : Option Config) (flags : Target) : Context where
  target := flags.over (settings.target.over context.target)
  options :=
    { timeout := context.options.timeout.or (config.map Config.timeout)
      userAgent := context.options.userAgent.or (config.bind Config.userAgent) }

/-- A client for the target. -/
def client (context : Context) (service : Option Text) : Outcome Client :=
  context.target.client service context.options

end Context

end ProxyControl
