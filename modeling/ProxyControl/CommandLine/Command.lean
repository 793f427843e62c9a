import ProxyControl.Client
import ProxyControl.CommandLine.Arguments
import ProxyControl.Files.Path
import ProxyControl.LogQuery
import ProxyControl.PolicyUpdate

namespace ProxyControl.CommandLine

/-- What an invocation asks for. -/
inductive Command where
  | version
  | showPolicy (service target : Option Text) (asJson : Bool)
  | updatePolicy (service target : Option Text) (flags : UpdateFlags)
  | removePolicy (service target : Option Text)
  | showLog (service : Option Text) (flags : LogFlags)
  deriving Repr

/-- How much of the log is shown. -/
inductive Verbosity where
  | asConfigured
  | verbose
  | debug
  deriving DecidableEq, Repr

/-- The level that wins over the settings file. -/
def Verbosity.level? : Verbosity → Option Text
  | asConfigured => none
  | verbose => some "INFO"
  | debug => some "DEBUG"

/-- What stands before the name of the command, the name, and what is left for the command. -/
structure Invocation where
  target : Target
  config : Option Text
  verbosity : Verbosity
  name : Text
  words : List Text
  deriving Repr

def program : Text := "rpaasv2"

namespace Invocation

def urlFlag : Flag := { names := ["--rpaas-url"] }
def userFlag : Flag := { names := ["--rpaas-user"] }
def passwordFlag : Flag := { names := ["--rpaas-password"] }
def proxyFlag : Flag := { names := ["--tsuru-target"] }
def tokenFlag : Flag := { names := ["--tsuru-token"] }
def configFlag : Flag := { names := ["--config"] }
def verboseFlag : Flag := { names := ["--verbose", "-v"], content := .mark }
def debugFlag : Flag := { names := ["--debug"], content := .mark }

def usage : Usage where
  path := program
  flags := [urlFlag, userFlag, passwordFlag, proxyFlag, tokenFlag, configFlag, verboseFlag, debugFlag]
  commands := ["logs", "log", "version", "autoscale"]

def ofWords (words : List Text) : Except Stop Invocation := do
  let (arguments, name, words) ← usage.readGroup words
  return {
    name, words
    target := {
      rpaasUrl := arguments.text? urlFlag
      rpaasUser := arguments.text? userFlag
      rpaasPassword := arguments.text? passwordFlag
      tsuruTarget := arguments.text? proxyFlag
      tsuruToken := arguments.text? tokenFlag }
    config := arguments.text? configFlag
    verbosity :=
      if arguments.isSet debugFlag then .debug else if arguments.isSet verboseFlag then .verbose else .asConfigured }

/-- The settings file that was named. A path is taken in its normal form. -/
def configPath (invocation : Invocation) : Option Text := invocation.config.map fun config => (Path.ofText config).toText

end Invocation

namespace Command

def serviceFlag : Flag := { names := ["--service", "--tsuru-service", "-s"] }
def instanceFlag : Flag := { names := ["--instance", "--tsuru-service-instance", "-i"] }
def jsonFlag : Flag := { names := ["--json"], content := .mark }
def minimumFlag : Flag := { names := ["--min"], content := .number, isRequired := true }
def maximumFlag : Flag := { names := ["--max"], content := .number, isRequired := true }
def cpuFlag : Flag := { names := ["--cpu"], content := .number }
def memoryFlag : Flag := { names := ["--memory"], content := .number }
def rpsFlag : Flag := { names := ["--rps"], content := .number }
def scheduleFlag : Flag := { names := ["--schedule"], content := .texts }
def podFlag : Flag := { names := ["--pod", "-p"] }
def containerFlag : Flag := { names := ["--container", "-c"] }
def linesFlag : Flag := { names := ["--lines", "-l"], content := .number }
def sinceFlag : Flag := { names := ["--since"] }
def followFlag : Flag := { names := ["--follow", "-f"], content := .mark }
def colorlessFlag : Flag := { names := ["--without-color", "--no-color"], content := .mark }

def path (names : List Text) : Text := Text.join " " (program :: names)

def policyUsage : Usage := { path := path ["autoscale"], commands := ["info", "update", "remove"] }

def showPolicyUsage : Usage :=
  { path := path ["autoscale", "info"], flags := [serviceFlag, instanceFlag, jsonFlag] }

def updatePolicyUsage : Usage :=
  { path := path ["autoscale", "update"]
    flags :=
      [serviceFlag, instanceFlag, minimumFlag, maximumFlag, cpuFlag, memoryFlag, rpsFlag, scheduleFlag] }

def removePolicyUsage : Usage := { path := path ["autoscale", "remove"], flags := [serviceFlag, instanceFlag] }

def showLogUsage (name : Text) : Usage :=
  { path := path [name]
    flags :=
      [serviceFlag, instanceFlag, podFlag, containerFlag, linesFlag, sinceFlag, followFlag, colorlessFlag] }

def ofPolicyWords (words : List Text) : Except Stop Command := do
  let (_, name, words) ← policyUsage.readGroup words
  if name = "info" then
    let arguments ← showPolicyUsage.readCommand words
    return .showPolicy (arguments.text? serviceFlag) (arguments.text? instanceFlag) (arguments.isSet jsonFlag)
  else if name = "remove" then
    let arguments ← removePolicyUsage.readCommand words
    return .removePolicy (arguments.text? serviceFlag) (arguments.text? instanceFlag)
  else
    let arguments ← updatePolicyUsage.readCommand words
    return .updatePolicy (arguments.text? serviceFlag) (arguments.text? instanceFlag)
      { minimum := (arguments.number? minimumFlag).getD 0
        maximum := (arguments.number? maximumFlag).getD 0
        cpu := arguments.number? cpuFlag
        memory := arguments.number? memoryFlag
        rps := arguments.number? rpsFlag
        schedules := arguments.texts scheduleFlag }

def ofLogWords (name : Text) (words : List Text) : Except Stop Command := do
  let arguments ← (showLogUsage name).readCommand words
  return .showLog (arguments.text? serviceFlag)
    { target := arguments.text? instanceFlag
      pod := arguments.text? podFlag
      container := arguments.text? containerFlag
      lines := arguments.number? linesFlag
      since := arguments.text? sinceFlag
      follow := arguments.isSet followFlag
      color := !arguments.isSet colorlessFlag }

/-- The command of an invocation. -/
def ofInvocation (invocation : Invocation) : Except Stop Command :=
  if invocation.name = "version" then
    ({ path := path ["version"] : Usage }.readCommand invocation.words).map fun _ => version
  else if invocation.name = "autoscale" then ofPolicyWords invocation.words
  else ofLogWords invocation.name invocation.words

end Command

end ProxyControl.CommandLine
