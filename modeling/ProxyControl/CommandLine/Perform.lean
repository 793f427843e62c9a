import ProxyControl.CommandLine.Command
import ProxyControl.Context
import ProxyControl.PolicyView
import ProxyControl.Session

namespace ProxyControl

/-- A record for every expression of a window that has no description. -/
def ScheduledWindow.undescribed (w : ScheduledWindow) : List Record :=
  [w.opening, w.closing].filterMap fun expression =>
    match Cron.describe expression with
    | .ok _ => none
    | .error objection =>
      some ⟨.debug, "rpaasv2.cli.formatting", "Could not describe cron expression",
        [("expression", .text expression), ("error", .text objection.message)]⟩

/-- What showing a policy leaves in the log. -/
def Autoscale.undescribed (a : Autoscale) : List Record :=
  ((a.schedules.value?).getD []).flatMap ScheduledWindow.undescribed

namespace CommandLine

/-- Failures of an exchange that a command reports as its own. -/
def ofExchange : Failure → Bool
  | .api _ | .broken _ _ => true
  | _ => false

/-- The same with policies that are not what they should be. -/
def ofPolicyExchange : Failure → Bool
  | .invalidData _ => true
  | failure => ofExchange failure

/-- Reports the failures that are meant under the name of the operation that did not succeed. -/
def reporting {α : Type} (operation : Text) (isMeant : Failure → Bool) (call : Call α) : Call α :=
  tryCatch call fun failure => throw (if isMeant failure then .command operation failure else failure)

/-- Writes a line. -/
def say (message : Text) : Call Unit := Session.write (message ++ "\n")

namespace Command

/-- Carries out a command; the API answers as given. -/
def perform (context : Context) (answer : Http.Answer) : Command → Call Unit
  | version => say (program ++ " version " ++ Client.version)
  | showPolicy service target asJson => do
    let client ← Session.ofOutcome (context.client service)
    let policy ← reporting "could not get autoscale from RPaaS API" ofPolicyExchange
      (client.getAutoscale (target.getD []) answer)
    if !asJson then
      for record in policy.undescribed do
        Session.note record
    Session.write (← Session.ofOutcome (policy.rendered asJson))
  | updatePolicy service target flags => do
    let policy ← Session.ofOutcome flags.policy
    Session.note ⟨.debug, "rpaasv2.cli.commands.autoscale", "Autoscale update payload",
      [("instance", target.elim .null .text), ("payload", policy.payload)]⟩
    let client ← Session.ofOutcome (context.client service)
    reporting "could not update the autoscale on RPaaS API" ofPolicyExchange
      (client.updateAutoscale (target.getD []) policy answer)
    say ("Autoscale of " ++ instanceLabel service target ++ " successfully updated!")
  | removePolicy service target => do
    let client ← Session.ofOutcome (context.client service)
    reporting "could not delete the autoscale on RPaaS API" ofPolicyExchange
      (client.removeAutoscale (target.getD []) answer)
    say ("Autoscale of " ++ instanceLabel service target ++ " successfully removed")
  | showLog service flags => do
    let args ← Session.ofOutcome flags.args
    let client ← Session.ofOutcome (context.client service)
    reporting "could not get logs from RPaaS API" ofExchange (client.log args answer)

end Command

end CommandLine

end ProxyControl
