import ProxyControl.Cron.Describe
import ProxyControl.Policy

namespace ProxyControl

/-- Reads one scheduled window from the text of a JSON object. Both of its expressions must describe a
time. -/
def ScheduledWindow.parse (fragment : Text) : Outcome ScheduledWindow :=
  match Json.parse fragment with
  | .error error@(.syntaxError ..) => .error (.refused (.scheduleSyntax fragment error))
  | .error error => .error (.ofParseError fragment error)
  | .ok (.object members) =>
    match ScheduledWindow.check (Json.object members).toDatum with
    | .error problems => .error (.refused (.scheduleFields fragment problems))
    | .ok window =>
      match [Boundary.opening, .closing].find? fun b => !(Cron.describe (window.expression b)).isOk with
      | some b => .error (.refused (.scheduleCron fragment b (window.expression b)))
      | none => .ok window
  | .ok _ => .error (.refused (.scheduleShape fragment))

/-- What an update asks for on the command line. -/
structure UpdateFlags where
  minimum : Int
  maximum : Int
  cpu : Option Int := none
  memory : Option Int := none
  rps : Option Int := none
  schedules : List Text := []
  deriving Repr

namespace UpdateFlags

/-- A target for a trigger: nothing, or a positive number. -/
def target (trigger : Trigger) : Option Int → Outcome (Field Int)
  | none => .ok .unset
  | some n => if n ≤ 0 then .error (.refused (.triggerNotPositive trigger)) else .ok (.value n)

/-- The policy to send. Only the triggers and windows that were asked for are set. -/
def policy (flags : UpdateFlags) : Outcome Autoscale :=
  if flags.minimum < 0 then .error (.refused .minimumNegative)
  else if flags.maximum ≤ flags.minimum then
    .error (.refused (.maximumNotAbove flags.minimum flags.maximum))
  else do
    let cpu ← target .cpu flags.cpu
    let memory ← target .memory flags.memory
    let rps ← target .rps flags.rps
    let windows ← flags.schedules.mapM ScheduledWindow.parse
    let schedules := if flags.schedules.isEmpty then Field.unset else .value windows
    return {
      minReplicas := some flags.minimum.toNat
      maxReplicas := some flags.maximum.toNat
      cpu, memory, rps, schedules }

end UpdateFlags

end ProxyControl
