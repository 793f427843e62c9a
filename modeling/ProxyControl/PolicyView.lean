import ProxyControl.Cron.Describe
import ProxyControl.Policy
import ProxyControl.Table

namespace ProxyControl

/-- The description of a scheduled window under its number. -/
def ScheduledWindow.block (number : Int) (w : ScheduledWindow) : Text :=
  Text.join "\n" (
    [ "Window " ++ Text.ofInt number ++ ":",
      "  Min replicas: " ++ Text.ofNat w.minReplicas,
      "  Start: " ++ Cron.humanize w.opening,
      "  End: " ++ Cron.humanize w.closing ] ++
    match w.timezone.value? with
    | some zone => if zone.isEmpty then [] else ["  Timezone: " ++ zone]
    | none => [])

namespace Autoscale

/-- Blocks for windows numbered from the given number on. -/
def blocks (number : Nat) : List ScheduledWindow → List Text
  | [] => []
  | w :: rest => w.block number :: blocks (number + 1) rest

/-- A row for a trigger with a target. -/
def triggerRow (name unit : Text) (target : Field Int) : List (Text × Text) :=
  match target.value? with
  | some n => [(name, Text.ofInt n ++ unit)]
  | none => []

/-- Name and details of every trigger that is active. -/
def rows (a : Autoscale) : List (Text × Text) :=
  let windows : List (Text × Text) :=
    match a.schedules.value? with
    | some (w :: rest) => [("Schedule(s)", Text.join "\n\n" (blocks 1 (w :: rest)))]
    | _ => []
  triggerRow "CPU" "%" a.cpu ++ triggerRow "Memory" "%" a.memory ++ triggerRow "RPS" " req/s" a.rps ++ windows

/-- The policy for people: the replica bounds and, if there are triggers, a table of them. -/
def renderTable (a : Autoscale) : Text :=
  let bounds : Text :=
    "min replicas: " ++ Text.ofNat a.minimum ++ "\n" ++ "max replicas: " ++ Text.ofNat a.maximum ++ "\n"
  match a.rows with
  | [] => bounds
  | rows => bounds ++ Table.render ["Triggers", "trigger details"] (rows.map fun (name, details) => [name, details])

/-- The policy for programs: its payload with sorted keys. -/
def renderJson (a : Autoscale) : Text := Json.renderIndented 0 a.payload.sortKeys ++ "\n"

/-- The policy as it is shown, with every integer in full. -/
def render (asJson : Bool) (a : Autoscale) : Text := if asJson then a.renderJson else a.renderTable

/-- What is shown of the policy: its integers need their digits. -/
def rendered (asJson : Bool) (a : Autoscale) : Outcome Text := printing a.payload.integers (a.render asJson)

end Autoscale

end ProxyControl
