import ProxyControl.Duration
import ProxyControl.Validation.Coerce

namespace ProxyControl

/-- Which log entries are asked for. -/
structure LogArgs where
  target : Text
  pod : Option Text := none
  container : Option Text := none
  lines : Option Nat := none
  since : Option Duration := none
  follow : Bool := false
  color : Bool := true
  deriving DecidableEq, Repr

namespace LogArgs

def flagText (b : Bool) : Text := if b then "true" else "false"

/-- A parameter that is sent only when there is a text for it. -/
def textParameter (name : Text) (value : Option Text) : List (Text × Text) :=
  match value with
  | some t => if t.isEmpty then [] else [(name, t)]
  | none => []

/-- Zero lines ask for nothing. -/
def linesParameter : Option Nat → List (Text × Text)
  | some (n + 1) => [("lines", Text.ofNat (n + 1))]
  | _ => []

/-- A zero span asks for nothing. -/
def sinceParameter : Option Duration → List (Text × Text)
  | some d => if d = .zero then [] else [("since", Text.ofInt d.ceilingSeconds)]
  | none => []

/-- The query parameters of a log request, with the number of lines in full. -/
def query (args : LogArgs) : List (Text × Text) :=
  ("follow", flagText args.follow) :: ("color", flagText args.color) ::
    (linesParameter args.lines ++ sinceParameter args.since ++ textParameter "pod" args.pod ++
      textParameter "container" args.container)

/-- The query parameters as they are sent: the number of lines needs its digits. -/
def parameters (args : LogArgs) : Outcome (List (Text × Text)) :=
  printing (args.lines.toList.map Int.ofNat) args.query

def span (input : Datum) : Validation.Checked Duration :=
  match input with
  | .duration microseconds => .ok ⟨microseconds⟩
  | _ => Validation.reject input .notNumber

/-- Reads log arguments from plain data. -/
def check (input : Datum) : Validation.Checked LogArgs := do
  let entries ← Validation.entries "LogArgs" input
  let build (target : Text) (pod container : Option (Option Text)) (lines : Option (Option Nat))
      (since : Option (Option Duration)) (follow color : Option Bool) : LogArgs :=
    { target, pod := pod.join, container := container.join, lines := lines.join, since := since.join,
      follow := follow.getD false, color := color.getD true }
  (Validation.Checked.with (.ok build) (Validation.required ["instance"] Validation.text entries))
    |>.with (Validation.field ["pod"] (Validation.optional Validation.text) entries)
    |>.with (Validation.field ["container"] (Validation.optional Validation.text) entries)
    |>.with (Validation.field ["lines"] (Validation.optional Validation.count) entries)
    |>.with (Validation.field ["since"] (Validation.optional span) entries)
    |>.with (Validation.field ["follow"] Validation.boolean entries)
    |>.with (Validation.field ["color"] Validation.boolean entries)

def validate (input : Datum) : Outcome LogArgs :=
  (Validation.report "LogArgs" (check input)).mapError .invalidData

end LogArgs

/-- What a log command asks for on the command line. -/
structure LogFlags where
  target : Option Text := none
  pod : Option Text := none
  container : Option Text := none
  lines : Option Int := none
  since : Option Text := none
  follow : Bool := false
  color : Bool := true
  deriving Repr

namespace LogFlags

/-- The log arguments to send; nothing is filtered on this side. -/
def args (flags : LogFlags) : Outcome LogArgs :=
  match Text.present flags.target with
  | none => .error (.refused .instanceMissing)
  | some target =>
    if flags.lines.any (· < 0) then .error (.refused .linesNegative)
    else do
      let since ← (Text.present flags.since).mapM Duration.parse
      return {
        target, since
        pod := Text.present flags.pod
        container := Text.present flags.container
        lines := flags.lines.map Int.toNat
        follow := flags.follow
        color := flags.color }

end LogFlags

end ProxyControl
