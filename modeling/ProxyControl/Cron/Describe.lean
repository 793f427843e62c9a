import ProxyControl.Cron.English
import ProxyControl.Cron.Grammar
import ProxyControl.Failure
import ProxyControl.Unicode.Digits

namespace ProxyControl.Cron

/-- Why a cron expression has no description. -/
inductive Objection where
  | blank
  | invalid (expression : Text)
  | noWords (expression : Text)
  deriving DecidableEq, Repr

def Objection.message : Objection → Text
  | blank => "empty cron expression"
  | invalid expression => "invalid cron expression " ++ expression.quoted
  | noWords expression => "invalid cron expression " ++ expression.quoted ++ ": "

def Objection.failure (objection : Objection) : Failure := .fault .value objection.message

/-- Describes a cron expression in plain English: `00 08 * * 1-5` is
`At 08:00 AM, Monday through Friday`. -/
def describe (expression : Text) : Except Objection Text :=
  if expression.strip.isEmpty then .error .blank
  else
    match Expression.ofText? expression with
    | none => .error (.invalid expression)
    | some fields =>
      if !fields.isValid then .error (.invalid expression)
      else
        match fields.inEnglish? with
        | none => .error (.noWords expression)
        | some words => .ok words

/-- The description followed by the expression, or the bare expression when it has none. -/
def humanize (expression : Text) : Text :=
  match describe expression with
  | .ok words => words ++ " (" ++ expression ++ ")"
  | .error _ => expression

end ProxyControl.Cron
