import ProxyControl.Logging.Record
import ProxyControl.Validation.Datum

namespace ProxyControl

/-- How log records are written. -/
inductive LogFormat where
  | console
  | json
  deriving DecidableEq, Repr

namespace LogFormat

def name : LogFormat → Text
  | console => "console"
  | json => "json"

/-- Every name but that of the console format asks for JSON. -/
def ofName (t : Text) : LogFormat := if t = console.name then console else json

end LogFormat

/-- A value as plain text: a text stands for itself. -/
def Json.plain : Json → Text
  | .text t => t
  | value => value.toDatum.quoted

namespace Record

/-- A field of a console line. A text is quoted only if it could be taken for something else. -/
def column (name : Text) (value : Json) : Text :=
  let special : Text := " \t=\r\n\"'"
  match value with
  | .text t => name ++ "=" ++ (if t.any special.contains then t.quoted else t)
  | value => name ++ "=" ++ value.plain

/-- The record for people: what happened in columns, then the other fields by name. -/
def consoleLine (stamp : Text) (record : Record) : Text :=
  let bracketed (t : Text) : Text := "[" ++ t ++ "]"
  let leading : List Text := ["timestamp", "level", "event", "logger", "logger_name"]
  let others := (record.members stamp).filter fun (name, _) => !leading.contains name
  let columns := [stamp, bracketed (record.severity.name.padRight 9), record.event.padRight 30,
      bracketed record.logger] ++
    ((Json.member? "logger_name" (.object record.fields)).map fun value => bracketed value.plain).toList ++
    (others.mergeSort fun (k, _) (l, _) => k.le l).map fun (name, value) => column name value
  Text.dropWhileEnd (· = .char ' ') (Text.join " " columns)

/-- The record for programs. -/
def jsonLine (stamp : Text) (record : Record) : Text := (Json.object (record.members stamp)).render Json.spaced

/-- The record as it is written where nothing is set up for it. -/
def bareLine (stamp : Text) (record : Record) : Text := (Json.object (record.members stamp)).plain

def line (format : LogFormat) (stamp : Text) (record : Record) : Text :=
  match format with
  | .console => record.consoleLine stamp
  | .json => record.jsonLine stamp

end Record

end ProxyControl
