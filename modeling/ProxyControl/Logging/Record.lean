import ProxyControl.Json.Value

namespace ProxyControl

/-- The weight of a log record. -/
inductive Severity where
  | debug
  | info
  | warning
  | error
  | critical
  deriving DecidableEq, Repr

namespace Severity

def rank : Severity → Nat
  | debug => 10
  | info => 20
  | warning => 30
  | error => 40
  | critical => 50

def name : Severity → Text
  | debug => "debug"
  | info => "info"
  | warning => "warning"
  | error => "error"
  | critical => "critical"

def named? (t : Text) : Option Severity :=
  [debug, info, warning, error, critical].find? fun severity => severity.name == t

end Severity

/-- Something that happened, as the logs tell it. -/
structure Record where
  severity : Severity
  logger : Text
  event : Text
  fields : List (Text × Json) := []
  deriving Repr

/-- All that a log line tells about a record. Its own fields come first; one whose name is taken gives way,
but keeps its place. -/
def Record.members (record : Record) (stamp : Text) : List (Text × Json) :=
  let own : List (Text × Json) :=
    [("event", .text record.event), ("level", .text record.severity.name), ("logger", .text record.logger),
      ("timestamp", .text stamp)]
  own.foldl (fun all (name, value) => Json.setMember name value all) record.fields

end ProxyControl
