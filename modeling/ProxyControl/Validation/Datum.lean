import ProxyControl.Json.Value
import ProxyControl.Number.Integer
import ProxyControl.Text.Utf8

namespace ProxyControl

/-- A day, and on it a time with an optional offset from UTC in seconds. -/
structure Moment where
  year : Nat
  month : Nat
  day : Nat
  hour : Nat
  minute : Nat
  second : Nat
  microsecond : Nat
  zone : Option Int
  deriving DecidableEq, Repr

/-- Plain data before it is validated: what a JSON or YAML document holds, and durations. A YAML collection
may also hold a collection that encloses it; only the kind of that one is kept. -/
inductive Datum where
  | none
  | bool (b : Bool)
  | int (n : Int)
  | float (x : Binary64)
  | text (t : Text)
  | bytes (content : Utf8.Bytes)
  | date (year month day : Nat)
  | moment (m : Moment)
  | duration (microseconds : Int)
  | list (items : List Datum)
  | pair (first second : Datum)
  | set (items : List Datum)
  | mapping (entries : List (Datum × Datum))
  | enclosing (isMapping : Bool)
  deriving Repr, Inhabited

mutual

def Json.toDatum : Json → Datum
  | .null => .none
  | .bool b => .bool b
  | .int n => .int n
  | .float x => .float x
  | .text t => .text t
  | .list items => .list (Json.itemsToData items)
  | .object members => .mapping (Json.membersToData members)

def Json.itemsToData : List Json → List Datum
  | [] => []
  | item :: rest => item.toDatum :: Json.itemsToData rest

def Json.membersToData : List (Text × Json) → List (Datum × Datum)
  | [] => []
  | (key, value) :: rest => (.text key, value.toDatum) :: Json.membersToData rest

end

namespace Datum

/-- The name of the kind of a datum. -/
def kind : Datum → Text
  | none => "NoneType"
  | bool _ => "bool"
  | int _ => "int"
  | float _ => "float"
  | text _ => "str"
  | bytes _ => "bytes"
  | date .. => "date"
  | moment _ => "datetime"
  | duration _ => "timedelta"
  | list _ => "list"
  | pair .. => "tuple"
  | set _ => "set"
  | mapping _ => "dict"
  | enclosing isMapping => if isMapping then "dict" else "list"

/-- How quoted bytes show one of them. -/
def quotedByte (quote : CodePoint) (b : UInt8) : Text :=
  let p := CodePoint.ofNat b.toNat
  if p = quote ∨ p = .char '\\' then [.char '\\', p]
  else if b = 0x09 then "\\t"
  else if b = 0x0A then "\\n"
  else if b = 0x0D then "\\r"
  else if 0x20 ≤ b ∧ b < 0x7F then [p]
  else "\\x" ++ hexDigits 2 b.toNat

def quotedBytes (content : Utf8.Bytes) : Text :=
  let quote : CodePoint := if content.contains 0x27 && !content.contains 0x22 then .char '"' else .char '\''
  .char 'b' :: quote :: content.flatMap (quotedByte quote) ++ [quote]

/-- A duration as its non-zero days, seconds and microseconds, the last two never negative. -/
def quotedDuration (microseconds : Int) : Text :=
  let days := microseconds.fdiv 86400000000
  let seconds := microseconds.fmod 86400000000 / 1000000
  let rest := microseconds.fmod 1000000
  let parts : List Text :=
    (if days = 0 then [] else ["days=" ++ Text.ofInt days]) ++
    (if seconds = 0 then [] else ["seconds=" ++ Text.ofInt seconds]) ++
    (if rest = 0 then [] else ["microseconds=" ++ Text.ofInt rest])
  "datetime.timedelta(" ++ (if parts.isEmpty then ("0" : Text) else Text.join ", " parts) ++ ")"

def quotedMoment (m : Moment) : Text :=
  let fields := [m.year, m.month, m.day, m.hour, m.minute] ++
    (if m.microsecond = 0 then (if m.second = 0 then [] else [m.second]) else [m.second, m.microsecond])
  let zone : Text :=
    match m.zone with
    | .none => []
    | some 0 => ", tzinfo=datetime.timezone.utc"
    | some seconds => ", tzinfo=datetime.timezone(" ++ quotedDuration (seconds * 1000000) ++ ")"
  "datetime.datetime(" ++ Text.join ", " (fields.map Text.ofNat) ++ zone ++ ")"

mutual

/-- A datum as the program would write it. -/
def quoted : Datum → Text
  | none => "None"
  | bool true => "True"
  | bool false => "False"
  | int n => Text.ofInt n
  | float x => x.toText
  | text t => t.quoted
  | bytes content => quotedBytes content
  | date year month day =>
    "datetime.date(" ++ Text.join ", " ([year, month, day].map Text.ofNat) ++ ")"
  | moment m => quotedMoment m
  | duration microseconds => quotedDuration microseconds
  | list items => "[" ++ quotedItems items ++ "]"
  | pair first second => "(" ++ quoted first ++ ", " ++ quoted second ++ ")"
  | set [] => "set()"
  | set items => "\x7b" ++ quotedItems items ++ "\x7d"
  | mapping entries => "\x7b" ++ quotedEntries entries ++ "\x7d"
  | enclosing true => "\x7b...\x7d"
  | enclosing false => "[...]"

def quotedItems : List Datum → Text
  | [] => []
  | [last] => quoted last
  | item :: rest => quoted item ++ ", " ++ quotedItems rest

def quotedEntries : List (Datum × Datum) → Text
  | [] => []
  | [(key, last)] => quoted key ++ ": " ++ quoted last
  | (key, value) :: rest => quoted key ++ ": " ++ quoted value ++ ", " ++ quotedEntries rest

end

mutual

/-- Whether a datum can be shown: an integer with too many digits cannot, nor can what holds one. -/
def isShowable : Datum → Bool
  | int n => n.natAbs < Nat.pow 10 Text.integerDigitLimit
  | list items | set items => areShowable items
  | pair first second => isShowable first && isShowable second
  | mapping entries => entriesAreShowable entries
  | _ => true

def areShowable : List Datum → Bool
  | [] => true
  | item :: rest => isShowable item && areShowable rest

def entriesAreShowable : List (Datum × Datum) → Bool
  | [] => true
  | (key, value) :: rest => isShowable key && isShowable value && entriesAreShowable rest

end

/-- How a message shows a datum, if it can be shown. -/
def shown (input : Datum) : Text :=
  if input.isShowable then input.quoted else "<unprintable " ++ input.kind ++ " object>"

/-- The value of a text key in the entries of a mapping. -/
def lookup? (key : Text) : List (Datum × Datum) → Option Datum
  | [] => .none
  | (.text k, value) :: rest => if k = key then some value else lookup? key rest
  | _ :: rest => lookup? key rest

end Datum

end ProxyControl
