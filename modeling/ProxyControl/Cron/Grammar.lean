import ProxyControl.Cron.Field
import ProxyControl.Number.Integer

namespace ProxyControl.Cron

/-- What one entry of a field selects. -/
inductive Slot where
  | every
  | lastDay
  | at (n : Nat)
  deriving DecidableEq, Repr

/-- A slot, and whether it was written with an ordinal such as the second or the last of the month. -/
structure Pick where
  slot : Slot
  ordinal : Bool := false
  deriving DecidableEq, Repr

/-- The slot of an entry that is not a range. -/
def slot? (field : Field) (entry : Text) : Option Slot :=
  if entry = "*" then some .every
  else if field = .day ∧ entry = "l" then some .lastDay
  else
    match field.number? entry with
    | none => none
    | some n =>
      let n := field.canonical n
      if field.least ≤ n ∧ n ≤ field.greatest then some (.at n) else none

/-- A range as it is written: two bounds and maybe a step of digits. -/
structure Span where
  low : Text
  high : Text
  step : Option Text

def span? (entry : Text) : Option Span :=
  match Text.cut? (.char '-') entry with
  | none => none
  | some (low, rest) =>
    let (high, step) : Text × Option Text :=
      match Text.cut? (.char '/') rest with
      | none => (rest, none)
      | some (high, step) => (high, some step)
    let wellFormed := !low.isEmpty && !high.isEmpty && !rest.contains (.char '-') &&
      step.all fun digits => !digits.isEmpty && digits.all CodePoint.isAsciiDigit
    if wellFormed then some ⟨low, high, step⟩ else none

/-- The text before the last separator and the text after it. -/
def cutLast? (separator : CodePoint) (t : Text) : Option (Text × Text) :=
  (Text.cut? separator t.reverse).map fun (after, before) => (before.reverse, after.reverse)

/-- The range an entry stands for. A step without a range runs from its start to the end of the field. -/
def spanOf? (field : Field) (entry : Text) : Option Span :=
  match span? entry with
  | some span => some span
  | none =>
    match cutLast? (.char '/') entry with
    | none => none
    | some (start, step) =>
      if start = "*" then
        span? (Text.ofNat field.least ++ "-" ++ Text.ofNat field.greatest ++ "/" ++ step)
      else span? (start ++ "-" ++ Text.ofNat field.greatest ++ "/" ++ step)

def bound? (field : Field) (isHigh : Bool) (t : Text) : Option Nat :=
  if isHigh ∧ field = .day ∧ t = "l" then some 31 else (field.number? t).map field.canonical

/-- Every `step`th number from `low` to `high`. -/
def stepped (low high step : Nat) : List Nat :=
  (List.range' low (high + 1 - low)).filter fun n => (n - low) % step == 0

/-- The numbers of a range that wraps around the end of the field. After the wrap the step goes on counting,
unless the last number before it is a whole step away from the end. -/
def wrapped (field : Field) (low high step : Nat) : List Nat :=
  let before := stepped low field.greatest step
  let last := before.getLast?.getD low
  let passed := field.greatest - last
  let skipped := if last - field.least + step > field.size ∧ passed < step then step - passed else 0
  before ++ stepped (field.least + skipped) high step

/-- The numbers of a range; a range from a number to itself is the whole field. -/
def numbers? (field : Field) (span : Span) : Option (List Nat) := do
  let low ← bound? field false span.low
  let high ← bound? field true span.high
  let step := (span.step.bind Text.toNat?).getD 1
  if step = 0 ∨ max low high > field.greatest then none
  else if low > high then some (wrapped field low high step)
  else if low = high then some (stepped field.least field.greatest step)
  else some (stepped low high step)

/-- The slots of an entry without ordinals. Numbers of a range are checked one by one. -/
def slots? (field : Field) (entry : Text) : Option (List Slot) :=
  match spanOf? field entry with
  | some span => do
    let numbers ← numbers? field span
    numbers.mapM fun n => slot? field (Text.ofNat n)
  | none => (slot? field entry).map ([·])

def isWordPoint (p : CodePoint) : Bool := p.isAsciiAlphanumeric || p == .char '_'

/-- Whether an ordinal may follow a text: a word, or a range between two weekday or two month names. -/
def takesOrdinal (t : Text) : Bool :=
  (!t.isEmpty && t.all isWordPoint) ||
  match Text.cut? (.char '-') t with
  | none => false
  | some (low, high) =>
    [Field.weekdayNames, Field.monthNames].any fun names =>
      (names.lookup low).isSome && (names.lookup high).isSome

/-- A weekday entry with an ordinal: its text before the ordinal, or that of a last weekday. `none` for
other entries, and a refusal for ordinals out of range. -/
def ordinal? (entry : Text) : Option (Option Text) :=
  match entry with
  | .char 'l' :: digits =>
    if !digits.isEmpty && digits.all CodePoint.isAsciiDigit then some (some digits) else ordinalBody? entry
  | _ => ordinalBody? entry
where
  ordinalBody? (entry : Text) : Option (Option Text) :=
    match Text.cut? (.char '#') entry with
    | none => none
    | some (base, digits) =>
      match Text.toNat? digits with
      | none => none
      | some n =>
        if !takesOrdinal base then none
        else if 1 ≤ n ∧ n ≤ 5 then some (some base) else some none

def picks? (field : Field) (entry : Text) : Option (List Pick) :=
  let plain := (slots? field entry).map fun slots => slots.map fun slot => { slot }
  if field = .weekday then
    match ordinal? entry with
    | none => plain
    | some none => none
    | some (some base) => (slots? field base).map fun slots => slots.map fun slot => { slot, ordinal := true }
  else plain

/-- A day field that asks for the weekday nearest to a day. -/
def isNearestWeekday (t : Text) : Bool :=
  let digits : Text :=
    match t with
    | .char 'w' :: rest => rest
    | _ => if t.getLast? = some (.char 'w') then t.dropLast else []
  match Text.toNat? digits with
  | some n => 1 ≤ n && n ≤ 31
  | none => false

/-- A bounded or unbounded random choice, with an optional step, that stands for a whole field. The bounds
must grow and the step must not be zero. `none` means that the field is no such choice. -/
def randomChoice? (t : Text) : Option Bool :=
  match t with
  | .char 'r' :: rest =>
    let (bounds, rest) : Option (Nat × Nat) × Text :=
      match rest with
      | .char '(' :: inner =>
        match Text.cut? (.char ')') inner with
        | some (range, after) =>
          match Text.cut? (.char '-') range with
          | some (low, high) =>
            match Text.toNat? low, Text.toNat? high with
            | some low, some high => (some (low, high), after)
            | _, _ => (none, rest)
          | none => (none, rest)
        | none => (none, rest)
      | _ => (none, rest)
    let bounded := bounds.all fun (low, high) => low < high
    match rest with
    | [] => some bounded
    | .char '/' :: step => (Text.toNat? step).map fun n => bounded && n != 0
    | _ => none
  | _ => none

/-- The picks of a field, or `none` if it is malformed. -/
def fieldPicks? (field : Field) (t : Text) : Option (List Pick) :=
  match randomChoice? t with
  | some true => some [{ slot := .at field.least }]
  | some false => none
  | none =>
    if t = "?" then
      if field = .day ∨ field = .weekday then some [{ slot := .every }] else none
    else if field = .day ∧ isNearestWeekday t then some [{ slot := .lastDay }]
    else ((Text.splitOn (.char ',') t).mapM (picks? field)).map List.flatten

/-- Weekdays with an ordinal cannot be mixed with other weekdays, unless these are all there are. -/
def weekdaysAgree (picks : List Pick) : Bool :=
  let slots := (picks.map Pick.slot).eraseDups
  let withOrdinal := (picks.filter Pick.ordinal).map Pick.slot
  let others := slots.filter fun slot => slot != .every && !withOrdinal.contains slot
  withOrdinal.isEmpty || others.isEmpty || slots.length == Field.size .weekday

/-- Blank code points between fields. -/
def isBlank (p : CodePoint) : Bool :=
  let n := p.toNat
  (0x09 ≤ n && n ≤ 0x0D) || n == 0x20

/-- The five fields of a text, letter case as written. -/
def Expression.ofText? (t : Text) : Option Expression :=
  match Text.runs isBlank t with
  | [minute, hour, day, month, weekday] => some ⟨minute, hour, day, month, weekday⟩
  | _ => none

/-- Whether no run of digits in a text is too long to be read as a number. -/
def hasReadableNumbers (t : Text) : Bool :=
  (Text.runs (fun p => !p.isAsciiDigit) t).all fun digits => digits.length ≤ Text.integerDigitLimit

/-- Whether every field selects something and all numbers are in range. -/
def Expression.isValid (e : Expression) : Bool :=
  let ok (field : Field) (t : Text) : Bool :=
    t.all CodePoint.isAscii && hasReadableNumbers t && (fieldPicks? field t.asciiLower).isSome
  ok .minute e.minute && ok .hour e.hour && ok .day e.day && ok .month e.month && ok .weekday e.weekday &&
    (fieldPicks? .weekday e.weekday.asciiLower).any weekdaysAgree

end ProxyControl.Cron
