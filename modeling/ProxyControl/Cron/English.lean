import ProxyControl.Cron.Field

namespace ProxyControl.Cron

/-- How the parts of a field are put into words. The words for a single number may fail. -/
structure Wording where
  all : Text
  single : Text → Option Text
  interval : Text → Text
  between : Text → Text → Text
  item : Text → Text → Text

def holds (c : Char) (t : Text) : Bool := t.contains (.char c)

/-- Whether a field is a single number or name. -/
def isSingle (t : Text) : Bool := !holds '/' t && !holds '-' t && !holds ',' t

def isPlain (t : Text) : Bool := isSingle t && !holds '*' t

def dropComma (t : Text) : Text := if (", " : Text).isPrefixOf t then t.drop 2 else t

namespace Wording

/-- A range in words. A closing hour lasts to its last minute. -/
def range? (w : Wording) (expression : Text) : Option Text :=
  match Text.splitOn (.char '-') expression with
  | low :: high :: _ => do
    let low ← w.single low
    let high ← w.single high
    return w.between low (Text.replace ":00" ":59" high)
  | _ => none

/-- A field without commas in words. -/
def part? (w : Wording) (expression : Text) : Option Text :=
  if expression.isEmpty then some []
  else if expression = "*" then some w.all
  else if isSingle expression then (w.single expression).map (w.item expression)
  else
    match Text.splitOn (.char '/') expression with
    | base :: step :: _ =>
      if holds '-' base then do
        let range ← w.range? base
        return w.interval step ++ (if (", " : Text).isPrefixOf range then range else ", " ++ range)
      else if !holds '*' base then do
        let start ← w.single base
        return w.interval step ++ ", starting " ++ Text.replace ", " "" (w.item base start)
      else some (w.interval step)
    | _ => w.range? expression

/-- A range inside a list. -/
def listRange (low high : Text) : Text := ", " ++ low ++ " through " ++ high

def listEntry? (w : Wording) (entry : Text) : Option Text :=
  if holds '-' entry || holds '/' entry then ({ w with between := listRange }.part? entry).map dropComma
  else w.single entry

/-- Phrases with commas between them and a last `and`; two phrases need no comma. -/
def enumerate : List Text → Text
  | [] => []
  | [only] => only
  | [first, second] => first ++ " and " ++ second
  | several => Text.join ", " several.dropLast ++ ", and " ++ several.getLastD []

/-- A field in words. -/
def field? (w : Wording) (expression : Text) : Option Text :=
  if holds ',' expression then do
    let entries ← (Text.splitOn (.char ',') expression).mapM w.listEntry?
    return w.item expression (enumerate entries)
  else w.part? expression

end Wording

def twoDigits (n : Nat) : Text := (if n < 10 then "0" else "") ++ Text.ofNat n

/-- A time on the twelve hour clock. -/
def clock? (hour minute : Text) : Option Text := do
  let hour ← Text.toNat? hour
  let minute ← Text.toNat? minute
  let half : Text := if hour ≥ 12 then " PM" else " AM"
  let shown := if hour > 12 then hour - 12 else if hour = 0 then 12 else hour
  return twoDigits shown ++ ":" ++ twoDigits minute ++ half

def minuteWording (hour : Text) : Wording where
  all := "every minute"
  single := some
  interval step := "every " ++ step ++ " minutes"
  between low high := "minutes " ++ low ++ " through " ++ high ++ " past the hour"
  item expression content :=
    -- full hours need no minutes, unless the hours are a range
    if expression = "0" ∧ !(holds '-' hour && !holds '/' hour && !holds ',' hour) then []
    else "at " ++ content ++ " minutes past the hour"

def hourWording : Wording where
  all := "every hour"
  single t := clock? t "0"
  interval step := "every " ++ step ++ " hours"
  between low high := "between " ++ low ++ " and " ++ high
  item _ content := "at " ++ content

def dayWording : Wording where
  all := ", every day"
  single := some
  interval step := if step = "1" then ", every day" else ", every " ++ step ++ " days"
  between low high := ", between day " ++ low ++ " and " ++ high ++ " of the month"
  item _ content := ", on day " ++ content ++ " of the month"

def monthTitles : List Text :=
  ["January", "February", "March", "April", "May", "June", "July", "August", "September", "October", "November",
    "December"]

def monthTitle? (t : Text) : Option Text := do
  match ← Text.toNat? t with
  | 0 => none
  | n + 1 => monthTitles[n]?

def monthWording : Wording where
  all := []
  single := monthTitle?
  interval step := ", every " ++ step ++ " months"
  between low high := ", " ++ low ++ " through " ++ high
  item _ content := ", only in " ++ content

def weekdayTitles : List Text :=
  ["Sunday", "Monday", "Tuesday", "Wednesday", "Thursday", "Friday", "Saturday"]

/-- The name of a weekday, whatever ordinal it carries. -/
def weekdayTitle? (t : Text) : Option Text := do
  let number :=
    match Text.cut? (.char '#') t with
    | some (number, _) => number
    | none => t.filter (· != .char 'L')
  let n ← Text.toNat? number
  weekdayTitles[n]?

/-- The ordinal after the first number sign; nothing when several entries carry one. -/
def ordinalTitle (expression : Text) : Text :=
  match (Text.cut? (.char '#') expression).bind fun (_, ordinal) => Text.toNat? ordinal with
  | some 1 => "first"
  | some 2 => "second"
  | some 3 => "third"
  | some 4 => "forth"
  | some 5 => "fifth"
  | _ => []

def weekdayWording (day : Text) : Wording where
  all := ", every day"
  single := weekdayTitle?
  interval step := ", every " ++ step ++ " days of the week"
  between low high := ", " ++ low ++ " through " ++ high
  item expression content :=
    if holds '#' expression then ", on the " ++ ordinalTitle expression ++ " " ++ content ++ " of the month"
    else if holds 'L' expression then ", on the last " ++ content ++ " of the month"
    else if day = "*" then ", only on " ++ content
    else ", or on " ++ content

/-- A weekday field whose step leads out of the week: its weekdays and the step in weeks. -/
def weekly? (expression : Text) : Option (Text × Text) :=
  match Text.splitOn (.char '/') expression with
  | [base, step] =>
    match Text.toNat? step with
    | none => none
    | some n =>
      if holds ',' base then some (base, step)
      else
        match Text.splitOn (.char '-') base with
        | [low, high] =>
          if high = "6" ∧ (Text.toNat? low).any (n > 6 - ·) then some (low, step)
          else if n ≥ 7 then some (base, step)
          else none
        | _ => none
  | _ => none

def weekdayPhrase? (e : Expression) : Option Text :=
  if e.weekday = "*" then some []
  else
    match weekly? e.weekday with
    | some (weekdays, step) => do
      let weekdays ← (weekdayWording "*").field? weekdays
      return ", every " ++ step ++ " weeks" ++ weekdays
    | none => (weekdayWording e.day).field? e.weekday

/-- The day of a weekday request such as `15W` at the head of a text. -/
def nearestDay? (t : Text) : Option Nat :=
  let digits := (t.filter CodePoint.isAsciiDigit)
  match t with
  | .char 'W' :: _ => Text.toNat? digits
  | _ => if t.getLast? = some (.char 'W') then Text.toNat? digits else none

def dayPhrase? (e : Expression) : Option Text :=
  if e.day = "L" then some ", on the last day of the month"
  else
    match nearestDay? e.day with
    | some 1 => some ", on the first weekday of the month"
    | some n => some (", on the weekday nearest day " ++ Text.ofNat n ++ " of the month")
    | none => dayWording.field? e.day

def timePhrase? (e : Expression) : Option Text :=
  if isPlain e.minute ∧ isPlain e.hour then do
    let time ← clock? e.hour e.minute
    return "At " ++ time
  else if holds '-' e.minute ∧ !holds ',' e.minute ∧ !holds '/' e.minute ∧ isPlain e.hour then
    match Text.splitOn (.char '-') e.minute with
    | low :: high :: _ => do
      let low ← clock? e.hour low
      let high ← clock? e.hour high
      return "Every minute between " ++ low ++ " and " ++ high
    | _ => none
  else if holds ',' e.hour ∧ !holds '-' e.hour ∧ isPlain e.minute then do
    let times ← (Text.splitOn (.char ',') e.hour).mapM fun hour => clock? hour e.minute
    return "At " ++ Text.join ", " times.dropLast ++ " and " ++ times.getLastD []
  else do
    let minutes ← (minuteWording e.hour).field? e.minute
    let hours ← hourWording.field? e.hour
    return minutes ++ (if minutes.isEmpty || hours.isEmpty then "" else ", ") ++ hours

/-- Sunday written as seven becomes zero, at the start and after everything but a digit's own sign. `first`
says that the text begins the field. -/
def zeroSunday (first : Bool) : Text → Text
  | [] => []
  | [p] => if first && p == .char '7' then [.char '0'] else [p]
  | p :: q :: rest =>
    if first && p.isAsciiDigit then (if p = .char '7' then .char '0' else p) :: zeroSunday false (q :: rest)
    else if q.isAsciiDigit && p != .char '#' && p != .char '/' then
      p :: (if q = .char '7' && !p.isAsciiDigit then .char '0' else q) :: zeroSunday false rest
    else p :: zeroSunday false (q :: rest)

/-- Replaces names by numbers, one name after the other. -/
def numberNames (names : List (Text × Nat)) (t : Text) : Text :=
  names.foldl (fun t (name, n) => Text.replace (Text.asciiUpper name) (Text.ofNat n) t) t.asciiUpper

/-- A step from the least number is a step over the whole field. -/
def freeStep (least : Text) (t : Text) : Text :=
  let start := least ++ "/"
  if start.isPrefixOf t then Text.replace start "*/" t else t

def everyStep (t : Text) : Text := if t = "*/1" then "*" else t

/-- A step that starts at a number runs to the end of its field. -/
def closedStep (greatest : Text) (t : Text) : Text :=
  if holds '/' t ∧ !holds '*' t ∧ !holds '-' t ∧ !holds ',' t then
    match Text.splitOn (.char '/') t with
    | start :: step :: _ => start ++ "-" ++ greatest ++ "/" ++ step
    | _ => t
  else t

/-- The expression with its fields in the forms that have words. A single hour becomes a range when the
minutes go on through it. -/
def Expression.normalize (e : Expression) : Expression :=
  let anyDay (t : Text) : Text := Text.replace "?" "*" t
  let minute := freeStep "0" e.minute
  let hour := freeStep "0" e.hour
  let day := freeStep "1" (anyDay e.day)
  let month := numberNames Field.monthNames (freeStep "1" e.month)
  let weekday := numberNames Field.weekdayNames (zeroSunday true (freeStep "1" (anyDay e.weekday)))
  let hour := if isPlain hour ∧ (holds '*' minute || holds '/' minute) then hour ++ "-" ++ hour else hour
  { minute := everyStep minute
    hour := everyStep hour
    day := everyStep day
    month := closedStep "12" (everyStep month)
    weekday := closedStep "6" (everyStep weekday) }

/-- The words without what goes without saying. -/
def tighten (t : Text) : Text :=
  let t := Text.replace ", every minute" "" t
  let t := Text.replace ", every hour" "" t
  let t := Text.replace ", every day" "" t
  if (", " : Text).isSuffixOf t then t.take (t.length - 2)
  else if ("," : Text).isSuffixOf t then t.take (t.length - 1)
  else t

def capitalize : Text → Text
  | [] => []
  | p :: rest => p.asciiUpper :: rest

/-- A cron expression in plain English, when all its parts have words. -/
def Expression.inEnglish? (e : Expression) : Option Text := do
  let e := e.normalize
  let time ← timePhrase? e
  let day ← dayPhrase? e
  let weekday ← weekdayPhrase? e
  let month ← monthWording.field? e.month
  return capitalize (tighten (time ++ day ++ weekday ++ month))

end ProxyControl.Cron
