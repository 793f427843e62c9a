import ProxyControl.Text.Basic

namespace ProxyControl.Stamp

/-- A day of the calendar. -/
structure Day where
  year : Nat
  month : Nat
  day : Nat
  deriving DecidableEq, Repr

/-- The day that comes a number of days after the first of January 1970. Years are counted from March, so
that a leap day is the last day of its year, and in cycles of 400 years, which all have the same length. -/
def Day.ofNumber (n : Nat) : Day :=
  let n := n + 719468
  let inCycle := n % 146097
  let year := (inCycle - inCycle / 1460 + inCycle / 36524 - inCycle / 146096) / 365
  let inYear := inCycle - (365 * year + year / 4 - year / 100)
  let month := (5 * inYear + 2) / 153
  let day := inYear - (153 * month + 2) / 5 + 1
  let year := year + n / 146097 * 400
  if month < 10 then ⟨year, month + 3, day⟩ else ⟨year + 1, month - 9, day⟩

/-- A number with leading zeros. -/
def padded (width n : Nat) : Text :=
  let shown := Text.ofNat n
  List.replicate (width - shown.length) (.char '0') ++ shown

/-- The text of a time in UTC, given in microseconds since the start of 1970. -/
def ofMicroseconds (n : Nat) : Text :=
  let seconds := n / 1000000
  let day := Day.ofNumber (seconds / 86400)
  let date := Text.join "-" [padded 4 day.year, padded 2 day.month, padded 2 day.day]
  let time := Text.join ":" [padded 2 (seconds / 3600 % 24), padded 2 (seconds / 60 % 60), padded 2 (seconds % 60)]
  let fraction : Text := if n % 1000000 = 0 then "" else "." ++ padded 6 (n % 1000000)
  date ++ "T" ++ time ++ fraction ++ "Z"

end ProxyControl.Stamp
