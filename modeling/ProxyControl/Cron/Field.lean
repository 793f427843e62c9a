import ProxyControl.Text.Basic

namespace ProxyControl.Cron

/-- The five fields of a cron expression. -/
inductive Field where
  | minute
  | hour
  | day
  | month
  | weekday
  deriving DecidableEq, Repr

namespace Field

def least : Field → Nat
  | minute | hour | weekday => 0
  | day | month => 1

def greatest : Field → Nat
  | minute => 59
  | hour => 23
  | day => 31
  | month => 12
  | weekday => 6

def size (field : Field) : Nat := field.greatest - field.least + 1

def monthNames : List (Text × Nat) :=
  [("jan", 1), ("feb", 2), ("mar", 3), ("apr", 4), ("may", 5), ("jun", 6), ("jul", 7), ("aug", 8), ("sep", 9),
    ("oct", 10), ("nov", 11), ("dec", 12)]

def weekdayNames : List (Text × Nat) :=
  [("sun", 0), ("mon", 1), ("tue", 2), ("wed", 3), ("thu", 4), ("fri", 5), ("sat", 6)]

/-- The names that stand for a number in a field. -/
def names : Field → List (Text × Nat)
  | month => monthNames
  | weekday => weekdayNames
  | _ => []

/-- Sunday is both the first and the eighth weekday. -/
def canonical (field : Field) (n : Nat) : Nat := if field = weekday ∧ n = 7 then 0 else n

/-- The number a field's text names, by digits or by name. -/
def number? (field : Field) (t : Text) : Option Nat := (t.toNat?).or (field.names.lookup t)

end Field

/-- A cron expression as the texts of its fields. -/
structure Expression where
  minute : Text
  hour : Text
  day : Text
  month : Text
  weekday : Text
  deriving DecidableEq, Repr

end ProxyControl.Cron
