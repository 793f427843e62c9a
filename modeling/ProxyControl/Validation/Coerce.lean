import ProxyControl.Number.Integer
import ProxyControl.Validation.Report

namespace ProxyControl.Validation

/-- The outcome of a check: a value, or everything that is wrong with the input. -/
abbrev Checked := Except (List Problem)

def reject {α : Type} (input : Datum) (defect : Defect) : Checked α := .error [⟨[], defect, input⟩]

/-- Applies a checked function to a checked argument; the problems of both are kept, in this order. -/
def Checked.with {α β : Type} (f : Checked (α → β)) (a : Checked α) : Checked β :=
  match f, a with
  | .ok f, .ok a => .ok (f a)
  | .ok _, .error problems => .error problems
  | .error problems, .ok _ => .error problems
  | .error problems, .error more => .error (problems ++ more)

def Checked.under {α : Type} (step : Step) (checked : Checked α) : Checked α :=
  checked.mapError fun problems => problems.map (Problem.under step)

/-- Digits with single underscores between them, without the underscores. `free` says that a digit came
right before. -/
def groupedDigits? (free : Bool) : Text → Option Text
  | [] => if free then some [] else none
  | p :: rest =>
    if p.isAsciiDigit then (groupedDigits? true rest).map (p :: ·)
    else if p = .char '_' ∧ free then groupedDigits? false rest
    else none

/-- An integer as text: an optional sign, digits, and a fraction only if it is zero. -/
def integerOfText? (t : Text) : Option Int :=
  let t := Text.trimBy Text.isNumberBlank t
  let (negative, body) : Bool × Text :=
    match t with
    | .char '-' :: rest => (true, rest)
    | .char '+' :: rest => (false, rest)
    | rest => (false, rest)
  let (whole, fractionIsZero) : Text × Bool :=
    match Text.cut? (.char '.') body with
    | none => (body, true)
    | some (whole, fraction) => (whole, !fraction.isEmpty && fraction.all (· == .char '0'))
  if !fractionIsZero then none
  else
    match groupedDigits? false whole with
    | none => none
    | some digits =>
      let n : Nat := digits.foldl (fun n p => n * 10 + p.digitValue) 0
      some (if negative then -(n : Int) else n)

/-- Texts with more bytes are not read as integers. -/
def integerTextLimit : Nat := 4300

/-- The 64 bit integer a float stands for. -/
def integerOfFloat (x : Binary64) : Except Defect Int :=
  match x.truncate? with
  | none => .error .notFinite
  | some (n, exact) =>
    if !exact then .error .integerFraction
    else if -0x8000000000000000 < n ∧ n < 0x8000000000000000 then .ok n
    else .error .integerSize

/-- The text that bytes encode. -/
def decoded (defect : Defect) (input : Datum) (content : Utf8.Bytes) : Checked Text :=
  match Utf8.decode .refuse content with
  | .ok t => .ok t
  | .error _ => reject input defect

/-- A text that can be encoded. -/
def encodable (input : Datum) (t : Text) : Checked Text :=
  if t.any fun p => 0xD800 ≤ p.toNat && p.toNat < 0xE000 then reject input .notUnicode else .ok t

/-- The text of an input that may stand for a value of another kind, as text or as bytes. -/
def wording? (defect : Defect) (input : Datum) : Checked (Option Text) :=
  match input with
  | .text t => (encodable input t).map some
  | .bytes content => (decoded defect input content).map some
  | _ => .ok none

def integerOfWording (input : Datum) (t : Text) : Checked Int :=
  if (Utf8.encodeLoosely t).length > integerTextLimit then reject input .integerSize
  else
    match integerOfText? t with
    | some n => .ok n
    | none => reject input .integerText

def integer (input : Datum) : Checked Int := do
  if let some t ← wording? .integerText input then integerOfWording input t
  else
    match input with
    | .int n => .ok n
    | .bool b => .ok (if b then 1 else 0)
    | .float x =>
      match integerOfFloat x with
      | .ok n => .ok n
      | .error defect => reject input defect
    | _ => reject input .notInteger

/-- An integer that is not negative. -/
def count (input : Datum) : Checked Nat := do
  match ← integer input with
  | .ofNat n => .ok n
  | .negSucc _ => reject input (.below 0)

def text (input : Datum) : Checked Text :=
  match input with
  | .text t => .ok t
  | .bytes content => decoded .notUnicode input content
  | _ => reject input .notText

def falseWords : List Text := ["0", "f", "n", "no", "off", "false"]

def trueWords : List Text := ["1", "t", "y", "on", "yes", "true"]

def booleanOfInt (input : Datum) (n : Int) : Checked Bool :=
  if n = 0 then .ok false else if n = 1 then .ok true else reject input .booleanText

def booleanOfWording (input : Datum) (t : Text) : Checked Bool :=
  if falseWords.contains t.asciiLower then .ok false
  else if trueWords.contains t.asciiLower then .ok true
  else reject input .booleanText

def boolean (input : Datum) : Checked Bool := do
  if let some t ← wording? .booleanText input then booleanOfWording input t
  else
    match input with
    | .bool b => .ok b
    | .int n => if -0x8000000000000000 ≤ n ∧ n < 0x8000000000000000 then booleanOfInt input n else reject input .notBoolean
    | .float x =>
      match integerOfFloat x with
      | .ok n => booleanOfInt input n
      | .error _ => reject input .notBoolean
    | _ => reject input .notBoolean

/-- Unsigned decimal notation: digits on at least one side of the point, then maybe an exponent. -/
def decimalOfText? (negative : Bool) (t : Text) : Option Binary64 :=
  let whole := t.takeWhile CodePoint.isAsciiDigit
  let afterWhole := t.drop whole.length
  let (fraction, afterFraction) : Text × Text :=
    match afterWhole with
    | .char '.' :: rest =>
      (rest.takeWhile CodePoint.isAsciiDigit, rest.dropWhile CodePoint.isAsciiDigit)
    | rest => ([], rest)
  let digits := whole ++ fraction
  let value (power : Int) : Binary64 :=
    .ofDecimal negative (digits.foldl (fun n p => n * 10 + p.digitValue) 0) (power - fraction.length)
  if digits.isEmpty then none
  else
    match afterFraction with
    | [] => some (value 0)
    | mark :: rest =>
      if mark = .char 'e' ∨ mark = .char 'E' then
        match rest with
        | .char '-' :: power => (Text.toNat? power).map fun n => value (-(n : Int))
        | .char '+' :: power => (Text.toNat? power).map fun n => value n
        | power => (Text.toNat? power).map fun n => value n
      else none

/-- A number as text, with a sign, and the names of the values that are not finite. -/
def numberOfText? (t : Text) : Option Binary64 :=
  let (negative, body) : Bool × Text :=
    match t with
    | .char '-' :: rest => (true, rest)
    | .char '+' :: rest => (false, rest)
    | rest => (false, rest)
  let name := body.asciiLower
  if name = "inf" ∨ name = "infinity" then some (.infinite negative)
  else if name = "nan" then some .nan
  else decimalOfText? negative body

/-- The text without underscores that stand alone between other code points. -/
def ungroup? (t : Text) : Option Text :=
  if t.head? = some (.char '_') ∨ t.getLast? = some (.char '_') ∨ !t.contains (.char '_') ∨
    Text.occursIn "__" t then none
  else some (t.filter (· != .char '_'))

def numberOfWording (input : Datum) (t : Text) : Checked Binary64 :=
  let t := Text.trimBy Text.isNumberBlank t
  match (numberOfText? t).or ((ungroup? t).bind numberOfText?) with
  | some x => .ok x
  | none => reject input .numberText

/-- A number. Integers beyond all finite numbers are none. -/
def number (input : Datum) : Checked Binary64 := do
  if let some t ← wording? .numberText input then numberOfWording input t
  else
    match input with
    | .float x => .ok x
    | .int n => if (Binary64.ofInt n).isFinite then .ok (.ofInt n) else reject input .notNumber
    | .bool b => .ok (.ofNat (if b then 1 else 0))
    | _ => reject input .notNumber

def positiveNumber (input : Datum) : Checked Binary64 := do
  let x ← number input
  if x.isPositive then .ok x else reject input (.notAbove 0)

/-- Nothing, or a value that passes the check. -/
def optional {α : Type} (check : Datum → Checked α) (input : Datum) : Checked (Option α) :=
  match input with
  | .none => .ok none
  | other => (check other).map some

def itemsFrom {α : Type} (check : Datum → Checked α) (position : Nat) : List Datum → Checked (List α)
  | [] => .ok []
  | item :: rest =>
    Checked.with (Checked.with (.ok List.cons) (Checked.under (.index position) (check item)))
      (itemsFrom check (position + 1) rest)

def listOf {α : Type} (check : Datum → Checked α) (input : Datum) : Checked (List α) :=
  match input with
  | .list items => itemsFrom check 0 items
  | _ => reject input .notList

/-- The entries of a mapping that is to become a `model`. -/
def entries (model : Text) (input : Datum) : Checked (List (Datum × Datum)) :=
  match input with
  | .mapping entries => .ok entries
  | _ => reject input (.notModel model)

/-- The value of the first of the given keys that is there, with its key. -/
def find? (keys : List Text) (entries : List (Datum × Datum)) : Option (Text × Datum) :=
  keys.findSome? fun key => (Datum.lookup? key entries).map fun value => (key, value)

/-- The value of a field that may be left out. -/
def field {α : Type} (keys : List Text) (check : Datum → Checked α) (entries : List (Datum × Datum)) :
    Checked (Option α) :=
  match find? keys entries with
  | none => .ok none
  | some (key, value) => Checked.under (.key key) ((check value).map some)

/-- The value of a field that must be there. -/
def required {α : Type} (keys : List Text) (check : Datum → Checked α) (entries : List (Datum × Datum)) :
    Checked α :=
  match find? keys entries with
  | none => Checked.under (.key (keys.headD [])) (reject (.mapping entries) .missing)
  | some (key, value) => Checked.under (.key key) (check value)

/-- How a report names a key that is not a text. -/
def keyStep : Datum → Step
  | .text t => .key t
  | .int n => .index n
  | .bool b => .index (if b then 1 else 0)
  | other => .key other.shown

/-- Refuses every key that is not among the known ones. -/
def noOthers (known : List Text) (entries : List (Datum × Datum)) : Checked Unit :=
  let problems := entries.flatMap fun (key, value) =>
    match key with
    | .text t => if known.contains t then [] else [⟨[.key t], .extraKey, value⟩]
    | other => [⟨[keyStep other], .keyNotText, other⟩]
  if problems.isEmpty then .ok () else .error problems

/-- A finished check as a report about a `model`. -/
def report {α : Type} (model : Text) (checked : Checked α) : Except Report α :=
  checked.mapError fun problems => ⟨model, problems⟩

end ProxyControl.Validation
