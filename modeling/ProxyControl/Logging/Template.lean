import ProxyControl.Failure
import ProxyControl.Logging.Format
import ProxyControl.Number.Rounded

/-!
Events with places for values: `%s` and its relatives take the values in turn, `%(name)s` takes one by name.
-/

namespace ProxyControl.Template

/-- How a value is to be laid out. -/
structure Layout where
  left : Bool := false
  plus : Bool := false
  blank : Bool := false
  alternate : Bool := false
  zero : Bool := false
  width : Nat := 0
  precision : Option Nat := none

/-- The values that are left, and the ones with names. -/
structure Values where
  rest : List Json
  named : Option (List (Text × Json)) := none

/-- A single object gives names to values. -/
def Values.ofList : List Json → Values
  | [.object (first :: more)] => ⟨[.object (first :: more)], some (first :: more)⟩
  | values => ⟨values, none⟩

def wrongKind {α : Type} (message : Text) : Outcome α := .error (.fault .wrongKind message)

def invalid {α : Type} (message : Text) : Outcome α := .error (.fault .value message)

def Values.next (values : Values) : Outcome (Json × Values) :=
  match values.rest with
  | first :: rest => .ok (first, { values with rest })
  | [] => wrongKind "not enough arguments for format string"

/-- A key in parentheses, which may nest. -/
def splitKey (depth : Nat) : Text → Option (Text × Text)
  | [] => none
  | p :: rest =>
    if p = .char ')' ∧ depth = 0 then some ([], rest)
    else
      let depth := if p = .char '(' then depth + 1 else if p = .char ')' then depth - 1 else depth
      (splitKey depth rest).map fun (key, after) => (p :: key, after)

/-- Reads a key, if there is one, and makes its value the next one. -/
def selectNamed (values : Values) (template : Text) : Outcome (Values × Text) :=
  match template with
  | .char '(' :: rest =>
    match values.named with
    | none => wrongKind "format requires a mapping"
    | some members =>
      match splitKey 0 rest with
      | none => invalid "incomplete format key"
      | some (key, after) =>
        match members.lookup key with
        | some value => .ok ({ values with rest := [value] }, after)
        | none => .error (.fault .noSuchKey key.quoted)
  | _ => .ok (values, template)

def readFlags (layout : Layout) : Text → Layout × Text
  | .char '-' :: rest => readFlags { layout with left := true } rest
  | .char '+' :: rest => readFlags { layout with plus := true } rest
  | .char ' ' :: rest => readFlags { layout with blank := true } rest
  | .char '#' :: rest => readFlags { layout with alternate := true } rest
  | .char '0' :: rest => readFlags { layout with zero := true } rest
  | rest => (layout, rest)

/-- A size that a layout asks for: what it is called, and the kind of machine integer that holds it. -/
structure Size where
  name : Text
  integerName : Text
  bits : Nat

def width : Size := ⟨"width", "ssize_t", 63⟩

def precision : Size := ⟨"precision", "int", 31⟩

/-- A number in the template, or the next value in its place. -/
def readSize (size : Size) (values : Values) (template : Text) : Outcome (Int × Values × Text) :=
  let bound : Int := Nat.pow 2 size.bits
  match template with
  | .char '*' :: rest => do
    match ← values.next with
    | (.int n, values) =>
      if n < -bound ∨ bound ≤ n then
        throw (.fault .overflow ("Python int too large to convert to C " ++ size.integerName))
      return (n, values, rest)
    | (.bool b, values) => return ((if b then 1 else 0), values, rest)
    | _ => wrongKind "* wants int"
  | _ =>
    let digits := template.takeWhile CodePoint.isAsciiDigit
    let n : Int := ((Text.toNat? digits).getD 0 : Nat)
    if bound ≤ n then invalid (size.name ++ " too big")
    else .ok (n, values, template.drop digits.length)

/-- Reads flags, width and precision. A negative width lays out to the left. -/
def readLayout (values : Values) (template : Text) : Outcome (Layout × Values × Text) := do
  let (layout, template) := readFlags {} template
  let (n, values, template) ← readSize width values template
  let layout := { layout with left := layout.left || n < 0, width := n.natAbs }
  match template with
  | .char '.' :: rest =>
    let (n, values, template) ← readSize precision values rest
    return ({ layout with precision := some n.toNat }, values, template)
  | _ => return (layout, values, template)

namespace Layout

def blanks (n : Nat) : Text := List.replicate n (.char ' ')

def text (layout : Layout) (t : Text) : Text :=
  let t := layout.precision.elim t fun n => t.take n
  if layout.left then t ++ blanks (layout.width - t.length) else blanks (layout.width - t.length) ++ t

/-- A number with its sign; zeros that fill the width stand after the sign and the mark of the base. -/
def number (layout : Layout) (negative : Bool) (mark digits : Text) : Text :=
  let sign : Text := if negative then "-" else if layout.plus then "+" else if layout.blank then " " else ""
  let start := sign ++ mark
  let missing := layout.width - (start.length + digits.length)
  if layout.left then start ++ digits ++ blanks missing
  else if layout.zero then start ++ Binary64.zeros missing ++ digits
  else blanks missing ++ start ++ digits

def integer (layout : Layout) (n : Int) (mark digits : Text) : Text :=
  let digits := Binary64.zeros (layout.precision.getD 0 - digits.length) ++ digits
  layout.number (n < 0) (if layout.alternate then mark else []) digits

/-- A number with a fraction. Without a precision it has six digits. -/
def real (layout : Layout) (style : CodePoint) (x : Binary64) : Text :=
  let precision := layout.precision.getD 6
  match x with
  | .nan => layout.number false [] "nan"
  | .infinite negative => layout.number negative [] "inf"
  | .finite negative mantissa exponent =>
    let (n, d) := Binary64.scale mantissa 1 exponent
    let digits :=
      if style = .char 'f' then Binary64.fixedText layout.alternate precision n d
      else if style = .char 'e' then Binary64.scientificText layout.alternate precision n d
      else Binary64.generalText layout.alternate precision n d
    layout.number negative [] digits

end Layout

/-- Digits to a base of up to sixteen. -/
def digitsTo (base n : Nat) : Text := Text.ofString (String.ofList (Nat.toDigits base n))

def kindOf (value : Json) : Text := value.toDatum.kind

def isDecimal (style : CodePoint) : Bool := style = .char 'd' || style = .char 'i' || style = .char 'u'

def wholeNumber (style : CodePoint) (value : Json) : Outcome Int :=
  match value with
  | .int n => .ok n
  | .bool b => .ok (if b then 1 else 0)
  | .float x =>
    if !isDecimal style then
      wrongKind ("%" ++ [style] ++ " format: an integer is required, not float")
    else
      match x with
      | .nan => invalid "cannot convert float NaN to integer"
      | .infinite _ => .error (.fault .overflow "cannot convert float infinity to integer")
      | x => .ok ((x.truncate?.map Prod.fst).getD 0)
  | other =>
    let wanted : Text := if isDecimal style then "a real number" else "an integer"
    wrongKind ("%" ++ [style] ++ " format: " ++ wanted ++ " is required, not " ++ kindOf other)

def realNumber (value : Json) : Outcome Binary64 :=
  match value with
  | .int n => .ok (.ofInt n)
  | .bool b => .ok (.ofNat (if b then 1 else 0))
  | .float x => .ok x
  | other => wrongKind ("must be real number, not " ++ kindOf other)

def character (value : Json) : Outcome Text :=
  match value with
  | .text [p] => .ok [p]
  | .int n =>
    if 0 ≤ n ∧ n < 0x110000 then .ok [.ofNat n.toNat]
    else .error (.fault .overflow "%c arg not in range(0x110000)")
  | .bool b => .ok [.ofNat (if b then 1 else 0)]
  | _ => wrongKind "%c requires int or char"

/-- A text with code points beyond ASCII escaped. -/
def asciiOnly (t : Text) : Text :=
  t.flatMap fun p =>
    let n := p.toNat
    if p.isAscii then [p]
    else if n < 0x100 then "\\x" ++ hexDigits 2 n
    else if n < 0x10000 then "\\u" ++ hexDigits 4 n
    else "\\U" ++ hexDigits 8 n

/-- Lays out a value in the given style; `index` is where the style stands. -/
def layOut (layout : Layout) (style : CodePoint) (index : Nat) (value : Json) : Outcome Text := do
  let upper (t : Text) : Text := if style.isAsciiUpper then t.asciiUpper else t
  if style = .char 's' then return layout.text value.plain
  else if style = .char 'r' then return layout.text value.toDatum.quoted
  else if style = .char 'a' then return layout.text (asciiOnly value.toDatum.quoted)
  else if style = .char 'c' then return { layout with precision := none }.text (← character value)
  else if isDecimal style then
    let n ← wholeNumber style value
    return layout.integer n [] (Text.ofNat n.natAbs)
  else if style = .char 'o' then
    let n ← wholeNumber style value
    return layout.integer n "0o" (digitsTo 8 n.natAbs)
  else if style.asciiLower = .char 'x' then
    let n ← wholeNumber style value
    return upper (layout.integer n "0x" (digitsTo 16 n.natAbs))
  else if style.asciiLower = .char 'f' ∨ style.asciiLower = .char 'e' ∨ style.asciiLower = .char 'g' then
    return upper (layout.real style.asciiLower (← realNumber value))
  else
    let shown : CodePoint := if 31 ≤ style.toNat ∧ style.toNat ≤ 126 then style else .char '?'
    invalid ("unsupported format character '" ++ [shown] ++ "' (0x" ++ digitsTo 16 style.toNat ++ ") at index " ++
      Text.ofNat index)

def isLengthMark (p : CodePoint) : Bool := p = .char 'h' || p = .char 'l' || p = .char 'L'

/-- Fills one place of a template of the given length; the text is what follows the percent sign. -/
def fillPlace (length : Nat) (values : Values) (template : Text) : Outcome (Text × Values × Text) := do
  let (values, template) ← selectNamed values template
  let (layout, values, template) ← readLayout values template
  let template :=
    match template with
    | p :: rest => if isLengthMark p then rest else p :: rest
    | [] => []
  match template with
  | [] => invalid "incomplete format"
  | style :: rest =>
    let (value, values) ← values.next
    return (← layOut layout style (length - rest.length - 1) value, values, rest)

/-- Fills the places of a template. Every place takes up at least one code point, so that `fuel` code points
are enough. -/
def fillFrom (length : Nat) (values : Values) (template : Text) : Nat → Outcome Text
  | 0 => .ok []
  | fuel + 1 =>
    match template with
    | [] =>
      if values.rest.isEmpty || values.named.isSome then .ok []
      else wrongKind "not all arguments converted during string formatting"
    | .char '%' :: .char '%' :: rest => return .char '%' :: (← fillFrom length values rest fuel)
    | .char '%' :: rest => do
      let (shown, values, rest) ← fillPlace length values rest
      return shown ++ (← fillFrom length values rest fuel)
    | p :: rest => return p :: (← fillFrom length values rest fuel)

/-- The template with values in its places. Without any values it is no template. -/
def fill (template : Text) (values : List Json) : Outcome Text :=
  if values.isEmpty then .ok template
  else fillFrom template.length (.ofList values) template (template.length + 1)

end ProxyControl.Template
