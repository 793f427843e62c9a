namespace ProxyControl

/-- One code point of a text. A JSON escape may name a surrogate that stands alone; such a text can be
held and quoted although no encoding of it exists, so surrogates have a constructor of their own. -/
inductive CodePoint where
  | char (c : Char)
  | surrogate (unit : Fin 0x800)
  deriving DecidableEq, Repr, Inhabited

/-- A text is the list of its code points, so that positions count code points. -/
abbrev Text := List CodePoint

namespace CodePoint

instance : Coe Char CodePoint := ⟨char⟩

def toNat : CodePoint → Nat
  | char c => c.toNat
  | surrogate unit => 0xD800 + unit

/-- The code point of a number; numbers beyond the code space become the replacement character. -/
def ofNat (n : Nat) : CodePoint :=
  if valid : n.isValidChar then char (Char.ofNatAux n valid)
  else if lone : 0xD800 ≤ n ∧ n < 0xE000 then surrogate ⟨n - 0xD800, by omega⟩
  else char '\uFFFD'

def isAscii (p : CodePoint) : Bool := p.toNat < 0x80

def isAsciiDigit (p : CodePoint) : Bool := 0x30 ≤ p.toNat && p.toNat ≤ 0x39

def isAsciiUpper (p : CodePoint) : Bool := 0x41 ≤ p.toNat && p.toNat ≤ 0x5A

def isAsciiLower (p : CodePoint) : Bool := 0x61 ≤ p.toNat && p.toNat ≤ 0x7A

def isAsciiLetter (p : CodePoint) : Bool := p.isAsciiUpper || p.isAsciiLower

def isAsciiAlphanumeric (p : CodePoint) : Bool := p.isAsciiLetter || p.isAsciiDigit

/-- The value of an ASCII digit; meaningless for anything else. -/
def digitValue (p : CodePoint) : Nat := p.toNat - 0x30

/-- The value of a hexadecimal digit. -/
def hexValue? (p : CodePoint) : Option Nat :=
  let n := p.toNat
  if 0x30 ≤ n ∧ n ≤ 0x39 then some (n - 0x30)
  else if 0x41 ≤ n ∧ n ≤ 0x46 then some (n - 0x41 + 10)
  else if 0x61 ≤ n ∧ n ≤ 0x66 then some (n - 0x61 + 10)
  else none

def asciiLower (p : CodePoint) : CodePoint :=
  if p.isAsciiUpper then ofNat (p.toNat + 0x20) else p

def asciiUpper (p : CodePoint) : CodePoint :=
  if p.isAsciiLower then ofNat (p.toNat - 0x20) else p

end CodePoint

namespace Text

def ofString (s : String) : Text := s.toList.map .char

instance : Coe String Text := ⟨ofString⟩

/-- The text as a string, with every lone surrogate replaced. -/
def toString (t : Text) : String :=
  String.ofList (t.map fun
    | .char c => c
    | .surrogate _ => '\uFFFD')

def ofNat (n : Nat) : Text := ofString (Nat.repr n)

def ofInt : Int → Text
  | .ofNat n => ofNat n
  | .negSucc n => .char '-' :: ofNat (n + 1)

def join (separator : Text) (parts : List Text) : Text := List.intercalate separator parts

/-- The pieces between occurrences of a separator; always at least one. -/
def splitOn (separator : CodePoint) : Text → List Text
  | [] => [[]]
  | p :: rest =>
    if p = separator then [] :: splitOn separator rest
    else
      match splitOn separator rest with
      | [] => [[p]]
      | first :: others => (p :: first) :: others

/-- The text before the first occurrence of a separator and the text after it. -/
def cut? (separator : CodePoint) : Text → Option (Text × Text)
  | [] => none
  | p :: rest =>
    if p = separator then some ([], rest)
    else (cut? separator rest).map fun (before, after) => (p :: before, after)

/-- Whether a text occurs inside another. -/
def occursIn (needle : Text) : Text → Bool
  | [] => needle.isEmpty
  | p :: rest => needle.isPrefixOf (p :: rest) || occursIn needle rest

/-- Replaces every occurrence of a non-empty text, scanning from the left. `skip` counts the code
points of the occurrence just replaced that are still to be dropped. -/
def replaceAll (old new : Text) (skip : Nat) : Text → Text
  | [] => []
  | p :: rest =>
    match skip with
    | skip + 1 => replaceAll old new skip rest
    | 0 =>
      if old.isPrefixOf (p :: rest) then new ++ replaceAll old new (old.length - 1) rest
      else p :: replaceAll old new 0 rest

def replace (old new t : Text) : Text := replaceAll old new 0 t

def dropWhileEnd (drop : CodePoint → Bool) (t : Text) : Text := (t.reverse.dropWhile drop).reverse

def trimBy (drop : CodePoint → Bool) (t : Text) : Text := dropWhileEnd drop (t.dropWhile drop)

/-- The maximal runs of code points that are not separators. -/
def runs (isSeparator : CodePoint → Bool) : Text → List Text
  | [] => []
  | p :: rest =>
    if isSeparator p then runs isSeparator rest
    else
      match rest, runs isSeparator rest with
      | [], _ => [[p]]
      | next :: _, others =>
        if isSeparator next then [p] :: others
        else
          match others with
          | [] => [[p]]
          | run :: more => (p :: run) :: more

def padRight (width : Nat) (t : Text) : Text := t ++ List.replicate (width - t.length) (.char ' ')

/-- A text that is there and not empty. -/
def present (t : Option Text) : Option Text := t.filter fun t => !t.isEmpty

def asciiLower (t : Text) : Text := t.map CodePoint.asciiLower

def asciiUpper (t : Text) : Text := t.map CodePoint.asciiUpper

/-- A text that is a non-empty run of ASCII digits, read as a number. -/
def toNat? (t : Text) : Option Nat :=
  if t.isEmpty || !t.all CodePoint.isAsciiDigit then none
  else some (t.foldl (fun n p => n * 10 + p.digitValue) 0)

/-- Lexicographic order by code point. -/
def le : Text → Text → Bool
  | [], _ => true
  | _ :: _, [] => false
  | p :: t, q :: u => p.toNat < q.toNat || (p.toNat == q.toNat && le t u)

end Text

end ProxyControl
