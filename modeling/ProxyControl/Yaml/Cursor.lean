import ProxyControl.Yaml.Complaint

namespace ProxyControl.Yaml

/-- A place in a text with what follows it. -/
structure Cursor where
  rest : Text
  index : Nat
  line : Nat
  column : Nat
  deriving Repr

/-- The end of the text reads as this code point, which no document holds. -/
def endPoint : CodePoint := .ofNat 0

def isEnd (p : CodePoint) : Bool := p.toNat == 0

def isBreak (p : CodePoint) : Bool :=
  let n := p.toNat
  n == 0x0A || n == 0x0D || n == 0x85 || n == 0x2028 || n == 0x2029

def isBreakOrEnd (p : CodePoint) : Bool := isBreak p || isEnd p

def isSpace (p : CodePoint) : Bool := p.toNat == 0x20

def isSpaceOrTab (p : CodePoint) : Bool := p.toNat == 0x20 || p.toNat == 0x09

def isSpaceOrEnd (p : CodePoint) : Bool := isSpace p || isBreakOrEnd p

/-- What separates an indicator from its content. -/
def isBlankOrEnd (p : CodePoint) : Bool := isSpaceOrTab p || isBreakOrEnd p

/-- Code points of names of anchors, handles and directives. -/
def isWordPoint (p : CodePoint) : Bool := p.isAsciiAlphanumeric || p = .char '-' || p = .char '_'

namespace Cursor

def start (t : Text) : Cursor := ⟨t, 0, 0, 0⟩

def mark (c : Cursor) : Mark := ⟨c.line, c.column⟩

def peekAt (c : Cursor) (n : Nat) : CodePoint := c.rest.getD n endPoint

def peek (c : Cursor) : CodePoint := c.rest.headD endPoint

/-- The cursor after one code point. A carriage return before a line feed does not end the line yet, and a
byte order mark takes no column. -/
def next (c : Cursor) : Cursor :=
  match c.rest with
  | [] => c
  | p :: rest =>
    let endsLine := isBreak p && (p.toNat != 0x0D || rest.head? != some (.ofNat 0x0A))
    if endsLine then ⟨rest, c.index + 1, c.line + 1, 0⟩
    else ⟨rest, c.index + 1, c.line, if p.toNat = 0xFEFF then c.column else c.column + 1⟩

def advance (c : Cursor) : Nat → Cursor
  | 0 => c
  | n + 1 => c.next.advance n

/-- The longest run of accepted code points, and the cursor after it. -/
def takeWhile (accept : CodePoint → Bool) (c : Cursor) : Text × Cursor :=
  let run := c.rest.takeWhile accept
  (run, c.advance run.length)

def skipWhile (accept : CodePoint → Bool) (c : Cursor) : Cursor := (c.takeWhile accept).2

def skipSpaces (c : Cursor) : Cursor := c.skipWhile isSpace

/-- A comment up to the end of its line, if there is one. -/
def skipComment (c : Cursor) : Cursor :=
  if c.peek = .char '#' then c.skipWhile fun p => !isBreakOrEnd p else c

/-- A line break, and what stands for it in a scalar; nothing if there is none. -/
def lineBreak (c : Cursor) : Text × Cursor :=
  let p := c.peek
  let n := p.toNat
  if n = 0x0D ∧ c.peekAt 1 = .ofNat 0x0A then ([.ofNat 0x0A], c.advance 2)
  else if n = 0x0A ∨ n = 0x0D ∨ n = 0x85 then ([.ofNat 0x0A], c.next)
  else if n = 0x2028 ∨ n = 0x2029 then ([p], c.next)
  else ([], c)

/-- Whether a line begins here with the given three code points and nothing attached to them. -/
def startsWithMarker (marker : Text) (c : Cursor) : Bool := c.rest.take 3 == marker && isBlankOrEnd (c.peekAt 3)

/-- Whether a document starts or ends here. -/
def atDocumentMarker (c : Cursor) : Bool := c.startsWithMarker "---" || c.startsWithMarker "..."

end Cursor

/-- A step of reading that moves the cursor. -/
abbrev Scan := StateT Cursor (Except Complaint)

namespace Scan

def peek : Scan CodePoint := return (← get).peek

def mark : Scan Mark := return (← get).mark

def skip (n : Nat) : Scan Unit := modify fun c => c.advance n

def takeWhile (accept : CodePoint → Bool) : Scan Text := modifyGet fun c => c.takeWhile accept

def skipSpaces : Scan Unit := modify Cursor.skipSpaces

def lineBreak : Scan Text := modifyGet Cursor.lineBreak

/-- Refuses what stands here, while reading something that began at a mark. -/
def refuse {α : Type} (doing : Text) (since : Mark) (what : Problem) : Scan α := do
  throw (.during doing since what (← mark))

/-- Refuses the code point that stands here. -/
def unexpected {α : Type} (doing : Text) (since : Mark) (what : Text) : Scan α := do
  refuse doing since (.expected what (← peek))

/-- Passes the rest of a line that may hold a comment only. -/
def restOfLine (doing : Text) (since : Mark) : Scan Unit := do
  modify fun c => c.skipSpaces.skipComment
  if !isBreakOrEnd (← peek) then unexpected doing since "a comment or a line break"
  let _ ← lineBreak

end Scan

end ProxyControl.Yaml
