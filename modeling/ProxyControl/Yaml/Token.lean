import ProxyControl.Yaml.Property
import ProxyControl.Yaml.Scalar

namespace ProxyControl.Yaml

/-- The smallest parts of a document. Indentation shows as tokens that open and close block collections. -/
inductive TokenKind where
  | streamEnd
  | directive (content : Directive)
  | documentStart
  | documentEnd
  | blockSequenceStart
  | blockMappingStart
  | blockEnd
  | flowSequenceStart
  | flowSequenceEnd
  | flowMappingStart
  | flowMappingEnd
  | flowEntry
  | blockEntry
  | key
  | value
  | aliasOf (name : Text)
  | anchor (name : Text)
  | tag (name : TagName)
  | scalar (content : Text) (isPlain : Bool)
  deriving Repr

/-- The name of a token in messages. -/
def TokenKind.name : TokenKind → Text
  | streamEnd => "<stream end>"
  | directive _ => "<directive>"
  | documentStart => "<document start>"
  | documentEnd => "<document end>"
  | blockSequenceStart => "<block sequence start>"
  | blockMappingStart => "<block mapping start>"
  | blockEnd => "<block end>"
  | flowSequenceStart => "["
  | flowSequenceEnd => "]"
  | flowMappingStart => "\x7b"
  | flowMappingEnd => "\x7d"
  | flowEntry => ","
  | blockEntry => "-"
  | key => "?"
  | value => ":"
  | aliasOf _ => "<alias>"
  | anchor _ => "<anchor>"
  | tag _ => "<tag>"
  | scalar _ _ => "<scalar>"

structure Token where
  kind : TokenKind
  start : Mark
  finish : Mark
  deriving Repr

/-- A token that may turn out to be a mapping key once a colon follows on its line. A required one has to. -/
structure KeyCandidate where
  flowLevel : Int
  token : Nat
  isRequired : Bool
  index : Nat
  mark : Mark
  deriving Repr

/-- How far a document has been cut into tokens: the tokens so far, the last one first, the columns of the
open block collections, and the key candidates, at most one for each flow level. `settled` counts the tokens
before which no key can be inserted any more. -/
structure Layout where
  cursor : Cursor
  flowLevel : Int := 0
  tokens : List Token := []
  settled : Nat := 0
  indent : Int := -1
  outerIndents : List Int := []
  keyAllowed : Bool := true
  candidates : List KeyCandidate := []
  isDone : Bool := false

namespace Layout

/-- A key and its colon are at most this many code points apart. -/
def keyDistance : Nat := 1024

def peek (s : Layout) : CodePoint := s.cursor.peek

def mark (s : Layout) : Mark := s.cursor.mark

def column (s : Layout) : Int := s.cursor.column

def isFlow (s : Layout) : Bool := s.flowLevel != 0

def push (s : Layout) (kind : TokenKind) (start finish : Mark) : Layout :=
  { s with tokens := ⟨kind, start, finish⟩ :: s.tokens }

/-- A token that takes no room. -/
def pushHere (s : Layout) (kind : TokenKind) : Layout := s.push kind s.mark s.mark

/-- A token that takes the given number of code points. -/
def pushIndicator (s : Layout) (kind : TokenKind) (width : Nat) : Layout :=
  let start := s.mark
  let s := { s with cursor := s.cursor.advance width }
  s.push kind start s.mark

/-- Inserts a token before the token of the given number. -/
def insertAt (s : Layout) (number : Nat) (kind : TokenKind) (mark : Mark) : Layout :=
  let later := s.tokens.length - number
  { s with tokens := s.tokens.take later ++ ⟨kind, mark, mark⟩ :: s.tokens.drop later }

def noColon {α : Type} (s : Layout) (candidate : KeyCandidate) : Except Complaint α :=
  .error (.during "while scanning a simple key" candidate.mark .noColon s.mark)

def isStale (s : Layout) (candidate : KeyCandidate) : Bool :=
  candidate.mark.line != s.cursor.line || s.cursor.index - candidate.index > keyDistance

/-- Drops the candidates that no colon can follow any more. -/
def dropStale (s : Layout) : Except Complaint Layout :=
  match s.candidates.find? fun candidate => s.isStale candidate && candidate.isRequired with
  | some candidate => s.noColon candidate
  | none => .ok { s with candidates := s.candidates.filter fun candidate => !s.isStale candidate }

/-- Drops the candidate of the current flow level. -/
def dropCandidate (s : Layout) : Except Complaint Layout :=
  match s.candidates.find? fun candidate => candidate.flowLevel == s.flowLevel && candidate.isRequired with
  | some candidate => s.noColon candidate
  | none => .ok { s with candidates := s.candidates.filter fun candidate => candidate.flowLevel != s.flowLevel }

/-- Makes the next token a key candidate. -/
def offerKey (s : Layout) : Except Complaint Layout :=
  if !s.keyAllowed then .ok s
  else do
    let candidate : KeyCandidate :=
      ⟨s.flowLevel, s.tokens.length, !s.isFlow && s.indent == s.column, s.cursor.index, s.mark⟩
    let s ← s.dropCandidate
    return { s with candidates := s.candidates ++ [candidate] }

/-- Closes the block collections that are deeper than a column. -/
def closeBlocks (column : Int) (s : Layout) : List Int → Layout
  | [] => s
  | outer :: rest =>
    if s.indent > column then
      closeBlocks column { s.pushHere .blockEnd with indent := outer, outerIndents := rest } rest
    else s

def unwind (s : Layout) (column : Int) : Layout := if s.isFlow then s else closeBlocks column s s.outerIndents

/-- Opens a block collection at a column, if that is deeper than the current one. -/
def indentTo (s : Layout) (column : Int) : Option Layout :=
  if s.indent < column then some { s with outerIndents := s.indent :: s.outerIndents, indent := column } else none

/-- Passes blanks, comments and line breaks. -/
def skipToToken (s : Layout) : Nat → Layout
  | 0 => s
  | fuel + 1 =>
    let c := s.cursor.skipSpaces.skipComment
    if isBreak c.peek then
      skipToToken { s with cursor := c.lineBreak.2, keyAllowed := s.keyAllowed || !s.isFlow } fuel
    else { s with cursor := c }

/-- Reads a token with its own rules. -/
def scan {α : Type} (s : Layout) (read : Scan α) : Except Complaint (α × Layout) := do
  let (result, cursor) ← read.run s.cursor
  return (result, { s with cursor })

def streamEnd (s : Layout) : Except Complaint Layout := do
  let s ← (s.unwind (-1)).dropCandidate
  return { s.pushHere .streamEnd with keyAllowed := false, candidates := [], isDone := true }

def directive (s : Layout) : Except Complaint Layout := do
  let s ← (s.unwind (-1)).dropCandidate
  let start := s.mark
  let (content, s) ← s.scan Scan.directive
  return { s.push (.directive content) start s.mark with keyAllowed := false }

def documentMarker (s : Layout) (kind : TokenKind) : Except Complaint Layout := do
  let s ← (s.unwind (-1)).dropCandidate
  return { s.pushIndicator kind 3 with keyAllowed := false }

def flowStart (s : Layout) (kind : TokenKind) : Except Complaint Layout := do
  let s ← s.offerKey
  return { s with flowLevel := s.flowLevel + 1, keyAllowed := true }.pushIndicator kind 1

def flowEnd (s : Layout) (kind : TokenKind) : Except Complaint Layout := do
  let s ← s.dropCandidate
  return { s with flowLevel := s.flowLevel - 1, keyAllowed := false }.pushIndicator kind 1

def flowEntry (s : Layout) : Except Complaint Layout := do
  let s ← { s with keyAllowed := true }.dropCandidate
  return s.pushIndicator .flowEntry 1

/-- Opens a block collection at an indicator, which must stand where a key may. -/
def openBlock (s : Layout) (what : Text) (kind : TokenKind) : Except Complaint Layout :=
  if s.isFlow then .ok s
  else if !s.keyAllowed then .error (.plain (.notAllowed what) s.mark)
  else
    match s.indentTo s.column with
    | some s => .ok (s.pushHere kind)
    | none => .ok s

def blockEntry (s : Layout) : Except Complaint Layout := do
  let s ← s.openBlock "sequence entries" .blockSequenceStart
  let s ← { s with keyAllowed := true }.dropCandidate
  return s.pushIndicator .blockEntry 1

def explicitKey (s : Layout) : Except Complaint Layout := do
  let s ← s.openBlock "mapping keys" .blockMappingStart
  let s ← { s with keyAllowed := !s.isFlow }.dropCandidate
  return s.pushIndicator .key 1

/-- A colon. The candidate of its flow level becomes a key, and may open a block mapping. -/
def value (s : Layout) : Except Complaint Layout :=
  match s.candidates.find? fun candidate => candidate.flowLevel == s.flowLevel with
  | some candidate =>
    let others := s.candidates.filter fun candidate => candidate.flowLevel != s.flowLevel
    let s := { s with candidates := others, keyAllowed := false }.insertAt candidate.token .key candidate.mark
    let s :=
      if s.isFlow then s
      else
        match s.indentTo candidate.mark.column with
        | some s => s.insertAt candidate.token .blockMappingStart candidate.mark
        | none => s
    .ok (s.pushIndicator .value 1)
  | none => do
    let s ← s.openBlock "mapping values" .blockMappingStart
    let s ← { s with keyAllowed := !s.isFlow }.dropCandidate
    return s.pushIndicator .value 1

/-- A token of its own that may be a key, or belong to one. -/
def candidateToken (s : Layout) (read : Scan TokenKind) : Except Complaint Layout := do
  let s ← s.offerKey
  let start := s.mark
  let (kind, s) ← s.scan read
  return { s.push kind start s.mark with keyAllowed := false }

def plainScalar (s : Layout) : Except Complaint Layout := do
  let s ← s.offerKey
  let start := s.mark
  let ((content, lineEnded), s) ← s.scan (Scan.plain (s.indent + 1) s.isFlow)
  return { s.push (.scalar content true) start s.mark with keyAllowed := lineEnded }

def blockScalar (s : Layout) (isFolded : Bool) : Except Complaint Layout := do
  let s ← { s with keyAllowed := true }.dropCandidate
  let start := s.mark
  let (content, s) ← s.scan (Scan.block s.indent isFolded)
  return s.push (.scalar content false) start s.mark

/-- Indicators that no plain scalar begins with, unless something follows the first three. -/
def isIndicator (p : CodePoint) : Bool :=
  ("-?:,[]\x7b\x7d#&*!|>'\"%@" : Text).contains p || p.toNat == 0x60

def startsPlain (s : Layout) : Bool :=
  let p := s.peek
  (!isBlankOrEnd p && !isIndicator p) ||
    (!isBlankOrEnd (s.cursor.peekAt 1) &&
      (p = .char '-' || (!s.isFlow && (p = .char '?' || p = .char ':'))))

/-- Reads the token that begins at the cursor. -/
def token (s : Layout) : Except Complaint Layout :=
  let p := s.peek
  let isDetached := isBlankOrEnd (s.cursor.peekAt 1)
  let atLineStart := s.cursor.column = 0
  if isEnd p then s.streamEnd
  else if p = .char '%' ∧ atLineStart then s.directive
  else if atLineStart ∧ s.cursor.startsWithMarker "---" then s.documentMarker .documentStart
  else if atLineStart ∧ s.cursor.startsWithMarker "..." then s.documentMarker .documentEnd
  else if p = .char '[' then s.flowStart .flowSequenceStart
  else if p = .char '\x7b' then s.flowStart .flowMappingStart
  else if p = .char ']' then s.flowEnd .flowSequenceEnd
  else if p = .char '\x7d' then s.flowEnd .flowMappingEnd
  else if p = .char ',' then s.flowEntry
  else if p = .char '-' ∧ isDetached then s.blockEntry
  else if p = .char '?' ∧ (s.isFlow ∨ isDetached) then s.explicitKey
  else if p = .char ':' ∧ (s.isFlow ∨ isDetached) then s.value
  else if p = .char '*' then s.candidateToken (return .aliasOf (← Scan.anchorName true))
  else if p = .char '&' then s.candidateToken (return .anchor (← Scan.anchorName false))
  else if p = .char '!' then s.candidateToken (return .tag (← Scan.tag))
  else if p = .char '|' ∧ !s.isFlow then s.blockScalar false
  else if p = .char '>' ∧ !s.isFlow then s.blockScalar true
  else if p = .char '\'' ∨ p = .char '"' then s.candidateToken (return .scalar (← Scan.quoted) false)
  else if s.startsPlain then s.plainScalar
  else .error (.located ⟨some ⟨"while scanning for the next token", none⟩, .noToken p, s.mark⟩)

/-- Reads the next token with what lies before it. -/
def next (s : Layout) : Except Complaint Layout := do
  let c := s.cursor
  let s := if c.index = 0 ∧ c.peek = .ofNat 0xFEFF then { s with cursor := c.next } else s
  let s ← (s.skipToToken (s.cursor.rest.length + 1)).dropStale
  (s.unwind s.column).token

/-- Settles the tokens before the first key candidate. -/
def settle (s : Layout) : Except Complaint Layout :=
  if s.isDone then .ok { s with settled := s.tokens.length }
  else do
    let s ← s.dropStale
    return { s with settled := s.candidates.foldl (fun n candidate => min n candidate.token) s.tokens.length }

/-- The settled tokens, and the complaint that ended the reading. -/
def run (s : Layout) : Nat → List Token × Option Complaint
  | 0 => (s.tokens.reverse, none)
  | fuel + 1 =>
    match s.next >>= settle with
    | .error complaint => (s.tokens.reverse.take s.settled, some complaint)
    | .ok s => if s.isDone then (s.tokens.reverse, none) else run s fuel

end Layout

/-- Code points that a document may hold. -/
def isAcceptable (p : CodePoint) : Bool :=
  let n := p.toNat
  n == 0x09 || n == 0x0A || n == 0x0D || (0x20 ≤ n && n ≤ 0x7E) || n == 0x85 || (0xA0 ≤ n && n ≤ 0xD7FF) ||
    (0xE000 ≤ n && n ≤ 0xFFFD) || 0x10000 ≤ n

/-- The tokens of a text up to the first complaint. A token counts only once no key can come before it any
more. -/
def tokensOf (t : Text) : List Token × Option Complaint :=
  match t.find? fun p => !isAcceptable p with
  | some p => ([], some (.unacceptable p (t.takeWhile isAcceptable).length))
  | none => Layout.run { cursor := .start t } (t.length + 2)

end ProxyControl.Yaml
