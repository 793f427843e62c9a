import ProxyControl.Yaml.Cursor

namespace ProxyControl.Yaml

namespace Scan

/-- The code points that end a plain scalar within a flow collection. -/
def isFlowIndicator (p : CodePoint) : Bool := (",?[]\x7b\x7d" : Text).contains p

/-- How much of a line belongs to a plain scalar. -/
def plainRun (inFlow : Bool) : Text → Nat
  | [] => 0
  | p :: rest =>
    let follow := rest.headD endPoint
    let isColon := p = .char ':' && (isBlankOrEnd follow || (inFlow && (",[]\x7b\x7d" : Text).contains follow))
    if isBlankOrEnd p || isColon || (inFlow && isFlowIndicator p) then 0 else plainRun inFlow rest + 1

/-- Blank lines and indentation between the lines of a plain scalar, with what the blank lines stand for.
A document marker ends the scalar; then nothing is kept. -/
def plainBreaks : Nat → Scan (Option Text)
  | 0 => return some []
  | fuel + 1 => do
    if (← get).atDocumentMarker then return none
    skipSpaces
    if !isBreak (← peek) then return some []
    let lineEnd ← lineBreak
    return (← plainBreaks fuel).map (lineEnd ++ ·)

/-- What lies between two runs of a plain scalar, and whether a line ended there. -/
def plainGap : Scan (Text × Bool) := do
  let spaces ← takeWhile isSpace
  if !isBreak (← peek) then return (spaces, false)
  let lineEnd ← lineBreak
  match ← plainBreaks ((← get).rest.length + 1) with
  | none => return ([], true)
  | some breaks =>
    let first : Text :=
      if lineEnd != [.ofNat 0x0A] then lineEnd else if breaks.isEmpty then [.char ' '] else []
    return (first ++ breaks, true)

/-- The runs of a plain scalar. `gap` lies before the next run, and `lineEnded` tells whether it held the
end of a line. -/
def plainRuns (indent : Int) (inFlow : Bool) (gap : Text) (lineEnded : Bool) : Nat → Scan (Text × Bool)
  | 0 => return ([], lineEnded)
  | fuel + 1 => do
    let c ← get
    let length := if c.peek = .char '#' then 0 else plainRun inFlow c.rest
    if length = 0 then return ([], lineEnded)
    skip length
    let run := gap ++ c.rest.take length
    let (gap, lineEnded) ← plainGap
    let c ← get
    if gap.isEmpty || c.peek = .char '#' || (!inFlow && (c.column : Int) < indent) then return (run, lineEnded)
    let (more, lineEnded) ← plainRuns indent inFlow gap lineEnded fuel
    return (run ++ more, lineEnded)

/-- A scalar without quotes, whose further lines are indented at least as given. Also tells whether a line
ended after its last run. -/
def plain (indent : Int) (inFlow : Bool) : Scan (Text × Bool) := do
  plainRuns indent inFlow [] false ((← get).rest.length + 1)

/-- What a backslash before a code point stands for. -/
def escaped? (p : CodePoint) : Option CodePoint :=
  let escapes : List (CodePoint × Nat) :=
    [(.char '0', 0x00), (.char 'a', 0x07), (.char 'b', 0x08), (.char 't', 0x09), (.ofNat 0x09, 0x09),
      (.char 'n', 0x0A), (.char 'v', 0x0B), (.char 'f', 0x0C), (.char 'r', 0x0D), (.char 'e', 0x1B),
      (.char ' ', 0x20), (.char '"', 0x22), (.char '\\', 0x5C), (.char '/', 0x2F), (.char 'N', 0x85),
      (.char '_', 0xA0), (.char 'L', 0x2028), (.char 'P', 0x2029)]
  (escapes.lookup p).map CodePoint.ofNat

def escapeWidth? (p : CodePoint) : Option Nat :=
  if p = .char 'x' then some 2 else if p = .char 'u' then some 4 else if p = .char 'U' then some 8 else none

/-- The code point of an escape with the given number of digits. -/
def numberedEscape (start : Mark) (width : Nat) : Scan CodePoint := do
  let digits := (← get).rest.take width
  match digits.mapM CodePoint.hexValue? with
  | some values =>
    if values.length < width then
      refuse "while scanning a double-quoted scalar" start (.expected (wanted width) endPoint)
    let n := values.foldl (fun n digit => n * 16 + digit) 0
    if beyond : 0x10FFFF < n then throw (.escape n beyond)
    skip width
    return .ofNat n
  | none =>
    let found := (digits.find? fun p => p.hexValue?.isNone).getD endPoint
    refuse "while scanning a double-quoted scalar" start (.expected (wanted width) found)
where
  wanted (width : Nat) : Text := "escape sequence of " ++ Text.ofNat width ++ " hexadecimal numbers"

/-- Blank lines within a quoted scalar. A document marker must not stand there. -/
def quotedBreaks (start : Mark) : Nat → Scan Text
  | 0 => return []
  | fuel + 1 => do
    if (← get).atDocumentMarker then refuse "while scanning a quoted scalar" start .documentInside
    let _ ← takeWhile isSpaceOrTab
    if !isBreak (← peek) then return []
    let lineEnd ← lineBreak
    return lineEnd ++ (← quotedBreaks start fuel)

/-- What an escape stands for; the end of a line and the indentation of the next stand for nothing. -/
def escape (start : Mark) : Scan Text := do
  skip 1
  let p ← peek
  match escaped? p, escapeWidth? p with
  | some q, _ =>
    skip 1
    return [q]
  | none, some width =>
    skip 1
    return [← numberedEscape start width]
  | none, none =>
    if !isBreak p then refuse "while scanning a double-quoted scalar" start (.unknownEscape p)
    let _ ← lineBreak
    quotedBreaks start ((← get).rest.length + 1)

def isQuotedSpecial (p : CodePoint) : Bool := p = .char '\'' || p = .char '"' || p = .char '\\' || isBlankOrEnd p

/-- The part of a quoted scalar before the next blank or the closing quote. -/
def quotedWord (isDouble : Bool) (start : Mark) : Nat → Scan Text
  | 0 => return []
  | fuel + 1 => do
    let run ← takeWhile fun p => !isQuotedSpecial p
    let p ← peek
    if !isDouble && p = .char '\'' && (← get).peekAt 1 = .char '\'' then
      skip 2
      return run ++ [.char '\''] ++ (← quotedWord isDouble start fuel)
    else if (isDouble && p = .char '\'') || (!isDouble && (p = .char '"' || p = .char '\\')) then
      skip 1
      return run ++ [p] ++ (← quotedWord isDouble start fuel)
    else if isDouble && p = .char '\\' then
      let meaning ← escape start
      return run ++ meaning ++ (← quotedWord isDouble start fuel)
    else return run

/-- The blanks within a quoted scalar. -/
def quotedGap (start : Mark) : Scan Text := do
  let blanks ← takeWhile isSpaceOrTab
  let p ← peek
  if isEnd p then refuse "while scanning a quoted scalar" start .endInside
  if !isBreak p then return blanks
  let lineEnd ← lineBreak
  let breaks ← quotedBreaks start ((← get).rest.length + 1)
  let first : Text := if lineEnd != [.ofNat 0x0A] then lineEnd else if breaks.isEmpty then [.char ' '] else []
  return first ++ breaks

def quotedParts (quote : CodePoint) (start : Mark) : Nat → Scan Text
  | 0 => return []
  | fuel + 1 => do
    if (← peek) = quote then return []
    let gap ← quotedGap start
    let word ← quotedWord (quote = .char '"') start ((← get).rest.length + 1)
    return gap ++ word ++ (← quotedParts quote start fuel)

/-- A scalar between quotes. -/
def quoted : Scan Text := do
  let start ← mark
  let quote ← peek
  skip 1
  let word ← quotedWord (quote = .char '"') start ((← get).rest.length + 1)
  let parts ← quotedParts quote start ((← get).rest.length + 1)
  skip 1
  return word ++ parts

/-- What happens to the line breaks at the end of a block scalar. -/
inductive Chomping where
  | clip
  | strip
  | keep
  deriving DecidableEq, Repr

def chomping? (p : CodePoint) : Option Chomping :=
  if p = .char '+' then some .keep else if p = .char '-' then some .strip else none

def blockDoing : Text := "while scanning a block scalar"

def indentationDigit (start : Mark) : Scan (Option Nat) := do
  let p ← peek
  if !p.isAsciiDigit then return none
  if p.digitValue = 0 then refuse blockDoing start .indentationZero
  skip 1
  return some p.digitValue

def chompingMark : Scan (Option Chomping) := do
  let found := chomping? (← peek)
  if found.isSome then skip 1
  return found

/-- The indicators of a block scalar, in either order. -/
def blockHeader (start : Mark) : Scan (Chomping × Option Nat) := do
  let before ← chompingMark
  let increment ← indentationDigit start
  let after ← if before.isNone && increment.isSome then chompingMark else pure none
  if !isSpaceOrEnd (← peek) then unexpected blockDoing start "chomping or indentation indicators"
  return ((before <|> after).getD .clip, increment)

/-- The blank lines before a block scalar whose indentation is not given, and the deepest column there. -/
def blockIndentation (deepest : Nat) : Nat → Scan (Text × Nat)
  | 0 => return ([], deepest)
  | fuel + 1 => do
    skipSpaces
    let deepest := max deepest (← get).column
    if !isBreak (← peek) then return ([], deepest)
    let lineEnd ← lineBreak
    let (more, deepest) ← blockIndentation deepest fuel
    return (lineEnd ++ more, deepest)

def skipIndentation (indent : Nat) : Scan Unit := do
  let c ← get
  let spaces := (c.rest.takeWhile isSpace).length
  skip (min spaces (indent - c.column))

/-- The blank lines within a block scalar. -/
def blockBreaks (indent : Nat) : Nat → Scan Text
  | 0 => return []
  | fuel + 1 => do
    skipIndentation indent
    if !isBreak (← peek) then return []
    let lineEnd ← lineBreak
    return lineEnd ++ (← blockBreaks indent fuel)

/-- The lines of a block scalar, with the last line break and the blank lines after it. `breaks` are the
blank lines before the next line. -/
def blockLines (indent : Nat) (isFolded : Bool) (lineEnd breaks : Text) : Nat → Scan (Text × Text × Text)
  | 0 => return ([], lineEnd, breaks)
  | fuel + 1 => do
    let c ← get
    if c.column != indent || isEnd c.peek then return ([], lineEnd, breaks)
    let line ← takeWhile fun p => !isBreakOrEnd p
    let lineEnd ← lineBreak
    let after ← blockBreaks indent ((← get).rest.length + 1)
    let d ← get
    if d.column != indent || isEnd d.peek then return (breaks ++ line, lineEnd, after)
    let folds := isFolded && lineEnd == [.ofNat 0x0A] && !isSpaceOrTab c.peek && !isSpaceOrTab d.peek
    let joint : Text := if !folds then lineEnd else if after.isEmpty then [.char ' '] else []
    let (more, lineEnd, after) ← blockLines indent isFolded lineEnd after fuel
    return (breaks ++ line ++ joint ++ more, lineEnd, after)

/-- A literal or folded scalar below a node with the given indentation. -/
def block (outer : Int) (isFolded : Bool) : Scan Text := do
  let start ← mark
  skip 1
  let (chomping, increment) ← blockHeader start
  restOfLine blockDoing start
  let least := max 1 (outer + 1).toNat
  let fuel := (← get).rest.length + 1
  let (indent, breaks) ← match increment with
    | none => do
      let (breaks, deepest) ← blockIndentation 0 fuel
      pure (max least deepest, breaks)
    | some n => do
      let indent := least + n - 1
      pure (indent, ← blockBreaks indent fuel)
  let (lines, lineEnd, after) ← blockLines indent isFolded [] breaks fuel
  match chomping with
  | .strip => return lines
  | .clip => return lines ++ lineEnd
  | .keep => return lines ++ lineEnd ++ after

end Scan

end ProxyControl.Yaml
