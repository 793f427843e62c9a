import ProxyControl.Number.Rounding
import ProxyControl.Terminal
import ProxyControl.Unicode.Digits

namespace ProxyControl.Table

open Terminal

/-- Code points after which measuring starts a new line. -/
def breaksLine (p : CodePoint) : Bool :=
  let n := p.toNat
  n == 0x0A || (0x1C ≤ n && n ≤ 0x1E) || n == 0x85 || n == 0x2028 || n == 0x2029

/-- Lines as measuring sees them. -/
def measuredLines : Text → List Text
  | [] => []
  | p :: rest =>
    if breaksLine p then [] :: measuredLines rest
    else
      match rest, measuredLines rest with
      | [], _ => [[p]]
      | next :: _, lines =>
        if breaksLine next then
          match lines with
          | _ :: others => [p] :: others
          | [] => [[p]]
        else
          match lines with
          | line :: others => (p :: line) :: others
          | [] => [[p]]

/-- The cells a content asks for: those of its longest line. -/
def naturalWidth (t : Text) : Nat := ((measuredLines t).map Text.cellLength).foldl max 0

/-- The longest beginning of a line within a number of cells, filled up with spaces. -/
def crop (cells : Nat) (line : Text) : Text :=
  let kept : Text := (((List.range (line.length + 1)).reverse.find? fun n => Text.cellLength (line.take n) ≤ cells).map
    line.take).getD []
  kept ++ spaces (cells - kept.cellLength)

/-- Cuts a line that is too long, with an ellipsis in its last cell. -/
def truncate (width : Nat) (line : Text) : Text :=
  if line.cellLength > width then crop (width - 1) line ++ "…" else line

/-- Removes trailing white space, but not below `width` code points. -/
def trimBeyond (width : Nat) (line : Text) : Text :=
  let trailing := (line.reverse.takeWhile Unicode.isSpace).length
  line.take (line.length - min trailing (line.length - width))

/-- Splits before every word but the first; `word` holds the word being read, backwards. -/
def splitWords (word : Text) : Text → List Text
  | [] => if word.isEmpty then [] else [word.reverse]
  | p :: rest =>
    if !Unicode.isSpace p && word.head?.any Unicode.isSpace then word.reverse :: splitWords [p] rest
    else splitWords (p :: word) rest

/-- The words of a line with the white space around them: each word keeps what follows it, the first one
also what precedes it. -/
def words (line : Text) : List Text :=
  let blank := line.takeWhile Unicode.isSpace
  match splitWords [] (line.drop blank.length) with
  | [] => []
  | first :: others => (blank ++ first) :: others

/-- Breaks words into lines of at most `width` cells. `line` is the one being filled and `used` its cells. -/
def fill (width : Nat) (line : Text) (used : Nat) : List Text → List Text
  | [] => [line]
  | word :: rest =>
    let length := (Text.dropWhileEnd Unicode.isSpace word).cellLength
    if used + length ≤ width then fill width (line ++ word) (used + word.cellLength) rest
    else if length > width then
      if line.isEmpty then fill width word word.cellLength rest
      else line :: fill width word word.cellLength rest
    else if used != 0 && !line.isEmpty then line :: fill width word word.cellLength rest
    else fill width (line ++ word) used rest

/-- A column: its heading, and whether its cells may be broken into several lines. -/
structure Column where
  heading : Text
  wraps : Bool
  deriving Repr

/-- The lines of a content, without tabs and cut where the column says so. -/
def contentLines (wraps : Bool) (width : Nat) (t : Text) : List Text :=
  (Text.splitOn (.char '\n') t).flatMap fun line =>
    let line := if line.contains (.char '\t') then withoutTabs line else line
    let lines := if wraps then fill width [] 0 (words line) else [line]
    lines.map (trimBeyond width)

def padTo (width : Nat) (line : Text) : Text := line ++ spaces (width - line.cellLength)

def leftLine (width : Nat) (line : Text) : Text := padTo width (truncate width line)

def centredLine (width : Nat) (line : Text) : Text :=
  let line := truncate width (Text.dropWhileEnd Unicode.isSpace line)
  padTo width (spaces ((width - line.cellLength) / 2) ++ line)

/-- Cells of a row brought to the same height, added to at the bottom or at the top. -/
def align (bottom : Bool) (height width : Nat) (lines : List Text) : List Text :=
  let missing := List.replicate (height - lines.length) (spaces width)
  if bottom then missing ++ lines else lines ++ missing

/-- The lines of a row; every cell has one space on both sides. -/
def rowLines (isHead : Bool) (columns : List (Column × Nat)) (cells : List Text) : List Text :=
  let rendered := (columns.zip cells).map fun ((column, width), cell) =>
    let inner := width - 2
    let lines := contentLines column.wraps inner cell
    let lines := lines.map (if isHead then centredLine inner else leftLine inner)
    (width, lines.map fun line => .char ' ' :: crop inner line ++ [.char ' '])
  let height := (rendered.map fun (_, lines) => lines.length).foldl max 1
  let aligned := rendered.map fun (width, lines) => align isHead height width lines
  (List.range height).map fun i =>
    "|" ++ Text.join "|" (aligned.map fun lines => lines.getD i []) ++ "|"

/-- Takes `excess` cells away from the chosen columns, about the same from each and at most `limit`. -/
def reduceFrom (excess chosen limit : Nat) : List (Nat × Bool) → List Nat
  | [] => []
  | (width, isChosen) :: rest =>
    if isChosen ∧ chosen > 0 then
      let taken := min (min limit width) (roundHalfEven excess chosen)
      (width - taken) :: reduceFrom (excess - taken) (chosen - 1) limit rest
    else width :: reduceFrom excess chosen limit rest

def total (widths : List Nat) : Nat := widths.foldl (· + ·) 0

/-- Narrows the widest columns that may be broken, down to the next widest, until the table fits. -/
def collapse (available : Nat) (wraps : List Bool) (widths : List Nat) : Nat → List Nat
  | 0 => widths
  | fuel + 1 =>
    let taken := total widths
    if taken ≤ available ∨ !wraps.any id then widths
    else
      let flexible := ((widths.zip wraps).filter Prod.snd).map Prod.fst
      let widest := flexible.foldl max 0
      let second := (flexible.filter (· != widest)).foldl max 0
      let chosen := (widths.zip wraps).map fun (width, wraps) => (width, wraps && width == widest)
      let excess := taken - available
      let count := (chosen.filter Prod.snd).length
      if widest = second then widths
      else collapse available wraps (reduceFrom excess count (min excess (widest - second)) chosen) fuel

/-- The widths of the columns, padding included, so that the table takes at most `available` cells. -/
def fit (available : Nat) (columns : List (Column × Nat)) : List Nat :=
  let natural := columns.map fun (_, width) => min width available
  if total natural ≤ available then natural
  else
    let collapsed := collapse available (columns.map fun (column, _) => column.wraps) natural (available + 1)
    let excess := total collapsed - available
    let widths :=
      if excess = 0 then collapsed
      else reduceFrom excess collapsed.length (total collapsed) (collapsed.map fun width => (width, width != 0))
    (widths.zip columns).map fun (width, _, wanted) => min width wanted

/-- The widest line a table may take. -/
def lineWidth : Nat := 4096

/-- A row with an empty cell for every column it lacks. -/
def complete (count : Nat) (cells : List Text) : List Text := cells ++ List.replicate (count - cells.length) []

/-- Draws a grid with centred headings above left-aligned cells. Rows longer than the headings open columns
without a heading. -/
def render (headings : List Text) (rows : List (List Text)) : Text :=
  let headings := headings.map clean
  let rows := rows.map (List.map clean)
  let count := (rows.map List.length).foldl max headings.length
  if count = 0 then "\n"
  else
    let heads := complete count headings
    let rows := rows.map (complete count)
    let columns := (List.range count).map fun i =>
      let cells := heads.getD i [] :: rows.map fun row => row.getD i []
      ({ heading := heads.getD i [], wraps := decide (headings.length ≤ i) : Column },
        2 + (cells.map naturalWidth).foldl max 0)
    let widths := fit (lineWidth - (count + 1)) columns
    let columns := (columns.map Prod.fst).zip widths
    let rule : Text := "+" ++ Text.join "+" (widths.map fun width => List.replicate width (.char '-')) ++ "+"
    let lines := rule :: rowLines true columns heads ++ rule :: (rows.flatMap (rowLines false columns)) ++ [rule]
    lines.flatMap fun line => line ++ "\n"

end ProxyControl.Table
