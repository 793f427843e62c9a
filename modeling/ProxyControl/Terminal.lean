import ProxyControl.Unicode.CellWidth

namespace ProxyControl.Terminal

/-- Control codes that never reach the terminal: bell, backspace, and the line movements. -/
def isDropped (p : CodePoint) : Bool :=
  let n := p.toNat
  n == 7 || n == 8 || n == 11 || n == 12 || n == 13

def clean (t : Text) : Text := t.filter fun p => !isDropped p

def spaces (n : Nat) : Text := List.replicate n (.char ' ')

/-- Replaces tabs by spaces up to the next multiple of eight cells. `column` is the cell reached. -/
def expandTabs (column : Nat) : List Text → Text
  | [] => []
  | [last] => last
  | piece :: rest =>
    let reached := column + Text.cellLength (piece ++ [.char ' '])
    let fill := (8 - reached % 8) % 8
    piece ++ spaces (1 + fill) ++ expandTabs (reached + fill) rest

/-- A line as the terminal shows it, without tabs. -/
def withoutTabs (line : Text) : Text := expandTabs 0 (Text.splitOn (.char '\t') line)

/-- A text as the terminal shows it. -/
def plain (t : Text) : Text := Text.join "\n" ((Text.splitOn (.char '\n') (clean t)).map withoutTabs)

end ProxyControl.Terminal
