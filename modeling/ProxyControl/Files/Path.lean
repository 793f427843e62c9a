import ProxyControl.Failure

namespace ProxyControl

/-- A path in its normal form: what it starts from, and its parts without empty ones and single points. -/
structure Path where
  root : Text
  parts : List Text
  deriving DecidableEq, Repr

namespace Path

/-- Exactly two slashes at the start are kept apart from one. -/
def rootOf (t : Text) : Text :=
  match (t.takeWhile (· = .char '/')).length with
  | 0 => []
  | 2 => "//"
  | _ => "/"

def ofText (t : Text) : Path :=
  ⟨rootOf t, (Text.splitOn (.char '/') t).filter fun part => !part.isEmpty && part != [.char '.']⟩

def toText (path : Path) : Text :=
  if path.root.isEmpty && path.parts.isEmpty then "." else path.root ++ Text.join "/" path.parts

/-- Replaces `~` at the start of a path by the home directory. The homes of other users are unknown. -/
def expandHome (home : Text) (path : Path) : Outcome Path :=
  match path.root, path.parts with
  | [], first :: rest =>
    let home := Text.dropWhileEnd (· = .char '/') home
    let home := if home.isEmpty then [.char '/'] else home
    if first.head? != some (.char '~') then .ok path
    else if first.length = 1 ∧ home.head? != some (.char '~') then
      .ok ⟨rootOf home, (ofText home).parts ++ rest⟩
    else .error (.fault .runtime "Could not determine home directory.")
  | _, _ => .ok path

/-- Takes the parent of a directory for `..`, whatever the directory may be. -/
def resolved (path : Path) : Path :=
  let up : Text := ".."
  let step (parts : List Text) (part : Text) : List Text :=
    if part = up then
      if parts.isEmpty || parts.getLast? == some up then (if path.root.isEmpty then parts ++ [up] else parts)
      else parts.dropLast
    else parts ++ [part]
  { path with parts := path.parts.foldl step [] }

end Path

end ProxyControl
