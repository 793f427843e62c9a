import ProxyControl.Files.Path

namespace ProxyControl

/-- The files that are known, by their path from the working directory or from the root, with their
contents. -/
abbrev Files := List (Text × Text)

namespace Files

/-- What stands at a path. -/
inductive Entry where
  | file (content : Text)
  | directory
  | missing
  deriving DecidableEq, Repr

/-- Where a path leads: to a place below the working directory, or outside of it. -/
inductive Place where
  | inside (parts : List Text)
  | outside

def isFile (files : Files) (parts : List Text) : Bool := (files.lookup (Text.join "/" parts)).isSome

/-- A place below the working directory is a directory if a file lies below it. -/
def isDirectory (files : Files) (parts : List Text) : Bool :=
  parts.isEmpty || files.any fun (name, _) =>
    let own := Text.splitOn (.char '/') name
    parts.length < own.length && own.take parts.length == parts

/-- Follows the parts of a path from a directory; `..` leads back to the directory before. -/
def follow (files : Files) (directory : List Text) : List Text → Option Place
  | [] => some (.inside directory)
  | part :: rest =>
    if part = [.char '.', .char '.'] then
      if directory.isEmpty then (if rest.isEmpty then some .outside else none)
      else follow files directory.dropLast rest
    else
      let next := directory ++ [part]
      if rest.isEmpty then some (.inside next)
      else if files.isDirectory next then follow files next rest
      else none

/-- What stands at a path from the root. -/
def entryFromRoot (files : Files) (path : Path) : Entry :=
  let name := path.resolved.toText
  match files.lookup name with
  | some content => .file content
  | none =>
    let isAbove := path.resolved.parts.isEmpty || files.any fun (other, _) => (name ++ "/").isPrefixOf other
    if isAbove then .directory else .missing

/-- What stands at a path. -/
def entry (files : Files) (path : Path) : Entry :=
  if !path.root.isEmpty then files.entryFromRoot path
  else
    match follow files [] path.parts with
    | none => .missing
    | some .outside => .directory
    | some (.inside parts) =>
      match files.lookup (Text.join "/" parts) with
      | some content => .file content
      | none => if files.isDirectory parts then .directory else .missing

def read? (files : Files) (name : Text) : Option Text := files.lookup name

/-- Sets the content of a file; a file that is there already keeps its place. -/
def write (name content : Text) : Files → Files
  | [] => [(name, content)]
  | (n, c) :: rest => if n = name then (n, content) :: rest else (n, c) :: write name content rest

def delete (name : Text) (files : Files) : Files := files.filter fun (n, _) => n != name

end Files

end ProxyControl
