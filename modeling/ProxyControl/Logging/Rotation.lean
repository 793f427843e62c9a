import ProxyControl.Files
import ProxyControl.Logging.Settings
import ProxyControl.Text.Utf8

namespace ProxyControl

namespace Files

/-- The name of a file that was set aside; the one set aside last has number 1. -/
def backupName (name : Text) (number : Nat) : Text := name ++ "." ++ Text.ofNat number

/-- Gives a file a new name, over the file that had it. -/
def rename (old new : Text) (files : Files) : Files :=
  match files.read? old with
  | some content => (files.delete old).write new content
  | none => files

/-- Makes room for another file to be set aside: the files with the numbers up to `count` move up by one. -/
def shiftBackups (name : Text) : Nat → Files → Files
  | 0, files => files
  | count + 1, files => shiftBackups name count (files.rename (backupName name (count + 1)) (backupName name (count + 2)))

/-- Sets a file aside and starts it anew. If no such files are kept it goes on growing. -/
def rotate (name : Text) (kept : Nat) (files : Files) : Files :=
  match kept with
  | 0 => files
  | count + 1 => ((shiftBackups name count files).rename name (backupName name 1)).write name []

/-- The number of bytes in a file. -/
def size (files : Files) (name : Text) : Nat := (Utf8.encodeLoosely ((files.read? name).getD [])).length

def append (name content : Text) (files : Files) : Files := files.write name ((files.read? name).getD [] ++ content)

end Files

/-- Whether a line would bring a log file of the given size to its limit. -/
def LogFile.isFull (file : LogFile) (size : Nat) (line : Text) : Bool :=
  0 < file.maxBytes && file.maxBytes ≤ (size + line.length : Nat)

/-- Appends a line to a log file, and sets the file aside before if the line would fill it. -/
def LogFile.append (file : LogFile) (name line : Text) (files : Files) : Files :=
  let files := if file.isFull (files.size name) line then files.rotate name file.backupCount.toNat else files
  files.append name line

end ProxyControl
