import ProxyControl.Failure

namespace ProxyControl.Yaml

/-- A place in a document, counted from zero. -/
structure Mark where
  line : Nat
  column : Nat
  deriving DecidableEq, Repr

def Mark.text (source : Text) (mark : Mark) : Text :=
  "  in \"" ++ source ++ "\", line " ++ Text.ofNat (mark.line + 1) ++ ", column " ++ Text.ofNat (mark.column + 1)

/-- What is wrong at a place. -/
inductive Problem where
  | noToken (found : CodePoint)
  | noColon
  | notAllowed (what : Text)
  | expected (what : Text) (found : CodePoint)
  | expectedToken (what found : Text)
  | expectedMark (closing found : Text)
  | indentationZero
  | unknownEscape (found : CodePoint)
  | endInside
  | documentInside
  | undecodable (reason : Text)
  | secondVersion
  | wrongVersion
  | secondHandle (handle : Text)
  | unknownHandle (handle : Text)
  | unknownAnchor (name : Text)
  | secondOccurrence
  | secondDocument
  | noConstructor (tag : Text)
  | unhashableKey
  | wrongNode (expected found : Text)
  | itemCount (count : Nat)
  | notAscii (reason : Text)
  | notBase64 (reason : Text)
  deriving Repr

def Problem.text : Problem → Text
  | noToken found => "found character " ++ Text.quoted [found] ++ " that cannot start any token"
  | noColon => "could not find expected ':'"
  | notAllowed what => what ++ " are not allowed here"
  | expected what found => "expected " ++ what ++ ", but found " ++ Text.quoted [found]
  | expectedToken what found => "expected " ++ what ++ ", but found " ++ found.quoted
  | expectedMark closing found => "expected ',' or '" ++ closing ++ "', but got " ++ found.quoted
  | indentationZero => "expected indentation indicator in the range 1-9, but found 0"
  | unknownEscape found => "found unknown escape character " ++ Text.quoted [found]
  | endInside => "found unexpected end of stream"
  | documentInside => "found unexpected document separator"
  | undecodable reason => reason
  | secondVersion => "found duplicate YAML directive"
  | wrongVersion => "found incompatible YAML document (version 1.* is required)"
  | secondHandle handle => "duplicate tag handle " ++ handle.quoted
  | unknownHandle handle => "found undefined tag handle " ++ handle.quoted
  | unknownAnchor name => "found undefined alias " ++ name.quoted
  | secondOccurrence => "second occurrence"
  | secondDocument => "but found another document"
  | noConstructor tag => "could not determine a constructor for the tag " ++ tag.quoted
  | unhashableKey => "found unhashable key"
  | wrongNode wanted found => "expected " ++ wanted ++ ", but found " ++ found
  | itemCount count => "expected a single mapping item, but found " ++ Text.ofNat count ++ " items"
  | notAscii reason => "failed to convert base64 data into ascii: " ++ reason
  | notBase64 reason => "failed to decode base64 data: " ++ reason

/-- What was being read when a problem showed, and since where, if that helps to find it. -/
structure Activity where
  doing : Text
  since : Option Mark
  deriving Repr

/-- A problem at a place, and what was being read there. -/
structure Located where
  activity : Option Activity
  problem : Problem
  mark : Mark
  deriving Repr

namespace Located

/-- A problem met while reading something that began at a mark. -/
def during (doing : Text) (since : Mark) (what : Problem) (mark : Mark) : Located :=
  ⟨some ⟨doing, some since⟩, what, mark⟩

def plain (what : Problem) (mark : Mark) : Located := ⟨none, what, mark⟩

/-- The text of a problem in the document of the given name. A start that is the place of the problem itself is not
repeated. -/
def text (source : Text) (located : Located) : Text :=
  let head : List Text :=
    match located.activity with
    | none => []
    | some ⟨doing, since⟩ => doing :: (since.filter (· ≠ located.mark)).toList.map (Mark.text source)
  Text.join "\n" (head ++ [located.problem.text, located.mark.text source])

def failure (source : Text) (located : Located) : Failure := .misconfigured (.notYaml source (located.text source))

end Located

/-- Why a text is no document that can be taken. The last three are not foreseen: an escape that names no code point,
a version with too many digits, and collections too deep inside each other. -/
inductive Complaint where
  | located (problem : Located)
  | unacceptable (p : CodePoint) (position : Nat)
  | escape (n : Nat) (beyond : 0x10FFFF < n)
  | digits (count : Nat) (many : Text.integerDigitLimit < count)
  | depth
  deriving Repr

namespace Complaint

def during (doing : Text) (since : Mark) (what : Problem) (mark : Mark) : Complaint :=
  located (.during doing since what mark)

def plain (what : Problem) (mark : Mark) : Complaint := located (.plain what mark)

/-- At least four hexadecimal digits. -/
def pointNumber (n : Nat) : Text := hexDigits (max 4 ((Nat.toDigits 16 n).length)) n

/-- The failure of reading the document of the given name. -/
def failure (source : Text) : Complaint → Failure
  | located problem => problem.failure source
  | unacceptable p position =>
    .misconfigured (.notYaml source ("unacceptable character #x" ++ pointNumber p.toNat ++
      ": special characters are not allowed\n  in \"" ++ source ++ "\", position " ++ Text.ofNat position))
  | escape n _ =>
    if n > 0x7FFFFFFF then .fault .overflow "Python int too large to convert to C int"
    else .fault .value "chr() arg not in range(0x110000)"
  | digits count _ => .fault .value (Text.tooManyDigits count)
  | depth => .fault .recursion "maximum recursion depth exceeded"

end Complaint

/-- Why a scalar cannot be read as its tag asks. -/
structure Misreading where
  kind : Fault
  message : Text
  deriving Repr

/-- Why a document does not stand for data. -/
inductive Obstacle where
  | located (problem : Located)
  | misread (misreading : Misreading)
  deriving Repr

def Obstacle.failure (source : Text) : Obstacle → Failure
  | located problem => problem.failure source
  | misread misreading => .fault misreading.kind misreading.message

instance : MonadLift (Except Located) (Except Obstacle) := ⟨Except.mapError .located⟩

/-- Why a text does not yield data: it is no document, or one that does not stand for data. -/
inductive LoadError where
  | reading (complaint : Complaint)
  | building (obstacle : Obstacle)
  deriving Repr

def LoadError.failure (source : Text) : LoadError → Failure
  | reading complaint => complaint.failure source
  | building obstacle => obstacle.failure source

end ProxyControl.Yaml
