import ProxyControl.Text.Charset
import ProxyControl.Yaml.Cursor

namespace ProxyControl.Yaml

/-- A line that begins with a percent sign. -/
inductive Directive where
  | version (major minor : Nat)
  | handle (name content : Text)
  | other (name : Text)
  deriving Repr

/-- A tag as it is written: a handle, unless the whole tag is given, and the rest. -/
structure TagName where
  handle : Option Text
  suffix : Text
  deriving Repr

namespace Scan

/-- The name after `*` or `&`. -/
def anchorName (isAlias : Bool) : Scan Text := do
  let start ← mark
  let doing : Text := if isAlias then "while scanning an alias" else "while scanning an anchor"
  skip 1
  let name ← takeWhile isWordPoint
  let follow ← peek
  let mayFollow := isBlankOrEnd follow || ("?:,]\x7d%@" : Text).contains follow || follow.toNat == 0x60
  if name.isEmpty || !mayFollow then unexpected doing start "alphabetic or numeric character"
  return name

/-- Code points of tags and their shorthands; a percent sign begins an escape. -/
def isUriPoint (p : CodePoint) : Bool :=
  p.isAsciiAlphanumeric || ("-;/?:@&=+$,_.!~*'()[]" : Text).contains p

/-- The bytes of escapes that follow each other. -/
def escapedBytes (doing : Text) (since : Mark) : Nat → Scan Utf8.Bytes
  | 0 => return []
  | fuel + 1 => do
    if (← peek) != .char '%' then return []
    skip 1
    let c ← get
    match (c.peekAt 0).hexValue?, (c.peekAt 1).hexValue? with
    | some high, some low =>
      skip 2
      return UInt8.ofNat (high * 16 + low) :: (← escapedBytes doing since fuel)
    | high, _ =>
      let found := if high.isNone then c.peekAt 0 else c.peekAt 1
      refuse doing since (.expected "URI escape sequence of 2 hexadecimal numbers" found)

/-- A tag, or the part of it after the handle. Escapes are bytes of UTF-8. -/
def uriParts (doing : Text) (since : Mark) : Nat → Scan Text
  | 0 => return []
  | fuel + 1 => do
    let run ← takeWhile isUriPoint
    if (← peek) != .char '%' then return run
    let here ← mark
    let bytes ← escapedBytes doing since ((← get).rest.length)
    match Utf8.decode .refuse bytes with
    | .error e => throw (.during doing since (.undecodable e.general.message) here)
    | .ok text => return run ++ text ++ (← uriParts doing since fuel)

def uri (name : Text) (since : Mark) : Scan Text := do
  let before := (← get).index
  let text ← uriParts ("while scanning a " ++ name) since ((← get).rest.length + 1)
  if (← get).index = before then unexpected ("while parsing a " ++ name) since "URI"
  return text

/-- A handle: `!`, `!!` or a word between exclamation marks. -/
def tagHandle (name : Text) (since : Mark) : Scan Text := do
  let doing := "while scanning a " ++ name
  if (← peek) != .char '!' then unexpected doing since "'!'"
  if (← get).peekAt 1 = .char ' ' then
    skip 1
    return "!"
  skip 1
  let word ← takeWhile isWordPoint
  if (← peek) != .char '!' then unexpected doing since "'!'"
  skip 1
  return "!" ++ word ++ "!"

/-- Whether an exclamation mark follows in the same word. -/
def hasHandle : Text → Bool
  | [] => false
  | p :: rest => if isSpaceOrEnd p then false else p = .char '!' || hasHandle rest

def tag : Scan TagName := do
  let start ← mark
  let follow := (← get).peekAt 1
  let name ← if follow = .char '<' then do
      skip 2
      let suffix ← uri "tag" start
      if (← peek) != .char '>' then unexpected "while parsing a tag" start "'>'"
      skip 1
      pure (⟨none, suffix⟩ : TagName)
    else if isBlankOrEnd follow then do
      skip 1
      pure ⟨none, "!"⟩
    else if hasHandle ((← get).rest.drop 1) then do
      let handle ← tagHandle "tag" start
      pure ⟨some handle, ← uri "tag" start⟩
    else do
      skip 1
      pure ⟨some "!", ← uri "tag" start⟩
  if !isSpaceOrEnd (← peek) then unexpected "while scanning a tag" start "' '"
  return name

def directiveNumber (since : Mark) : Scan Nat := do
  let digits ← takeWhile CodePoint.isAsciiDigit
  if many : Text.integerDigitLimit < digits.length then throw (.digits digits.length many)
  match Text.toNat? digits with
  | some n => return n
  | none => unexpected "while scanning a directive" since "a digit"

def versionDirective (since : Mark) : Scan Directive := do
  let doing : Text := "while scanning a directive"
  skipSpaces
  let major ← directiveNumber since
  if (← peek) != .char '.' then unexpected doing since "a digit or '.'"
  skip 1
  let minor ← directiveNumber since
  if !isSpaceOrEnd (← peek) then unexpected doing since "a digit or ' '"
  return .version major minor

def handleDirective (since : Mark) : Scan Directive := do
  let doing : Text := "while scanning a directive"
  skipSpaces
  let handle ← tagHandle "directive" since
  if !isSpace (← peek) then unexpected doing since "' '"
  skipSpaces
  let content ← uri "directive" since
  if !isSpaceOrEnd (← peek) then unexpected doing since "' '"
  return .handle handle content

/-- A directive with the line it stands on. -/
def directive : Scan Directive := do
  let start ← mark
  let doing : Text := "while scanning a directive"
  skip 1
  let name ← takeWhile isWordPoint
  if name.isEmpty || !isSpaceOrEnd (← peek) then unexpected doing start "alphabetic or numeric character"
  let result ← if name = "YAML" then versionDirective start
    else if name = "TAG" then handleDirective start
    else do
      let _ ← takeWhile fun p => !isBreakOrEnd p
      pure (.other name)
  restOfLine doing start
  return result

end Scan

end ProxyControl.Yaml
