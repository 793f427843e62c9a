import ProxyControl.Yaml.Tag
import ProxyControl.Yaml.Token

namespace ProxyControl.Yaml

/-- A document as a tree. An alias of a collection that it lies in cannot be written out. -/
inductive Node where
  | scalar (tag content : Text) (mark : Mark)
  | sequence (tag : Text) (items : List Node) (mark : Mark)
  | mapping (tag : Text) (entries : List (Node × Node)) (mark : Mark)
  | enclosing (isMapping : Bool) (mark : Mark)
  deriving Repr

namespace Node

def mark : Node → Mark
  | scalar _ _ mark | sequence _ _ mark | mapping _ _ mark | enclosing _ mark => mark

def tag : Node → Text
  | scalar tag _ _ | sequence tag _ _ | mapping tag _ _ => tag
  | enclosing isMapping _ => commonTag (if isMapping then "map" else "seq")

/-- The name of the kind of a node in messages. -/
def kind : Node → Text
  | scalar .. => "scalar"
  | sequence .. => "sequence"
  | mapping .. => "mapping"
  | enclosing isMapping _ => if isMapping then "mapping" else "sequence"

/-- The empty scalar that stands where a node was left out. -/
def absent (mark : Mark) : Node := scalar (commonTag "null") [] mark

end Node

/-- Where the reading of nodes stands: the tokens to come and what follows them, the nodes that have an
anchor, the tag handles of the document, and how many collections are open. -/
structure Place where
  tokens : List Token
  ending : Option Complaint
  anchors : List (Text × Node) := []
  handles : List (Text × Text) := []
  depth : Nat := 0

abbrev Compose := StateT Place (Except Complaint)

namespace Compose

/-- How many collections may stand inside each other. What limits them is the stack: a thousand calls exhaust it, every
collection takes two of them, and those that lead to reading a document count too. The exact number is thus none of the
reader's own; it depends on the caller, and this is the one that a command meets, up to a few. -/
def nestingLimit : Nat := 480

/-- Reads what is in a collection. -/
def inside {α : Type} (contents : Compose α) : Compose α := do
  if nestingLimit ≤ (← get).depth then throw .depth
  modify fun place => { place with depth := place.depth + 1 }
  let found ← contents
  modify fun place => { place with depth := place.depth - 1 }
  return found

def defaultHandles : List (Text × Text) := [("!", "!"), ("!!", commonTag [])]

/-- The next token. Tokens end only with the end of the stream, or where one could not be read. -/
def peek : Compose Token := do
  let place ← get
  match place.tokens, place.ending with
  | token :: _, _ => return token
  | [], some complaint => throw complaint
  | [], none => return ⟨.streamEnd, ⟨0, 0⟩, ⟨0, 0⟩⟩

def peekKind : Compose TokenKind := return (← peek).kind

def take : Compose Token := do
  let token ← peek
  modify fun place => { place with tokens := place.tokens.drop 1 }
  return token

def complain {α : Type} (doing : Text) (since : Mark) (problem : Problem) (mark : Mark) : Compose α :=
  throw (.during doing since problem mark)

def setAnchor (anchor : Option Text) (node : Node) : Compose Unit := do
  if let some name := anchor then
    modify fun place => { place with anchors := (name, node) :: place.anchors }

def findAnchor? (name : Text) : Compose (Option Node) := return (← get).anchors.lookup name

/-- What stands before the content of a node. -/
structure Properties where
  anchor : Option Text := none
  tag : Option (TagName × Mark) := none
  start : Option Mark := none

def takeAnchor : Compose (Option (Text × Mark)) := do
  let token ← peek
  match token.kind with
  | .anchor name => let _ ← take; return some (name, token.start)
  | _ => return none

def takeTag : Compose (Option (TagName × Mark)) := do
  let token ← peek
  match token.kind with
  | .tag name => let _ ← take; return some (name, token.start)
  | _ => return none

/-- An anchor and a tag, in either order. -/
def properties : Compose Properties := do
  match ← takeAnchor with
  | some (anchor, start) => return ⟨some anchor, ← takeTag, some start⟩
  | none =>
    match ← takeTag with
    | none => return {}
    | some (tag, start) => return ⟨(← takeAnchor).map Prod.fst, some (tag, start), some start⟩

/-- The tag that a name stands for; nothing if the tag is left to the content. -/
def resolve (start : Mark) : Option (TagName × Mark) → Compose (Option Text)
  | none => return none
  | some (⟨none, suffix⟩, _) => return if suffix = "!" then none else some suffix
  | some (⟨some handle, suffix⟩, mark) => do
    match (← get).handles.lookup handle with
    | none => complain "while parsing a node" start (.unknownHandle handle) mark
    | some content => return some (content ++ suffix)

def refuseSecond (anchor : Option Text) (mark : Mark) : Compose Unit := do
  if let some name := anchor then
    if let some first := ← findAnchor? name then
      complain ("found duplicate anchor " ++ name.quoted ++ "; first occurrence") first.mark .secondOccurrence mark

/-- Which tokens a node may begin with, besides those that any node may. -/
inductive Position where
  | flow
  | block
  | blockOrEntries
  deriving DecidableEq

def Position.isBlock : Position → Bool
  | flow => false
  | _ => true

def isEntryEnd : TokenKind → Bool
  | .blockEntry | .blockEnd => true
  | _ => false

def isLooseEntryEnd : TokenKind → Bool
  | .blockEntry | .key | .value | .blockEnd => true
  | _ => false

def isPairEnd : TokenKind → Bool
  | .key | .value | .blockEnd => true
  | _ => false

def isFlowSequenceEnd : TokenKind → Bool
  | .flowSequenceEnd => true
  | _ => false

def isFlowMappingEnd : TokenKind → Bool
  | .flowMappingEnd => true
  | _ => false

def isFlowEntry : TokenKind → Bool
  | .flowEntry => true
  | _ => false

def isValue : TokenKind → Bool
  | .value => true
  | _ => false

def isKey : TokenKind → Bool
  | .key => true
  | _ => false

/-- The kind of content that a node has. -/
inductive Content where
  | scalar (content : Text) (isPlain : Bool)
  | empty
  | looseEntries
  | blockSequence
  | blockMapping
  | flowSequence
  | flowMapping

/-- The content that the next token begins. -/
def content (position : Position) (hasProperties : Bool) (start : Mark) : Compose Content := do
  let token ← peek
  let ruledOut : Compose Content :=
    if hasProperties then return .empty
    else
      complain (if position.isBlock then "while parsing a block node" else "while parsing a flow node") start
        (.expectedToken "the node content" token.kind.name) token.start
  match token.kind with
  | .blockEntry => if position = .blockOrEntries then return .looseEntries else ruledOut
  | .scalar content isPlain => let _ ← take; return .scalar content isPlain
  | .flowSequenceStart => return .flowSequence
  | .flowMappingStart => return .flowMapping
  | .blockSequenceStart => if position.isBlock then return .blockSequence else ruledOut
  | .blockMappingStart => if position.isBlock then return .blockMapping else ruledOut
  | _ => ruledOut

mutual

/-- A node, or the one that an alias names. The fuel bounds the depth and the length together. -/
def node (position : Position) : Nat → Compose Node
  | 0 => return .absent ⟨0, 0⟩
  | fuel + 1 => do
    let token ← peek
    if let .aliasOf name := token.kind then
      let _ ← take
      match ← findAnchor? name with
      | some found => return found
      | none => throw (.plain (.unknownAnchor name) token.start)
    let given ← properties
    let start ← match given.start with
      | some start => pure start
      | none => do pure (← peek).start
    let tag ← resolve start given.tag
    let kind ← content position given.start.isSome start
    refuseSecond given.anchor start
    let done (result : Node) : Compose Node := do
      setAnchor given.anchor result
      return result
    let sequence (items : Compose (List Node)) : Compose Node := do
      setAnchor given.anchor (.enclosing false start)
      done (.sequence (tag.getD (commonTag "seq")) (← inside items) start)
    let mapping (entries : Compose (List (Node × Node))) : Compose Node := do
      setAnchor given.anchor (.enclosing true start)
      done (.mapping (tag.getD (commonTag "map")) (← inside entries) start)
    match kind with
    | .scalar content isPlain =>
      let implicit := if isPlain || given.tag.isSome then Tag.implicit content else commonTag "str"
      done (.scalar (tag.getD implicit) content start)
    | .empty => done (.scalar (tag.getD (commonTag "null")) [] start)
    | .looseEntries => sequence (looseEntries fuel)
    | .blockSequence => do
      let opening ← take
      sequence (blockEntries opening.start fuel)
    | .blockMapping => do
      let opening ← take
      mapping (blockPairs opening.start fuel)
    | .flowSequence => do
      let opening ← take
      sequence (flowItems opening.start true fuel)
    | .flowMapping => do
      let opening ← take
      mapping (flowPairs opening.start true fuel)

/-- The entries of a block sequence that has an indentation of its own. -/
def blockEntries (start : Mark) : Nat → Compose (List Node)
  | 0 => return []
  | fuel + 1 => do
    let token ← take
    match token.kind with
    | .blockEntry =>
      let item ← if isEntryEnd (← peekKind) then pure (.absent token.finish) else node .block fuel
      return item :: (← blockEntries start fuel)
    | .blockEnd => return []
    | other =>
      complain "while parsing a block collection" start (.expectedToken "<block end>" other.name) token.start

/-- The entries of a block sequence at the column of the mapping around it. -/
def looseEntries : Nat → Compose (List Node)
  | 0 => return []
  | fuel + 1 => do
    match ← peekKind with
    | .blockEntry =>
      let token ← take
      let item ← if isLooseEntryEnd (← peekKind) then pure (.absent token.finish) else node .block fuel
      return item :: (← looseEntries fuel)
    | _ => return []

def blockPairs (start : Mark) : Nat → Compose (List (Node × Node))
  | 0 => return []
  | fuel + 1 => do
    let token ← take
    match token.kind with
    | .key =>
      let key ← if isPairEnd (← peekKind) then pure (.absent token.finish) else node .blockOrEntries fuel
      let value ← blockValue fuel
      return (key, value) :: (← blockPairs start fuel)
    | .blockEnd => return []
    | other => complain "while parsing a block mapping" start (.expectedToken "<block end>" other.name) token.start

def blockValue : Nat → Compose Node
  | 0 => return .absent ⟨0, 0⟩
  | fuel + 1 => do
    let token ← peek
    if !isValue token.kind then return .absent token.start
    let _ ← take
    if isPairEnd (← peekKind) then return .absent token.finish else node .blockOrEntries fuel

/-- A value within a flow collection, which may be left out. -/
def flowValue (isEnd : TokenKind → Bool) : Nat → Compose Node
  | 0 => return .absent ⟨0, 0⟩
  | fuel + 1 => do
    let token ← peek
    if !isValue token.kind then return .absent token.start
    let _ ← take
    let follow ← peekKind
    if isFlowEntry follow || isEnd follow then return .absent token.finish else node .flow fuel

/-- A key within a flow collection, after its mark. -/
def flowKey (isEnd : TokenKind → Bool) (token : Token) : Nat → Compose Node
  | 0 => return .absent ⟨0, 0⟩
  | fuel + 1 => do
    let follow ← peekKind
    if isValue follow || isFlowEntry follow || isEnd follow then return .absent token.finish
    else node .flow fuel

def flowItems (start : Mark) (isFirst : Bool) : Nat → Compose (List Node)
  | 0 => return []
  | fuel + 1 => do
    let token ← peek
    if isFlowSequenceEnd token.kind then
      let _ ← take
      return []
    if !isFirst then
      if isFlowEntry token.kind then
        let _ ← take
      else complain "while parsing a flow sequence" start (.expectedMark "]" token.kind.name) token.start
    let token ← peek
    if isKey token.kind then
      let _ ← take
      let pair ← inside do return (← flowKey isFlowSequenceEnd token fuel, ← flowValue isFlowSequenceEnd fuel)
      return .mapping (commonTag "map") [pair] token.start :: (← flowItems start false fuel)
    else if isFlowSequenceEnd token.kind then
      let _ ← take
      return []
    else
      let item ← node .flow fuel
      return item :: (← flowItems start false fuel)

def flowPairs (start : Mark) (isFirst : Bool) : Nat → Compose (List (Node × Node))
  | 0 => return []
  | fuel + 1 => do
    let token ← peek
    if isFlowMappingEnd token.kind then
      let _ ← take
      return []
    if !isFirst then
      if isFlowEntry token.kind then
        let _ ← take
      else complain "while parsing a flow mapping" start (.expectedMark "\x7d" token.kind.name) token.start
    let token ← peek
    if isKey token.kind then
      let _ ← take
      let key ← flowKey isFlowMappingEnd token fuel
      let value ← flowValue isFlowMappingEnd fuel
      return (key, value) :: (← flowPairs start false fuel)
    else if isFlowMappingEnd token.kind then
      let _ ← take
      return []
    else
      let key ← node .flow fuel
      let value : Node := .absent (← peek).start
      return (key, value) :: (← flowPairs start false fuel)

end

/-- The directives before a document; they set its tag handles. -/
def directives (hasVersion : Bool) : Nat → Compose Unit
  | 0 => return ()
  | fuel + 1 => do
    let token ← peek
    match token.kind with
    | .directive content =>
      let _ ← take
      match content with
      | .version major _ =>
        if hasVersion then throw (.plain .secondVersion token.start)
        if major != 1 then throw (.plain .wrongVersion token.start)
        directives true fuel
      | .handle name content =>
        if ((← get).handles.lookup name).isSome then throw (.plain (.secondHandle name) token.start)
        modify fun place => { place with handles := (name, content) :: place.handles }
        directives hasVersion fuel
      | .other _ => directives hasVersion fuel
    | _ => modify fun place => { place with handles := place.handles ++ defaultHandles }

/-- Whether a document that begins with a token has its own marker, or there is none at all. -/
def isExplicitStart : TokenKind → Bool
  | .directive _ | .documentStart | .streamEnd => true
  | _ => false

def isDocumentEdge : TokenKind → Bool
  | .directive _ | .documentStart | .documentEnd | .streamEnd => true
  | _ => false

def skipDocumentEnds : Nat → Compose Unit
  | 0 => return ()
  | fuel + 1 => do
    if let .documentEnd := ← peekKind then
      let _ ← take
      skipDocumentEnds fuel

/-- The start of a document with its directives; nothing at the end of the stream. -/
def documentStart (fuel : Nat) : Compose (Option Mark) := do
  skipDocumentEnds fuel
  let token ← peek
  if let .streamEnd := token.kind then return none
  modify fun place => { place with handles := [] }
  directives false fuel
  let marker ← peek
  match marker.kind with
  | .documentStart =>
    let _ ← take
    return some token.start
  | other => throw (.plain (.expectedToken "'<document start>'" other.name) marker.start)

/-- The only document of a stream, if there is one. -/
def onlyDocument (fuel : Nat) : Compose (Option Node) := do
  let isImplicit := !isExplicitStart (← peekKind)
  if !isImplicit then
    if (← documentStart fuel).isNone then return none
  else modify fun place => { place with handles := defaultHandles }
  let token ← peek
  let root ← if isDocumentEdge token.kind && !isImplicit then pure (.absent token.start) else node .block fuel
  if let .documentEnd := ← peekKind then
    let _ ← take
  match ← documentStart fuel with
  | none => return some root
  | some mark => complain "expected a single document in the stream" root.mark .secondDocument mark

end Compose

/-- The document of a text as a tree; nothing if the text holds none. -/
def Node.ofText? (t : Text) : Except Complaint (Option Node) :=
  let (tokens, ending) := tokensOf t
  (Compose.onlyDocument (2 * tokens.length + 2)).run' { tokens, ending }

end ProxyControl.Yaml
