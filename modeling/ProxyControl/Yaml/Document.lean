import ProxyControl.Yaml.Node
import ProxyControl.Yaml.Scalars

namespace ProxyControl.Yaml

namespace Node

def mappingDoing : Text := "while constructing a mapping"

/-- Whether a node is an alias of a mapping around it, one of those at the given marks. -/
def isOneOf (marks : List Mark) : Node → Bool
  | enclosing true mark => marks.contains mark
  | _ => false

def isMapping : Node → Bool
  | mapping .. => true
  | _ => false

/-- A key `=` is an ordinary key. -/
def asKey : Node → Node
  | scalar tag content mark => scalar (if tag = commonTag "value" then commonTag "str" else tag) content mark
  | other => other

mutual

/-- The entries that merge keys bring into a mapping, and its own entries without the merge keys. A mapping that is
being merged already, at `start` or `around` it, brings nothing that does not get there anyway. -/
def splitMerges (start : Mark) (around : List Mark) :
    List (Node × Node) → Except Located (List (Node × Node) × List (Node × Node))
  | [] => .ok ([], [])
  | (key, value) :: rest =>
    if key.tag = commonTag "merge" then do
      let more ← mergedFrom start around value
      let (merged, own) ← splitMerges start around rest
      return (more ++ merged, own)
    else do
      let (merged, own) ← splitMerges start around rest
      return (merged, (key.asKey, value) :: own)

def mergedFrom (start : Mark) (around : List Mark) : Node → Except Located (List (Node × Node))
  | mapping _ entries mark => do
    let (merged, own) ← splitMerges mark (start :: around) entries
    return merged ++ own
  | sequence _ items _ => mergedFromItems start around items
  | other =>
    if other.isOneOf (start :: around) then .ok []
    else
      .error (.during mappingDoing start (.wrongNode "a mapping or list of mappings for merging" other.kind) other.mark)

/-- The entries of several mappings; those of the first mapping come last, so that they count. -/
def mergedFromItems (start : Mark) (around : List Mark) : List Node → Except Located (List (Node × Node))
  | [] => .ok []
  | mapping _ entries mark :: rest => do
    let (merged, own) ← splitMerges mark (start :: around) entries
    return (← mergedFromItems start around rest) ++ merged ++ own
  | other :: rest =>
    if other.isOneOf (start :: around) then mergedFromItems start around rest
    else .error (.during mappingDoing start (.wrongNode "a mapping for merging" other.kind) other.mark)

end

/-- The entries of a mapping once its merge keys are resolved. -/
def flatten (start : Mark) (entries : List (Node × Node)) : Except Located (List (Node × Node)) := do
  let (merged, own) ← splitMerges start [] entries
  return merged ++ own

mutual

/-- The text of a node. A mapping with a key `=` stands for the value of that key, however often this leads on; where
it leads back to one of the mappings `around`, it never ends. -/
def content (around : List Mark) : Node → Except Obstacle Text
  | scalar _ content _ => .ok content
  | mapping _ entries mark => contentOfEntries mark around entries
  | other =>
    if other.isOneOf around then .error (.misread ⟨.recursion, "maximum recursion depth exceeded"⟩)
    else .error (.located (.plain (.wrongNode "a scalar node" other.kind) other.mark))

def contentOfEntries (mark : Mark) (around : List Mark) : List (Node × Node) → Except Obstacle Text
  | [] => .error (.located (.plain (.wrongNode "a scalar node" "mapping") mark))
  | (key, value) :: rest =>
    if key.tag = commonTag "value" then content (mark :: around) value else contentOfEntries mark around rest

end

/-- The kinds of collections of the common schema. -/
inductive Collection where
  | list
  | mapping
  | set
  | pairs (doing : Text)

def collection? (tag : Text) : Option Collection :=
  if tag = commonTag "seq" then some .list
  else if tag = commonTag "map" then some .mapping
  else if tag = commonTag "set" then some .set
  else if tag = commonTag "omap" then some (.pairs "while constructing an ordered map")
  else if tag = commonTag "pairs" then some (.pairs "while constructing pairs")
  else none

/-- What a node that is no collection stands for; nothing for a collection. A time is read off the node itself, which
has no text if it is a mapping. -/
def plainDatum? (node : Node) : Except Obstacle (Option Datum) :=
  if (collection? node.tag).isSome then .ok none
  else
    match scalarReader? node.tag with
    | none => .error (.located (.plain (.noConstructor node.tag) node.mark))
    | some read => do
      let content ← node.content []
      if node.tag = commonTag "timestamp" && node.isMapping then
        throw (.misread ⟨.wrongKind, "expected string or bytes-like object, got 'list'"⟩)
      return some (← read content node.mark)

/-- The single entry of each mapping in a list of them. -/
def singleEntries (doing : Text) (start : Mark) : List Node → Except Located (List (Node × Node))
  | [] => .ok []
  | mapping _ [entry] _ :: rest => do return entry :: (← singleEntries doing start rest)
  | mapping _ entries mark :: _ => .error (.during doing start (.itemCount entries.length) mark)
  | other :: _ => .error (.during doing start (.wrongNode "a mapping of length 1" other.kind) other.mark)

def unkeyed (items : List Node) : List (Option Node × Node) := items.map fun item => (none, item)

def keyed (entries : List (Node × Node)) : List (Option Node × Node) :=
  entries.map fun entry => (some entry.1, entry.2)

/-- The parts of a collection, as entries of nodes; items of a list have no key. -/
def parts (node : Node) : Except Located (List (Option Node × Node)) :=
  match collection? node.tag, node with
  | none, _ => .ok []
  | _, enclosing _ _ => .ok []
  | some .list, sequence _ items _ => .ok (unkeyed items)
  | some .list, other => .error (.plain (.wrongNode "a sequence node" other.kind) other.mark)
  | some .mapping, mapping _ entries mark | some .set, mapping _ entries mark => do
    return keyed (← flatten mark entries)
  | some .mapping, other | some .set, other => .error (.plain (.wrongNode "a mapping node" other.kind) other.mark)
  | some (.pairs doing), sequence _ items mark => do return keyed (← singleEntries doing mark items)
  | some (.pairs doing), other =>
    .error (.during doing other.mark (.wrongNode "a sequence" other.kind) other.mark)

/-- Whether the keys of a collection have to be told apart. -/
def hasKeys (node : Node) : Bool :=
  match collection? node.tag with
  | some .mapping | some .set => true
  | _ => false

/-- The node itself, if it is a collection; anything else is checked. -/
def unchecked (node : Node) : Except Obstacle (List Node) := do
  return if (← node.plainDatum?).isSome then [] else [node]

def checkKey (node key : Node) : Except Obstacle (List Node) := do
  let inner ← key.unchecked
  if node.hasKeys && !inner.isEmpty then
    throw (.located (.during mappingDoing node.mark .unhashableKey key.mark))
  return inner

def checkPart (node : Node) : Option Node × Node → Except Obstacle (List Node)
  | (none, value) => value.unchecked
  | (some key, value) => do return (← node.checkKey key) ++ (← value.unchecked)

/-- Checks the parts of a collection that are no collections, and yields the others. -/
def checkParts (node : Node) : Except Obstacle (List Node) := do
  let found ← (← node.parts).mapM node.checkPart
  return found.flatten

/-- Checks a document level by level: complaints about an outer collection come before those about the
collections in it. -/
def checkLevels (level : List Node) : Nat → Except Obstacle Unit
  | 0 => .ok ()
  | fuel + 1 => do
    let inner ← level.mapM checkParts
    if inner.flatten.isEmpty then return ()
    checkLevels inner.flatten fuel

/-- The number that a datum equals as a key. -/
def numericKey? : Datum → Option Int
  | .int n => some n
  | .bool b => some (if b then 1 else 0)
  | .float x =>
    match x.truncate? with
    | some (n, true) => some n
    | _ => none
  | _ => none

def sameKey (a b : Datum) : Bool :=
  match a, b with
  | .none, .none => true
  | .text t, .text u => t == u
  | .bytes t, .bytes u => t == u
  | .float x, .float y => x == y && !x.isNaN
  | .date y m d, .date z n e => (y, m, d) == (z, n, e)
  | .moment m, .moment n => m == n
  | a, b =>
    match numericKey? a, numericKey? b with
    | some m, some n => m == n
    | _, _ => false

/-- Sets an entry: a key that is there already keeps its place and its form. -/
def setEntry (key value : Datum) : List (Datum × Datum) → List (Datum × Datum)
  | [] => [(key, value)]
  | (k, v) :: rest => if sameKey k key then (k, value) :: rest else (k, v) :: setEntry key value rest

/-- The data of a part of a collection; an item of a list has no key. -/
def partData (read : Node → Except Obstacle Datum) : Option Node × Node → Except Obstacle (Datum × Datum)
  | (none, value) => do return (.none, ← read value)
  | (some key, value) => do return (← read key, ← read value)

/-- What a collection with a tag stands for, by the data of its parts. -/
def assembled (tag : Text) (parts : List (Datum × Datum)) : Datum :=
  let entries := parts.foldl (fun all (key, value) => setEntry key value all) []
  match collection? tag with
  | some .mapping => .mapping entries
  | some .set => .set (entries.map Prod.fst)
  | some (.pairs _) => .list (parts.map fun (key, value) => .pair key value)
  | _ => .list (parts.map Prod.snd)

/-- What a node stands for. The fuel bounds the depth. -/
def toDatum (node : Node) : Nat → Except Obstacle Datum
  | 0 => .ok .none
  | fuel + 1 => do
    match ← node.plainDatum?, node with
    | some datum, _ => return datum
    | none, enclosing isMapping _ => return .enclosing isMapping
    | none, _ => return assembled node.tag (← (← node.parts).mapM (partData fun part => part.toDatum fuel))

mutual

/-- The number of collections inside each other, counting the outermost. -/
def depth : Node → Nat
  | sequence _ items _ => depthOfItems items + 1
  | mapping _ entries _ => depthOfEntries entries + 1
  | _ => 1

def depthOfItems : List Node → Nat
  | [] => 0
  | item :: rest => max item.depth (depthOfItems rest)

def depthOfEntries : List (Node × Node) → Nat
  | [] => 0
  | (key, value) :: rest => max (max key.depth value.depth) (depthOfEntries rest)

end

end Node

/-- What a tree stands for; complaints about an outer collection come first. -/
def Node.build (root : Node) : Except Obstacle Datum := do
  let _ ← root.plainDatum?
  Node.checkLevels [root] (root.depth + 1)
  root.toDatum (root.depth + 1)

/-- The data of the only document in a text; nothing if the text holds none. -/
def load (t : Text) : Except LoadError Datum := do
  match ← (Node.ofText? t).mapError .reading with
  | none => return .none
  | some root => root.build.mapError .building

end ProxyControl.Yaml
