import Pagewright.Format.Yaml.Scalar
import Pagewright.Format.Yaml.Token

/-!
# YAML nodes

The tokens of a document make up scalars, sequences and mappings. Nodes are numbered, and a
collection holds the numbers of its parts: an alias stands for the node that was last given its
name, which may be a node around it. Any node may be left out where its place is marked, and is the
empty scalar then.
-/

namespace Pagewright.Yaml

/-- The number of a node. -/
abbrev NodeId := Nat

/-- What a node holds. -/
inductive NodeContent where
  | scalar (text : List Char)
  | sequence (items : List NodeId)
  | mapping (entries : List (NodeId × NodeId))
deriving DecidableEq

instance : Inhabited NodeContent := ⟨.scalar []⟩

/-- A node of a document. The entries that merge keys brought into a mapping are kept apart once
they are known. -/
structure Node where
  kind : Kind
  content : NodeContent
  merged : Option (List (NodeId × NodeId)) := none

instance : Inhabited Node := ⟨{ kind := .null, content := .scalar [] }⟩

/-- What a node says about its own kind. -/
inductive Tag where
  | none
  | bare
  | named (name : List Char)
deriving DecidableEq

/-- The start of the name of a standard tag. -/
def standardStart : List Char := "tag:yaml.org,2002:".toList

/-- The kind that a tag names. -/
def Kind.ofName (name : List Char) : Kind :=
  let named : List (String × Kind) :=
    [("null", .null), ("bool", .bool), ("int", .int), ("float", .float), ("str", .text),
     ("timestamp", .timestamp), ("binary", .binary), ("seq", .sequence), ("map", .mapping),
     ("omap", .orderedMapping), ("set", .set), ("pairs", .pairs), ("merge", .merge),
     ("value", .value)]
  (named.findSome? fun entry =>
    if standardStart ++ entry.1.toList = name then some entry.2 else none).getD .unknown

/-- The kind of a node with a tag, whose kind without one is known. -/
def Tag.kind (untagged : Kind) : Tag → Kind
  | .named name => .ofName name
  | _ => untagged

/-- The kind of a scalar. -/
def Tag.scalarKind (version : Version) (isPlain : Bool) (text : List Char) : Tag → Kind
  | .none => if isPlain then plainKind version text else .text
  | .bare => plainKind version text
  | .named name => .ofName name

/-- What the reader of nodes carries along: the scan, the nodes read so far, the numbers that names
stand for, and the meaning of tag handles. -/
structure NodeState where
  scan : Scan
  nodes : Array Node := #[]
  names : List (List Char × NodeId) := []
  handles : List (List Char × List Char) := []

/-- The step from one state to the next. -/
abbrev NodeReader := StateT NodeState (Except Fault)

namespace NodeReader

/-- The next token; none at the end. -/
def peek : NodeReader (Option Token) := do
  let scan ← (← get).scan.settle
  modify fun s => { s with scan }
  return scan.queue.head?

/-- Moves past the token that was seen last. -/
def drop : NodeReader Unit := modify fun s => { s with scan := s.scan.take }

/-- Is the next token one of these? -/
def isNext (ts : List Token) : NodeReader Bool := do return (← peek).any fun t => ts.contains t

/-- Moves past a token that has to be there. -/
def expect (t : Token) : NodeReader Unit := do
  if ← isNext [t] then drop else throw .malformed

/-- The version of YAML that is read. -/
def version : NodeReader Version := do return (← get).scan.version

/-- Adds a node and gives it a name. -/
def add (name : Option (List Char)) (node : Node) : NodeReader NodeId := do
  let id := (← get).nodes.size
  modify fun s => { s with
    nodes := s.nodes.push node
    names := match name with
      | some name => (name, id) :: s.names
      | none => s.names }
  return id

/-- Adds a scalar. -/
def addScalar (name : Option (List Char)) (tag : Tag) (isPlain : Bool) (text : List Char) :
    NodeReader NodeId := do
  add name { kind := tag.scalarKind (← version) isPlain text, content := .scalar text }

/-- Adds the empty scalar. -/
def addEmpty : NodeReader NodeId := addScalar none .none true []

/-- Gives a node its content. -/
def setContent (id : NodeId) (content : NodeContent) : NodeReader Unit :=
  modify fun s => { s with nodes := s.nodes.modify id fun node => { node with content } }

/-- The text of a tag with the bytes of its escapes, one character for each. -/
def unescapedTag : List Char → List Char
  | '%' :: a :: b :: rest => Char.ofNat ((hexNumber? [a, b]).getD 0) :: unescapedTag rest
  | c :: rest => c :: unescapedTag rest
  | [] => []

/-- The full name of a tag. -/
def resolveTag (handle : Option (List Char)) (suffix : List Char) : NodeReader Tag := do
  match handle with
  | none => return if unescapedTag suffix = ['!'] then .bare else .named (unescapedTag suffix)
  | some handle =>
    match (← get).handles.lookup handle with
    | some meaning => return .named (meaning ++ unescapedTag suffix)
    | none => throw .malformed

/-- The name and the tag in front of a node, in any order. -/
def properties : NodeReader (Option (List Char) × Tag) := do
  match ← peek with
  | some (.anchor name) =>
    drop
    match ← peek with
    | some (.tag handle suffix) => drop; return (some name, ← resolveTag handle suffix)
    | _ => return (some name, .none)
  | some (.tag handle suffix) =>
    drop
    match ← peek with
    | some (.anchor name) => drop; return (some name, ← resolveTag handle suffix)
    | _ => return (none, ← resolveTag handle suffix)
  | _ => return (none, .none)

/-- Where a node may stand: inside a flow collection, in a block, or in a block mapping, where a
sequence needs no indentation. -/
inductive Place where
  | flow
  | block
  | value
deriving DecidableEq

mutual

/-- Reads a node. The fuel bounds the steps, each of which takes a token or enters a collection
whose token is taken next. -/
def node (place : Place) : (fuel : Nat) → NodeReader NodeId
  | 0 => throw .malformed
  | fuel + 1 => do
    if let some (.alias name) := ← peek then
      drop
      match (← get).names.lookup name with
      | some id => return id
      | none => throw .malformed
    let (name, tag) ← properties
    let sequence (items : NodeReader (List NodeId)) : NodeReader NodeId := do
      let id ← add name { kind := tag.kind .sequence, content := .sequence [] }
      setContent id (.sequence (← items))
      return id
    let mapping (entries : NodeReader (List (NodeId × NodeId))) : NodeReader NodeId := do
      let id ← add name { kind := tag.kind .mapping, content := .mapping [] }
      setContent id (.mapping (← entries))
      return id
    match ← peek, place with
    | some (.scalar text isPlain), _ => do drop; addScalar name tag isPlain text
    | some .flowSequence, _ => do drop; sequence (flowItems true fuel)
    | some .flowMapping, _ => do drop; mapping (flowEntries true fuel)
    | some .blockEntry, .value => sequence (bareItems fuel)
    | some .blockSequence, .block | some .blockSequence, .value =>
      do drop; sequence (blockItems fuel)
    | some .blockMapping, .block | some .blockMapping, .value =>
      do drop; mapping (blockEntries fuel)
    | _, _ =>
      if name.isSome ∨ tag ≠ .none then addScalar name tag true [] else throw .malformed

/-- A node, or the empty scalar when one of the given tokens follows. -/
def nodeUnless (place : Place) (ends : List Token) : (fuel : Nat) → NodeReader NodeId
  | 0 => throw .malformed
  | fuel + 1 => do if ← isNext ends then addEmpty else node place fuel

/-- The items of a block sequence up to its end. -/
def blockItems : (fuel : Nat) → NodeReader (List NodeId)
  | 0 => throw .malformed
  | fuel + 1 => do
    if ← isNext [.blockEntry] then
      drop
      let item ← nodeUnless .block [.blockEntry, .blockEnd] fuel
      return item :: (← blockItems fuel)
    else
      expect .blockEnd
      return []

/-- The items of a sequence that is not indented. -/
def bareItems : (fuel : Nat) → NodeReader (List NodeId)
  | 0 => throw .malformed
  | fuel + 1 => do
    if ← isNext [.blockEntry] then
      drop
      let item ← nodeUnless .block [.blockEntry, .key, .value, .blockEnd] fuel
      return item :: (← bareItems fuel)
    else return []

/-- The entries of a block mapping up to its end. A value without a key has the empty key; the
older version asks for keys. -/
def blockEntries : (fuel : Nat) → NodeReader (List (NodeId × NodeId))
  | 0 => throw .malformed
  | fuel + 1 => do
    if ← isNext [.key] then
      drop
      let key ← nodeUnless .value [.key, .value, .blockEnd] fuel
      let value ← blockValue fuel
      return (key, value) :: (← blockEntries fuel)
    else if (← version) = .v12 ∧ (← isNext [.value]) then
      let key ← addEmpty
      let value ← blockValue fuel
      return (key, value) :: (← blockEntries fuel)
    else
      expect .blockEnd
      return []

/-- The value of an entry of a block mapping. -/
def blockValue : (fuel : Nat) → NodeReader NodeId
  | 0 => throw .malformed
  | fuel + 1 => do
    if ← isNext [.value] then
      drop
      nodeUnless .value [.key, .value, .blockEnd] fuel
    else addEmpty

/-- The items of a flow sequence up to its end. -/
def flowItems (isFirst : Bool) : (fuel : Nat) → NodeReader (List NodeId)
  | 0 => throw .malformed
  | fuel + 1 => do
    if ← isNext [.flowSequenceEnd] then drop; return []
    if !isFirst then expect .flowEntry
    if ← isNext [.key] then
      drop
      let pair ← add none { kind := .mapping, content := .mapping [] }
      let key ← nodeUnless .flow [.value, .flowEntry, .flowSequenceEnd] fuel
      let value ← flowValue [.flowEntry, .flowSequenceEnd] fuel
      setContent pair (.mapping [(key, value)])
      return pair :: (← flowItems false fuel)
    else if ← isNext [.flowSequenceEnd] then drop; return []
    else
      let item ← node .flow fuel
      return item :: (← flowItems false fuel)

/-- The entries of a flow mapping up to its end. A value without a key has the empty key; the older
version asks for keys. -/
def flowEntries (isFirst : Bool) : (fuel : Nat) → NodeReader (List (NodeId × NodeId))
  | 0 => throw .malformed
  | fuel + 1 => do
    if ← isNext [.flowMappingEnd] then drop; return []
    if !isFirst then expect .flowEntry
    if ← isNext [.key] then
      drop
      let key ← nodeUnless .flow [.value, .flowEntry, .flowMappingEnd] fuel
      let value ← flowValue [.flowEntry, .flowMappingEnd] fuel
      return (key, value) :: (← flowEntries false fuel)
    else if (← version) = .v12 ∧ (← isNext [.value]) then
      let key ← addEmpty
      let value ← flowValue [.flowEntry, .flowMappingEnd] fuel
      return (key, value) :: (← flowEntries false fuel)
    else if ← isNext [.flowMappingEnd] then drop; return []
    else
      let key ← node .flow fuel
      let value ← addEmpty
      return (key, value) :: (← flowEntries false fuel)

/-- The value of an entry of a flow collection. -/
def flowValue (ends : List Token) : (fuel : Nat) → NodeReader NodeId
  | 0 => throw .malformed
  | fuel + 1 => do
    if ← isNext [.value] then
      drop
      nodeUnless .flow ends fuel
    else addEmpty

end

/-! ## Documents -/

/-- The meaning of the handles that every document has. -/
def standardHandles : List (List Char × List Char) := [(['!'], ['!']), (['!', '!'], standardStart)]

/-- The directives in front of a document. There is at most one version and one meaning of a
handle. -/
def directives : (fuel : Nat) → (asked : Option (Nat × Nat)) →
    (handles : List (List Char × List Char)) → NodeReader Unit
  | 0, _, _ => throw .malformed
  | fuel + 1, asked, handles => do
    match ← peek with
    | some (.version major minor) =>
      drop
      if asked.isSome ∨ major ≠ 1 then throw .malformed
      directives fuel (some (major, minor)) handles
    | some (.handle name meaning) =>
      drop
      if (handles.lookup name).isSome then throw .malformed
      directives fuel asked ((name, meaning) :: handles)
    | some .directive => drop; directives fuel asked handles
    | _ =>
      let version ← match asked with
        | none => pure Version.v12
        | some (_, 1) => pure Version.v11
        | some (_, 2) => pure Version.v12
        | some _ => throw .unknownVersion
      modify fun s =>
        { s with scan := { s.scan with version }, handles := handles ++ standardHandles }

/-- Is the token one that may stand between documents? -/
def isBetweenDocuments : Token → Bool
  | .version _ _ => true
  | .handle _ _ => true
  | .directive => true
  | .documentStart => true
  | .documentEnd => true
  | _ => false

/-- Is the token a directive, or the start of a document? -/
def startsDocument : Token → Bool
  | .documentEnd => false
  | t => isBetweenDocuments t

/-- Skips marks of the end of a document. -/
def skipEnds : (fuel : Nat) → NodeReader Unit
  | 0 => throw .malformed
  | fuel + 1 => do
    if ← isNext [.documentEnd] then drop; skipEnds fuel

/-- The start of a document with its directives; false at the end of the text. -/
def explicitStart (fuel : Nat) : NodeReader Bool := do
  skipEnds fuel
  if (← peek).isNone then return false
  directives fuel none []
  expect .documentStart
  return true

/-- The root of a document behind its start. -/
def root (fuel : Nat) : NodeReader NodeId := do
  if (← peek).all isBetweenDocuments then addEmpty else node .block fuel

/-- The end of a document; another document must not follow. The older version allows more than one
mark of the end. -/
def finish (fuel : Nat) : NodeReader Unit := do
  if ← isNext [.documentEnd] then
    drop
    let next ← peek
    if (← version) = .v12 ∧ !(next.all startsDocument) then throw .malformed
  if ← explicitStart fuel then throw .malformed

/-- The root of the only document of a text; none when there is no document. -/
def document (fuel : Nat) : NodeReader (Option NodeId) := do
  match ← peek with
  | none => return none
  | some t =>
    let root ← if startsDocument t then do
        let _ ← explicitStart fuel
        root fuel
      else do
        modify fun s => { s with handles := standardHandles }
        node .block fuel
    finish fuel
    return some root

end NodeReader

end Pagewright.Yaml
