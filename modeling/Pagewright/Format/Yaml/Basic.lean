import Pagewright.Format.Yaml.Node

/-!
# YAML

The value of a YAML text with one document. A kind has to fit its node; a kind that is not known is
refused. The keys of a mapping are distinct. A merge key brings in the entries of other mappings:
they come first, and entries of the mapping itself override them in place; with a merge key a key
may be repeated. A set is written as a mapping, and its elements are the keys. An ordered mapping is
written as a sequence of mappings with one entry each.

Values are built from the root, level by level: a collection is there before its parts are, so that
a part may refer to it. Only a key is built with all its parts at once, since it is compared with
other keys. What is wrong with a document is reported in the order of building.
-/

namespace Pagewright.Yaml

/-- What a node was built to: a scalar with the place that tells numbers that are none apart, or
the collection of a node. -/
inductive Built where
  | scalar (s : Scalar) (place : Nat)
  | collection (id : NodeId)

instance : Inhabited Built := ⟨.scalar .null 0⟩

/-- The entries of a built mapping, each with the form of its key. -/
abbrev BuiltEntries := List (KeyForm × Key × Built)

/-- The parts of a built collection. -/
inductive Parts where
  | items (items : List Built)
  | pairs (pairs : List (Built × Built))
  | entries (entries : BuiltEntries)
  | ordered (entries : BuiltEntries)
  | elements (entries : BuiltEntries)

instance : Inhabited Parts := ⟨.items []⟩

/-- What the collection of the parts is, if it may hold itself; a set cannot. -/
def Parts.enclosure : Parts → Enclosure
  | .entries _ => .map
  | .ordered _ => .ordered
  | _ => .list

/-- The parts of a collection of a kind before any of them is built; none for a scalar. -/
def Kind.noParts? : Kind → Option Parts
  | .sequence => some (.items [])
  | .pairs => some (.pairs [])
  | .mapping => some (.entries [])
  | .orderedMapping => some (.ordered [])
  | .set => some (.elements [])
  | _ => none

/-- What building carries along: the nodes, whose merge keys are dissolved on the way, what each of
them was built to, the parts of the collections, and the collections whose parts are still to be
built, in reverse. The bound is one on the steps of dissolving the merge keys of a mapping. -/
structure BuildState where
  version : Version
  nodes : Array Node
  bound : Nat
  built : Array (Option Built)
  parts : Array Parts
  pending : List NodeId := []

/-- The number of parts of a node. -/
def nodeSize (node : Node) : Nat :=
  match node.content with
  | .scalar _ => 1
  | .sequence items => items.length + 1
  | .mapping entries => 2 * entries.length + 1

/-- The start of building. A mapping may bring in the entries of others over and over, so the
steps of dissolving its merge keys are bounded by a power of the size of the document. -/
def BuildState.start (version : Version) (nodes : Array Node) : BuildState where
  version
  nodes
  bound := Number.twoPow (2 * nodes.foldl (fun size node => size + nodeSize node) 0 + 2)
  built := Array.replicate nodes.size none
  parts := Array.replicate nodes.size default

/-- The step from one state to the next. -/
abbrev Builder := StateT BuildState (Except Fault)

namespace Builder

/-- A node. -/
def node (id : NodeId) : Builder Node := do return (← get).nodes[id]?.getD default

/-- Changes a node. -/
def changeNode (id : NodeId) (change : Node → Node) : Builder Unit :=
  modify fun s => { s with nodes := s.nodes.modify id change }

/-- Notes what a node was built to. -/
def note (id : NodeId) (built : Built) : Builder Unit :=
  modify fun s => { s with built := s.built.modify id fun _ => some built }

/-- Gives a collection its parts. -/
def setParts (id : NodeId) (parts : Parts) : Builder Unit :=
  modify fun s => { s with parts := s.parts.modify id fun _ => parts }

/-- The parts of a collection. -/
def partsOf (id : NodeId) : Builder Parts := do return (← get).parts[id]?.getD default

/-! ## Merge keys -/

/-- The entries of a mapping; none for any other node. -/
def mappingEntries? (id : NodeId) : Builder (Option (List (NodeId × NodeId))) := do
  match (← node id).content with
  | .mapping entries => return some entries
  | _ => return none

mutual

/-- Dissolves the merge keys of a mapping from an entry on, behind the entries that were brought
in. Only one merge key may bring in anything. The mark of the value key makes it a text. -/
def dissolveFrom (id : NodeId) (brought : List (NodeId × NodeId)) (index : Nat) :
    (fuel : Nat) → Builder Unit
  | 0 => throw .malformed
  | fuel + 1 => do
    let entries := (← mappingEntries? id).getD []
    match entries[index]? with
    | none =>
      if !brought.isEmpty then
        changeNode id fun node =>
          { node with merged := some brought, content := .mapping (brought ++ entries) }
    | some (key, value) =>
      match (← node key).kind with
      | .merge =>
        if !brought.isEmpty then throw .malformed
        changeNode id fun node => { node with content := .mapping (entries.eraseIdx index) }
        let more ← match (← node value).content with
          | .scalar _ => throw .malformed
          | .mapping _ => contribution fuel value
          | .sequence items => pure (← contributions fuel items).reverse.flatten
        dissolveFrom id more index fuel
      | .value =>
        changeNode key fun node => { node with kind := .text }
        dissolveFrom id brought (index + 1) fuel
      | _ => dissolveFrom id brought (index + 1) fuel

/-- The entries that a mapping brings in. -/
def contribution : (fuel : Nat) → NodeId → Builder (List (NodeId × NodeId))
  | 0, _ => throw .malformed
  | fuel + 1, id => do
    match ← mappingEntries? id with
    | none => throw .malformed
    | some _ =>
      dissolveFrom id [] 0 fuel
      return (← mappingEntries? id).getD []

/-- The entries that each of the mappings of a sequence brings in. -/
def contributions : (fuel : Nat) → List NodeId → Builder (List (List (NodeId × NodeId)))
  | 0, _ => throw .malformed
  | _ + 1, [] => return []
  | fuel + 1, id :: rest => do
    let first ← contribution fuel id
    return first :: (← contributions fuel rest)

end

/-- Dissolves the merge keys of a mapping. -/
def dissolve (id : NodeId) : Builder Unit := do dissolveFrom id [] 0 (← get).bound

/-! ## Scalars -/

/-- The text of a scalar node. A mapping stands for the scalar at its value key. -/
def scalarText : (fuel : Nat) → NodeId → Builder (List Char)
  | 0, _ => throw .malformed
  | fuel + 1, id => do
    match (← node id).content with
    | .scalar text => return text
    | .sequence _ => throw .malformed
    | .mapping entries =>
      match ← entries.findM? fun entry => return (← node entry.1).kind = .value with
      | some entry => scalarText fuel entry.2
      | none => throw .malformed

/-- The place of a number that is none: all that are written by the name are one number. -/
def nanPlace (id : NodeId) (text : List Char) : Nat :=
  if dropSign (Text.lowercase (text.filter (· ≠ '_'))) = ".nan".toList then 0 else id + 1

/-- Builds the scalar of a node of a kind. -/
def buildScalar (kind : Kind) (id : NodeId) : Builder Built := do
  if kind = .merge ∨ kind = .value ∨ kind = .unknown then throw .malformed
  let own ← node id
  let text ← match kind, own.content with
    | .timestamp, .scalar text => pure text
    | .timestamp, _ => throw .malformed
    | _, _ => scalarText ((← get).nodes.size + 1) id
  let value ← scalarValue (← get).version kind text
  return .scalar value (nanPlace id text)

/-! ## Keys -/

/-- A scalar of a key with its form. -/
abbrev KeyAtom := Scalar × ScalarForm

/-- The atom that a built node is; a collection is none. -/
def atom? : Built → Option KeyAtom
  | .scalar s place => some (s, s.formAt place)
  | .collection _ => none

/-- The key that a built node is, with its form. A list becomes a row; a mapping or a set is
refused. A row that holds a collection is no key. -/
def keyOf (built : Built) : Builder (Option (KeyOf KeyAtom)) := do
  match built with
  | .scalar s place => return some (.scalar (s, s.formAt place))
  | .collection id =>
    match ← partsOf id with
    | .entries _ | .ordered _ | .elements _ => throw .malformed
    | .items items => return (items.mapM fun item => (atom? item).map RowPart.one).map .row
    | .pairs pairs =>
      return (pairs.mapM fun (a, b) => do return RowPart.two (← atom? a) (← atom? b)).map .row

/-- Gives a value to a key. A key that is there keeps its place. -/
def putEntry (form : KeyForm) (key : Key) (value : Built) : BuiltEntries → BuiltEntries
  | [] => [(form, key, value)]
  | entry :: rest =>
    if entry.1 = form then (form, entry.2.1, value) :: rest
    else entry :: putEntry form key value rest

/-! ## Collections -/

mutual

/-- Builds a node. A collection inside a key is built with its parts; any other collection gets its
parts later. It is there before its parts, which may refer to it. -/
def build (isKey : Bool) : (fuel : Nat) → NodeId → Builder Built
  | 0, _ => throw .malformed
  | fuel + 1, id => do
    match ((← get).built[id]?).join with
    | some built => return built
    | none =>
      let kind := (← node id).kind
      match kind.noParts? with
      | some parts =>
        note id (.collection id)
        setParts id parts
        if isKey then fill true fuel id
        else modify fun s => { s with pending := id :: s.pending }
        return .collection id
      | none =>
        let built ← buildScalar kind id
        note id built
        return built

/-- Builds the parts of a collection. -/
def fill (isKey : Bool) : (fuel : Nat) → NodeId → Builder Unit
  | 0, _ => throw .malformed
  | fuel + 1, id => do
    let own ← node id
    match own.kind, own.content with
    | .sequence, .sequence items =>
      setParts id (.items (← items.mapM (build isKey fuel)))
    | .pairs, .sequence items =>
      let pairs ← items.mapM fun item => do
        match (← node item).content with
        | .mapping [(key, value)] => return (← build isKey fuel key, ← build isKey fuel value)
        | _ => throw .malformed
      setParts id (.pairs pairs)
    | .mapping, .mapping _ => setParts id (.entries (← buildMapping isKey fuel id))
    | .set, .mapping _ => setParts id (.elements (← buildMapping isKey fuel id))
    | .orderedMapping, .sequence items =>
      setParts id (.ordered (← buildOrdered isKey fuel [] items))
    | _, _ => throw .malformed

/-- Builds the entries of a mapping, those that were brought in first. -/
def buildMapping (isKey : Bool) : (fuel : Nat) → NodeId → Builder BuiltEntries
  | 0, _ => throw .malformed
  | fuel + 1, id => do
    dissolve id
    let own ← node id
    let entries := (← mappingEntries? id).getD []
    match own.merged with
    | none => buildEntries isKey fuel true [] entries
    | some merged =>
      let brought ← buildEntries isKey fuel false [] merged
      buildEntries isKey fuel false brought entries

/-- Builds the entries of an ordered mapping behind those that are built. A collection is no key,
not even as a row, and no key may be there already. -/
def buildOrdered (isKey : Bool) : (fuel : Nat) → BuiltEntries → List NodeId →
    Builder BuiltEntries
  | 0, _, _ => throw .malformed
  | fuel + 1, before, items =>
    items.foldlM (fun before item => do
      match (← node item).content with
      | .mapping [(key, value)] =>
        match atom? (← build isKey fuel key) with
        | none => throw .unusableKey
        | some (scalar, form) =>
          if before.any (fun entry => entry.1 = .scalar form) then throw .repeatedKey
          return before ++ [(.scalar form, .scalar scalar, ← build isKey fuel value)]
      | _ => throw .malformed) before

/-- Builds the entries of a mapping behind those that are built. A key that is there is refused if
keys have to be distinct. -/
def buildEntries (isKey : Bool) : (fuel : Nat) → (areDistinct : Bool) → BuiltEntries →
    List (NodeId × NodeId) → Builder BuiltEntries
  | 0, _, _, _ => throw .malformed
  | fuel + 1, areDistinct, before, entries =>
    entries.foldlM (fun before entry => do
      let key ← keyOf (← build true fuel entry.1)
      let value ← build isKey fuel entry.2
      match key with
      | none => throw .unusableKey
      | some key =>
        let form : KeyForm := key.map Prod.snd
        if areDistinct && before.any (fun entry => entry.1 = form) then throw .malformed
        return putEntry form (key.map Prod.fst) value before) before

end

/-- Builds the parts of the collections that wait for them, level by level. -/
def finish : (fuel : Nat) → Builder Unit
  | 0 => throw .malformed
  | fuel + 1 => do
    let s ← get
    if s.pending.isEmpty then return ()
    set { s with pending := [] }
    s.pending.reverse.forM (fill false (4 * s.nodes.size + 5))
    finish fuel

/-- Builds the root of a document with everything below it. -/
def document (root : NodeId) : Builder Built := do
  let size := (← get).nodes.size
  let built ← build false (4 * size + 5) root
  finish (size + 2)
  return built

end Builder

/-! ## Values -/

mutual

/-- The value of a built node inside collections, and those of them that it holds. -/
def valueOf (parts : Array Parts) : (fuel : Nat) → (around : List NodeId) → Built →
    Value × List NodeId
  | 0, _, _ => (.null, [])
  | _ + 1, _, .scalar s _ => (.scalar s, [])
  | fuel + 1, around, .collection id =>
    let own := parts[id]?.getD default
    if around.contains id then (.within id own.enclosure, [id])
    else
      let (body, held) := partsValue parts fuel (id :: around) own
      if held.isEmpty then (body, []) else (.loop id body, held.filter (· ≠ id))

/-- The value of the parts of a collection, and the collections around them that they hold. -/
def partsValue (parts : Array Parts) : (fuel : Nat) → (around : List NodeId) → Parts →
    Value × List NodeId
  | 0, _, _ => (.null, [])
  | fuel + 1, around, .items items =>
    let values := items.map (valueOf parts fuel around)
    (.list (values.map Prod.fst), values.flatMap Prod.snd)
  | fuel + 1, around, .pairs pairs =>
    let values := pairs.map fun pair =>
      (valueOf parts fuel around pair.1, valueOf parts fuel around pair.2)
    (.list (values.map fun pair => .row [pair.1.1, pair.2.1]),
      values.flatMap fun pair => pair.1.2 ++ pair.2.2)
  | fuel + 1, around, .entries entries =>
    let values := entriesValue parts fuel around entries
    (.map (values.map fun entry => (entry.1, entry.2.1)), values.flatMap fun entry => entry.2.2)
  | fuel + 1, around, .ordered entries =>
    let values := entriesValue parts fuel around entries
    (.ordered (values.map fun entry => (entry.1, entry.2.1)),
      values.flatMap fun entry => entry.2.2)
  | _ + 1, _, .elements entries => (.set (entries.map fun entry => entry.2.1), [])

/-- The values of the entries of a mapping, each with the collections around it that it holds. -/
def entriesValue (parts : Array Parts) : (fuel : Nat) → (around : List NodeId) → BuiltEntries →
    List (Key × Value × List NodeId)
  | 0, _, _ => []
  | fuel + 1, around, entries =>
    entries.map fun entry => (entry.2.1, valueOf parts fuel around entry.2.2)

end

/-- The value of a YAML text; a text without a document has no value. -/
def read (s : List Char) : Except Fault Value := do
  let scan ← Scan.start s
  let (root, state) ← (NodeReader.document (16 * s.length + 16)).run { scan }
  match root with
  | none => return .null
  | some root =>
    let start := BuildState.start state.scan.version state.nodes
    let (built, state) ← (Builder.document root).run start
    return (valueOf state.parts (3 * state.nodes.size + 3) [] built).1

end Pagewright.Yaml
