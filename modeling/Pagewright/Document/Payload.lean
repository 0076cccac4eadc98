import Pagewright.Document.Basic

/-!
# Documents from decoded values

An editor hands over a document as a value: a list of pages, or a mapping that has the list under
`pages`. A page is a mapping that holds its settings, its nodes and its zones, either directly or
in a mapping under `data`. The parts are read in the order in which they stand on a page, and the
first part of a wrong shape is reported by its place.

A node without an id of its own gets one that is made of its place, so the zones it owns stay
addressable.
-/

namespace Pagewright

/-- Why a value is not a document. -/
inductive PayloadFault where
  | notDocument
  | noPages
  | page (index : Nat)
  | settings (page : String)
  | zones (page : String)
  | nodes (place : String)
  | node (index : Nat) (place : String)
  | type (place : String)
  | props (place : String)
  | missingSetting (name : String)
  | entries (fault : EntryFault)
deriving DecidableEq

/-- The report of a fault. -/
def PayloadFault.message : PayloadFault → String
  | .notDocument => "Top-level document structure must be a mapping or a list."
  | .noPages => "No pages defined in document."
  | .page index => "Page #" ++ toString index ++ " must be a mapping."
  | .settings id => "Page '" ++ id ++ "' root props must be a mapping."
  | .zones id => "Page '" ++ id ++ "' zones must be a mapping."
  | .nodes place => "Zone '" ++ place ++ "' must be a list of nodes."
  | .node index place =>
    "Node #" ++ toString index ++ " in zone '" ++ place ++ "' must be a mapping."
  | .type place => "Node at '" ++ place ++ "' is missing a 'type'."
  | .props place => "Node at '" ++ place ++ "' props must be a mapping."
  | .missingSetting name => name
  | .entries _ => "A default does not fit its field."

/-- Does the value name a node? The absent value and the empty text do not. -/
def Value.isId : Value → Bool
  | .null => false
  | .text s => !s.isEmpty
  | _ => true

/-- The id that a node gives itself: in its props, directly, or in its editor state. -/
def givenId? (item props : Props) : Option String :=
  let state := (item.get "readOnly").entries?.elim .null fun state => state.get "puckId"
  ([props.get "id", item.get "id", state].find? Value.isId).map Value.toText

/-- The entries other than the one of a name. -/
def Props.without (props : Props) (name : String) : Props :=
  props.filter fun entry => !entry.1.same (.text name)

/-- The node that a mapping describes. -/
def Node.ofPayload (catalogue : Catalogue) (place : String) (item : Props) :
    Except PayloadFault Node := do
  match item.get "type" with
  | .text type =>
    if type.isEmpty then throw (.type place)
    match (item.get "props").mapping? with
    | none => throw (.props place)
    | some given =>
      let props := given.without "id"
      match catalogue.resolveFault? type props with
      | some fault => throw (.entries fault)
      | none =>
        return {
          id := .text ((givenId? item given).getD ("node@" ++ place))
          type
          props := catalogue.resolve type props }
  | _ => throw (.type place)

/-- The nodes that the items of a list describe, from an index on. -/
def nodesFrom (catalogue : Catalogue) (place : String) :
    (index : Nat) → List Value → Except PayloadFault (List Node)
  | _, [] => .ok []
  | index, item :: rest => do
    match item.entries? with
    | some entries =>
      let node ← Node.ofPayload catalogue (place ++ "/" ++ toString index) entries
      return node :: (← nodesFrom catalogue place (index + 1) rest)
    | none => throw (.node index place)

/-- The nodes that a value describes; an absent list is empty. -/
def nodesOfPayload (catalogue : Catalogue) (place : String) :
    Value → Except PayloadFault (List Node)
  | .null => .ok []
  | v => v.items?.elim (.error (.nodes place)) (nodesFrom catalogue place 0)

/-- Gives nodes to a zone. A zone that is there keeps its place. -/
def storeZone {α : Type} (key : String) (nodes : α) : List (String × α) → List (String × α)
  | [] => [(key, nodes)]
  | zone :: rest =>
    if zone.1 = key then (key, nodes) :: rest else zone :: storeZone key nodes rest

/-- The zones that entries describe, behind those that are read. -/
def zonesFrom (catalogue : Catalogue) (read : List (String × List Node)) :
    Props → Except PayloadFault (List (String × List Node))
  | [] => .ok read
  | (key, value) :: rest => do
    let nodes ← nodesOfPayload catalogue key.toText value
    zonesFrom catalogue (storeZone key.toText nodes read) rest

/-- The settings that a page gives: directly, or in a mapping under `props`. -/
def settingsPayload (root : Value) : Option Props :=
  root.mapping?.map fun root => (root.get "props").entries?.getD root

/-- The page that a mapping describes. -/
def Page.ofPayload (catalogue : Catalogue) (index : Nat) (entry : Props) :
    Except PayloadFault Page := do
  let given := entry.get "id"
  let id := if given.isVoid then "page-" ++ toString index else given.toText
  let body := (entry.get "data").entries?.getD entry
  match settingsPayload (body.get "root") with
  | none => throw (.settings id)
  | some settings =>
    let content ← nodesOfPayload catalogue (id ++ ":content") (body.get "content")
    match (body.get "zones").mapping? with
    | none => throw (.zones id)
    | some zones =>
      let zones ← zonesFrom catalogue [] zones
      if let some fault := catalogue.root.fault? settings then throw (.entries fault)
      let settings ← (PageSettings.ofProps (catalogue.resolveRoot settings)).mapError
        .missingSetting
      return { id, settings, content, zones }

/-- The pages that values describe, from an index on. -/
def pagesFrom (catalogue : Catalogue) :
    (index : Nat) → List Value → Except PayloadFault (List Page)
  | _, [] => .ok []
  | index, value :: rest => do
    match value.entries? with
    | some entry =>
      let page ← Page.ofPayload catalogue index entry
      return page :: (← pagesFrom catalogue (index + 1) rest)
    | none => throw (.page index)

/-- The list of pages that a value holds. -/
def pageList (payload : Value) : Except PayloadFault (List Value) :=
  match payload.items? with
  | some pages => .ok pages
  | none => match payload.entries? with
    | some entries => (entries.get "pages").items?.elim (.error .noPages) .ok
    | none => .error .notDocument

/-- The document that a value describes. -/
def Document.ofPayload (catalogue : Catalogue) (payload : Value) :
    Except PayloadFault Document := do
  let pages ← pagesFrom catalogue 0 (← pageList payload)
  (Document.ofPages pages).mapError fun _ => .noPages

end Pagewright
