import Pagewright.Catalogue.Given
import Pagewright.Editor.Basic
import Pagewright.Text.Case

/-!
# Edits

Every edit names the page that it changes; an edit of a node names the node, which is searched at
the top of the page and then in its zones. An edit that does not find its page or its node changes
nothing.

A list of nodes is the top of a page or one of its zones. A zone that is not there yet is opened
behind the others. A place in a list is counted from the front, or from the end when it is
negative; a place outside the list is its nearer end.
-/

namespace Pagewright

open Pagewright.Text

/-- Why an edit fails. -/
inductive EditFault where
  | page (fault : DocumentFault)
  | removal (fault : DocumentFault)
  | noNode (id : String)
  | missingSetting (name : String)
  | props (fault : GivenFault)
deriving DecidableEq

/-- The report of a fault. -/
def EditFault.message : EditFault → String
  | .page fault => fault.message
  | .removal fault => fault.message
  | .noNode id => "no node " ++ id
  | .missingSetting name => name
  | .props _ => "The props do not fit."

/-- Inserts into a list at a place; at the end without one. -/
def insertPlace {α : Type} (place : Option Int) (x : α) (xs : List α) : List α :=
  match place with
  | none => xs ++ [x]
  | some i =>
    let index := if i < 0 then ((xs.length : Int) + i).toNat else min i.toNat xs.length
    xs.insertIdx index x

namespace Page

/-- The nodes of a list of a page: of a zone, or at the top. -/
def nodesAt (page : Page) : Option String → List Node
  | none => page.content
  | some key => page.zoneAt key

/-- Gives nodes to a list of a page. -/
def setNodes (page : Page) (zone : Option String) (nodes : List Node) : Page :=
  match zone with
  | none => { page with content := nodes }
  | some key => { page with zones := storeZone key nodes page.zones }

/-- Keeps some of the nodes of a page. -/
def filterNodes (keep : Node → Bool) (page : Page) : Page :=
  { page with
    content := page.content.filter keep
    zones := page.zones.map fun zone => (zone.1, zone.2.filter keep) }

/-- Removes a node wherever it is placed. -/
def clear (page : Page) (node : Node) : Page :=
  page.filterNodes fun placed => placed.serial != node.serial

/-- Removes a zone. -/
def dropZone (page : Page) (key : String) : Page :=
  { page with zones := page.zones.filter fun zone => zone.1 != key }

/-- The first node of a page with an id, at the top or in a zone. -/
def node? (page : Page) (id : Value) : Option Node :=
  page.stored.find? fun node => node.id.same id

/-- The first node of a page with an id, or the report that there is none. -/
def node (page : Page) (id : Value) : Except EditFault Node :=
  (page.node? id).elim (.error (.noNode id.toText)) .ok

end Page

namespace Editor

/-- The page of an id. -/
def page (editor : Editor) (id : String) : Except EditFault Page :=
  (editor.document.page id).mapError .page

/-- The first node with an id on a page. -/
def node (editor : Editor) (page : String) (id : Value) : Except EditFault Node := do
  (← editor.page page).node id

/-- Changes a page. -/
def changePage (editor : Editor) (id : String) (change : Page → Page) : Editor :=
  { editor with document := editor.document.changePage id change }

/-- Appends a page. Without an id it gets one that is made up. -/
def addPage (editor : Editor) (id : Option String) (settings : PageSettings) : Page × Editor :=
  let madeUp := if id.isSome then editor.madeUp else editor.madeUp + 1
  let id := id.getD ("page-#" ++ toString madeUp)
  ({ id, settings },
    { editor with document := editor.document.addPage id settings.title settings.route, madeUp })

/-- Removes a page; the last page stays. -/
def removePage (editor : Editor) (id : String) : Except EditFault (Page × Editor) := do
  let (page, document) ← (editor.document.removePage id).mapError .removal
  return (page, { editor with document })

/-- Gives settings to a page. -/
def setSettings (editor : Editor) (page : String) (settings : PageSettings) : Editor :=
  editor.changePage page fun page => { page with settings }

/-- Changes the settings of a page. -/
def changeSettings (editor : Editor) (page : String) (change : PageSettings → PageSettings) :
    Except EditFault (PageSettings × Editor) := do
  let settings := change (← editor.page page).settings
  return (settings, editor.setSettings page settings)

/-- Gives a page the settings that named props describe. -/
def settingsFrom (editor : Editor) (catalogue : Catalogue) (page : String) (given : Value) :
    Except EditFault (PageSettings × Editor) := do
  let _ ← editor.page page
  let props ← (catalogue.root.conformGiven given).mapError .props
  let settings ← (PageSettings.ofProps props).mapError .missingSetting
  return (settings, editor.setSettings page settings)

/-- Puts a new node into a list of a page. Without an id it gets one that is made up from its
type. -/
def create (editor : Editor) (catalogue : Catalogue) (page : String) (type : String)
    (given : Value) (id : Option Value) (zone : Option String) (place : Option Int) :
    Except EditFault (Node × Editor) := do
  let _ ← editor.page page
  let props ← (catalogue.resolveGiven type given).mapError .props
  let madeUp := if id.isSome then editor.madeUp else editor.madeUp + 1
  let id := id.getD
    (.text (String.ofList (lowercase type.toList) ++ "-#" ++ toString madeUp))
  let node : Node := { id, type, props, serial := editor.nextSerial }
  let changed := editor.changePage page fun page =>
    page.setNodes zone (insertPlace place node (page.nodesAt zone))
  return (node, { changed with nextSerial := editor.nextSerial + 1, madeUp })

/-- Removes a node wherever it is placed, and puts it into a list. The nodes of the list are
given back. -/
def move (editor : Editor) (page : String) (id : Value) (zone : Option String)
    (place : Option Int) : Except EditFault (List Node × Editor) := do
  let before ← editor.page page
  let found ← before.node id
  let cleared := before.clear found
  let nodes := insertPlace place found (cleared.nodesAt zone)
  return (nodes, editor.changePage page fun _ => cleared.setNodes zone nodes)

/-- Shows a node at one more place, at the end of a list. -/
def link (editor : Editor) (page : String) (id : Value) (zone : Option String) :
    Except EditFault (List Node × Editor) := do
  let before ← editor.page page
  let nodes := before.nodesAt zone ++ [← before.node id]
  return (nodes, editor.changePage page fun _ => before.setNodes zone nodes)

/-- Removes a node wherever it is placed. -/
def delete (editor : Editor) (page : String) (id : Value) : Except EditFault (Node × Editor) := do
  let before ← editor.page page
  let found ← before.node id
  return (found, editor.changePage page fun _ => before.clear found)

/-- Gives a value to a prop of a node, wherever the node is placed. -/
def setProp (editor : Editor) (page : String) (id : Value) (key : Key) (value : Value) :
    Except EditFault (Props × Editor) := do
  let found ← editor.node page id
  let props := found.props.insert key value
  let change (node : Node) : Node :=
    if node.serial = found.serial then { node with props } else node
  return (props, { editor with document := editor.document.mapNodes change })

/-- Removes a zone of a page with the nodes in it. -/
def dropZone (editor : Editor) (page : String) (key : String) :
    Except EditFault (List Node × Editor) := do
  let before ← editor.page page
  return (before.zoneAt key, editor.changePage page fun page => page.dropZone key)

end Editor

end Pagewright
