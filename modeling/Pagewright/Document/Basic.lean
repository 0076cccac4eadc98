import Pagewright.Catalogue.Basic
import Pagewright.Value.Display

/-!
# Pages and documents

A page holds its settings, a list of nodes at the top, and further lists of nodes in zones. A zone
is addressed by the id of the node that owns it and the name it has there; a zone that is not
stored is empty. A document is a list of pages that is never empty.

A node may stand at several places, so a document numbers its nodes. The number stays with a node
wherever it is placed, and tells it from every other node, also from those of its id.
-/

namespace Pagewright

/-- A component on a page. Its id addresses the zones it owns. -/
structure Node where
  id : Value
  type : String
  props : Props := []
  serial : Nat := 0

/-- What a node is known by: the form of its id. A list or a mapping is no usable id, and a number
that is none sets the node apart from all others. -/
def Node.form? (node : Node) : Option ScalarForm :=
  match node.id with
  | .scalar s => some (s.formAt node.serial)
  | _ => none

/-- The settings of a page. -/
structure PageSettings where
  title : Value := .text "Home"
  route : Value := .text "/"
  canvasColor : Value := .text "#ffffff"
  maxWidth : Value := .text "max-w-6xl"

/-- A page of components. -/
structure Page where
  id : String
  settings : PageSettings := {}
  content : List Node := []
  zones : List (String × List Node) := []

/-- The address of a zone. -/
def zoneKey (owner zone : String) : String := owner ++ ":" ++ zone

/-- The settings that named props give, or the first name that is missing. -/
def PageSettings.ofProps (props : Props) : Except String PageSettings := do
  let prop (name : String) : Except String Value := (props.get? name).elim (.error name) .ok
  return {
    title := ← prop "pageTitle"
    route := ← prop "pageRoute"
    canvasColor := ← prop "canvasColor"
    maxWidth := ← prop "maxWidth" }

namespace Page

/-- The nodes stored under an address. -/
def zoneAt (page : Page) (key : String) : List Node := (page.zones.lookup key).getD []

/-- The nodes of a zone. -/
def zone (page : Page) (owner zone : String) : List Node := page.zoneAt (zoneKey owner zone)

/-- All stored nodes: those at the top, and those of each zone in stored order. -/
def stored (page : Page) : List Node := page.content ++ page.zones.flatMap Prod.snd

/-- The page with other nodes at the same places. -/
def mapNodes (f : Node → Node) (page : Page) : Page :=
  { page with
    content := page.content.map f
    zones := page.zones.map fun zone => (zone.1, zone.2.map f) }

/-- The zones that a node owns on a page, with the nodes in them. -/
def childZones (page : Page) (catalogue : Catalogue) (node : Node) : List (String × List Node) :=
  (catalogue.zoneNames node.type node.props).map fun name =>
    (name, page.zone node.id.toText name)

end Page

/-! ## Numbers of nodes -/

/-- Numbers nodes in order. -/
def numberNodes (first : Nat) (nodes : List Node) : List Node :=
  (nodes.zipIdx first).map fun entry => { entry.1 with serial := entry.2 }

/-- Numbers the nodes of zones in order. -/
def numberZones (first : Nat) : List (String × List Node) → List (String × List Node)
  | [] => []
  | (key, nodes) :: rest =>
    (key, numberNodes first nodes) :: numberZones (first + nodes.length) rest

/-- Numbers the nodes of a page in stored order. -/
def Page.number (first : Nat) (page : Page) : Page :=
  { page with
    content := numberNodes first page.content
    zones := numberZones (first + page.content.length) page.zones }

/-- Numbers the nodes of pages in order. -/
def numberPages (first : Nat) : List Page → List Page
  | [] => []
  | page :: rest => page.number first :: numberPages (first + page.stored.length) rest

/-! ## Documents -/

/-- A list of pages, at least one. -/
structure Document where
  pages : List Page
  nonempty : pages ≠ []

/-- What a change to a document can meet. -/
inductive DocumentFault where
  | noPages
  | unknownPage (id : String) (known : List String)
  | lastPage
deriving DecidableEq

/-- The report of a fault. -/
def DocumentFault.message : DocumentFault → String
  | .noPages => "A document must contain at least one page."
  | .unknownPage id known =>
    "Unknown page '" ++ id ++ "'. Known pages: " ++ ", ".intercalate known
  | .lastPage => "Cannot delete the last page."

namespace Document

/-- The document of the given pages. -/
def ofPages : List Page → Except DocumentFault Document
  | [] => .error .noPages
  | page :: rest => .ok ⟨numberPages 0 (page :: rest), List.cons_ne_nil _ _⟩

/-- All stored nodes in order. -/
def stored (document : Document) : List Node := document.pages.flatMap Page.stored

/-- The document of a new site: one empty page. -/
def new : Document := ⟨[{ id := "home" }], List.cons_ne_nil _ _⟩

/-- The first page. -/
def firstPage (document : Document) : Page := document.pages.head document.nonempty

/-- The first page with an id. -/
def page (document : Document) (id : String) : Except DocumentFault (Page) :=
  match document.pages.find? (fun page => page.id == id) with
  | some page => .ok page
  | none => .error (.unknownPage id (document.pages.map Page.id))

/-- Appends an empty page. -/
def addPage (document : Document) (id : String) (title : Value := .text "New Page")
    (route : Value := .text "/new-page") : Document where
  pages := document.pages ++ [{ id, settings := { title, route } }]
  nonempty := by simp

/-- The pages without the first one of an id. -/
def without (id : String) (pages : List (Page)) : List (Page) :=
  pages.eraseP (fun page => page.id == id)

/-- Removes the first page with an id; the last page stays. -/
def removePage (document : Document) (id : String) :
    Except DocumentFault (Page × Document) := do
  let page ← document.page id
  match without id document.pages with
  | [] => .error .lastPage
  | first :: rest => .ok (page, ⟨first :: rest, List.cons_ne_nil first rest⟩)

/-- The document with other nodes at the same places. -/
def mapNodes (f : Node → Node) (document : Document) : Document where
  pages := document.pages.map (Page.mapNodes f)
  nonempty := by simpa using document.nonempty

/-- Changes the first page of a list that has the id. -/
def changeFirst (id : String) (change : Page → Page) : List (Page) → List (Page)
  | [] => []
  | page :: rest =>
    if page.id == id then change page :: rest else page :: changeFirst id change rest

/-- Changes the first page with an id. -/
def changePage (document : Document) (id : String) (change : Page → Page) :
    Document where
  pages := changeFirst id change document.pages
  nonempty := by
    cases h : document.pages with
    | nil => exact absurd h document.nonempty
    | cons page rest => unfold changeFirst; split <;> simp

end Document

end Pagewright
