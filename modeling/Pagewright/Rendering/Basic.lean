import Pagewright.Rendering.Expansion

/-!
# Rendering an expansion

An expansion is laid out from the inside: the zones of a node before the node. Dropped and cut
nodes take no part in the markup; each of them leaves a notice, in the order in which they are
met, up to the first node that cannot be laid out.
-/

namespace Pagewright

open Pagewright.Text

/-- How much a notice matters. -/
inductive Level where
  | debug
  | warning
deriving DecidableEq

/-- The name of a level. -/
def Level.name : Level → String
  | .debug => "DEBUG"
  | .warning => "WARNING"

/-- A remark about what was left out. -/
structure Notice where
  level : Level
  text : String
deriving DecidableEq

/-- The notice of a node that the target has no rule for. -/
def unsupportedNotice (target : String) (node : Node) : Notice where
  level := .debug
  text := "Skipping node " ++ node.id.toText ++ ": target " ++ target ++
    " has no rule for type " ++ String.ofList (spell node.type.toList)

/-- The notice of a node that is inside itself. -/
def cutNotice (page : String) (node : Node) : Notice where
  level := .warning
  text := "Skipping node " ++ node.id.toText ++ " on page " ++ page ++ ": it contains itself"

/-- Why a node cannot be rendered. -/
inductive RenderFault where
  | node (fault : VisitFault)
  | layout (fault : LayoutFault)
deriving DecidableEq

mutual

/-- The markup of an item, if anything is rendered. -/
def Item.layout : Item → Except RenderFault (List Markup)
  | .rendered node layout props zones => do
    let bodies ← layoutZones zones
    let markup ← (layout node props bodies).mapError .layout
    return [markup]
  | .unsupported _ => .ok []
  | .cut _ => .ok []
  | .failed _ fault => .error (.node fault)

/-- The markup of a sequence of items. -/
def layoutItems : List Item → Except RenderFault (List Markup)
  | [] => .ok []
  | item :: rest => do
    let first ← item.layout
    let more ← layoutItems rest
    return first ++ more

/-- The markup of each zone. -/
def layoutZones : List (List Item) → Except RenderFault (List (List Markup))
  | [] => .ok []
  | zone :: rest => do
    let first ← layoutItems zone
    let more ← layoutZones rest
    return first :: more

end

mutual

/-- The notices of an item. -/
def Item.notices (profile : Profile) (page : String) : Item → List Notice
  | .rendered _ _ _ zones => zoneNotices profile page zones
  | .unsupported node => [unsupportedNotice profile.name node]
  | .cut node => [cutNotice page node]
  | .failed _ _ => []

/-- The notices of a sequence of items, up to the first that cannot be laid out. -/
def itemNotices (profile : Profile) (page : String) : List Item → List Notice
  | [] => []
  | item :: rest =>
    item.notices profile page ++
      if item.layout.isOk then itemNotices profile page rest else []

/-- The notices of zones in order, up to the first node that cannot be laid out. -/
def zoneNotices (profile : Profile) (page : String) : List (List Item) → List Notice
  | [] => []
  | zone :: rest =>
    itemNotices profile page zone ++
      if (layoutItems zone).isOk then zoneNotices profile page rest else []

end

end Pagewright
