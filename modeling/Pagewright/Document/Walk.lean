import Pagewright.Distinct
import Pagewright.Document.Basic

/-!
# Walking a page

The walk visits the nodes of a page in depth-first order, from the top through every zone that a
visited node owns. An id is visited once, which also ends the walk on zones that lead back to
their owners. The measure of the walk is the list of ids that it has not met yet.

`walk` visits every node. `collectTypes` visits the nodes that a target supports and lists the
types it meets, each with the types that come with it. A stored zone that no visited node owns is
orphaned.

A node whose id is unusable is met and goes no further, and neither does the walk: `visitFault?`
is the first thing that stops it.
-/

namespace Pagewright

/-- What stops a walk at a node. -/
inductive VisitFault where
  | unusableId
  | entries (fault : EntryFault)
deriving DecidableEq

namespace Page

/-- The forms of the ids that are stored on a page. -/
def storedForms (page : Page) : List ScalarForm := page.stored.filterMap Node.form?

/-- Visits nodes in order, and after each node the nodes of its zones. A node outside `keep` is
passed over and leaves its id unmet. -/
def visit (page : Page) (catalogue : Catalogue) (keep : String → Bool)
    (unmet : List ScalarForm) (todo : List Node) : List Node :=
  match todo with
  | [] => []
  | node :: rest =>
    match node.form? with
    | none => node :: page.visit catalogue keep unmet rest
    | some form =>
      if _h : form ∈ unmet ∧ keep node.type then
        node :: page.visit catalogue keep (strike form unmet)
          ((page.childZones catalogue node).flatMap Prod.snd ++ rest)
      else page.visit catalogue keep unmet rest
termination_by (unmet.length, todo.length)
decreasing_by
  · exact Prod.Lex.right _ (by simp)
  · exact Prod.Lex.left _ _ (length_strike_lt _h.1)
  · exact Prod.Lex.right _ (by simp)

/-- The visit of a page from its top. -/
def visitAll (page : Page) (catalogue : Catalogue) (keep : String → Bool) : List Node :=
  page.visit catalogue keep page.storedForms page.content

/-- The zones that a node owns on a page, if its props conform. -/
def openZones (page : Page) (catalogue : Catalogue) (node : Node) :
    Except EntryFault (List (String × List Node)) :=
  (catalogue.zoneFault? node.type node.props).elim (.ok (page.childZones catalogue node)) .error

/-- What stops a walk at a node, if anything does. -/
def nodeFault? (catalogue : Catalogue) (node : Node) : Option VisitFault :=
  match node.form? with
  | none => some .unusableId
  | some _ => (catalogue.zoneFault? node.type node.props).map .entries

/-- The first thing that stops the visit of a page. -/
def visitFault? (page : Page) (catalogue : Catalogue) (keep : String → Bool) : Option VisitFault :=
  (page.visitAll catalogue keep).findSome? (nodeFault? catalogue)

/-- Refuses a page whose visit is stopped. -/
def checkVisit (page : Page) (catalogue : Catalogue) (keep : String → Bool) :
    Except VisitFault Unit :=
  (page.visitFault? catalogue keep).elim (.ok ()) .error

/-- The nodes reachable from the top of a page, one for each id, in depth-first order. -/
def walk (page : Page) (catalogue : Catalogue) : List Node :=
  page.visitAll catalogue fun _ => true

/-- The addresses of the zones that a node owns. -/
def ownedKeys (catalogue : Catalogue) (node : Node) : List String :=
  (catalogue.zoneNames node.type node.props).map (zoneKey node.id.toText)

/-- The addresses of the zones that reachable nodes own. -/
def reachableZones (page : Page) (catalogue : Catalogue) : List String :=
  firstOccurrences ((page.walk catalogue).flatMap (ownedKeys catalogue))

/-- The stored addresses that no reachable node owns, in stored order. -/
def orphanedZones (page : Page) (catalogue : Catalogue) : List String :=
  (page.zones.map Prod.fst).filter fun key => !(page.reachableZones catalogue).contains key

/-- The types of the nodes that are reachable through supported nodes, each followed by the types
that come with it, at their first places. -/
def collectTypes (page : Page) (catalogue : Catalogue) (supports : String → Bool) : List String :=
  firstOccurrences
    ((page.visitAll catalogue supports).flatMap fun node =>
      node.type :: catalogue.companions node.type)

end Page

end Pagewright
