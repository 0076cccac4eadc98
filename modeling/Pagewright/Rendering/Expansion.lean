import Pagewright.Document.Walk
import Pagewright.Profile.Basic

/-!
# Expanding a page

The expansion follows every path from a list of nodes through the zones they own. Of each node it
says what becomes of it: a node that the target has no rule for is dropped, a node inside a node
of its own id is cut, and any other node is rendered with the expansion of each of its zones. A
node in several zones is rendered in each of them. A node with an unusable id, or whose props do
not conform, fails.

The ids that may still be entered are the measure: entering a node strikes its id, so no chain of
nested nodes is longer than the number of stored ids.
-/

namespace Pagewright

/-- What becomes of a node. -/
inductive Item where
  | rendered (node : Node) (layout : Layout) (props : Props) (zones : List (List Item))
  | unsupported (node : Node)
  | cut (node : Node)
  | failed (node : Node) (fault : VisitFault)

/-- The expansion of nodes in order, where only nodes of the `enterable` ids may be entered. -/
def Page.expandWith (page : Page) (catalogue : Catalogue) (profile : Profile)
    (enterable : List ScalarForm) (nodes : List Node) : List Item :=
  match nodes with
  | [] => []
  | node :: rest =>
    let item := match profile.rule? node.type, node.form? with
      | none, _ => .unsupported node
      | some _, none => .failed node .unusableId
      | some layout, some form =>
        if _h : form ∈ enterable then
          match catalogue.openFault? node.type node.props with
          | some fault => .failed node (.entries fault)
          | none =>
            let props := catalogue.resolve node.type node.props
            .rendered node layout props
              ((catalogue.zoneNames node.type props).map fun name =>
                page.expandWith catalogue profile (strike form enterable)
                  (page.zone node.id.toText name))
        else .cut node
    item :: page.expandWith catalogue profile enterable rest
termination_by (enterable.length, nodes.length)
decreasing_by
  · exact Prod.Lex.left _ _ (length_strike_lt _h)
  · exact Prod.Lex.right _ (by simp)

/-- The expansion of nodes at the top of a page. -/
def Page.expand (page : Page) (catalogue : Catalogue) (profile : Profile)
    (nodes : List Node) : List Item :=
  page.expandWith catalogue profile (nodes.filterMap Node.form? ++ page.storedForms) nodes

end Pagewright
