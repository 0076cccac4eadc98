import Pagewright.Document.Basic
import Pagewright.Layout.Bootstrap
import Pagewright.Layout.Shadcn

/-!
# Layouts

A layout turns a node into markup. It is given the node, its resolved props, and the markup of each
of its zones, and any function of these is one. The bundled frameworks lay out nine components;
`Layout.ofText` makes a layout of a template that writes text around the texts of the zones.
-/

namespace Pagewright

/-- A way to lay out nodes, from a node, its resolved props and the markup of each of its zones. -/
abbrev Layout := Node → Props → List (List Markup) → Except LayoutFault Markup

/-- The layout that a template of texts makes. -/
def Layout.ofText (template : Node → Props → List (List Char) → Except LayoutFault (List Char)) :
    Layout :=
  fun node props zones => (template node props (zones.map markupText)).map Markup.verbatim

/-- A component that the bundled frameworks lay out. -/
inductive Component where
  | grid
  | card
  | button
  | badge
  | separator
  | alert
  | progress
  | input
  | accordion
deriving DecidableEq

/-- A bundled output framework. -/
inductive Framework where
  | shadcn
  | bootstrap
deriving DecidableEq

/-- The layout of a component in a framework. -/
def Framework.layout (framework : Framework) (component : Component) : Layout :=
  fun node props zones => match framework, component with
    | .shadcn, .grid => Shadcn.grid props zones
    | .shadcn, .card => Shadcn.card props
    | .shadcn, .button => Shadcn.button props
    | .shadcn, .badge => Shadcn.badge props
    | .shadcn, .separator => Shadcn.separator props
    | .shadcn, .alert => Shadcn.alert props
    | .shadcn, .progress => Shadcn.progress props
    | .shadcn, .input => Shadcn.input props
    | .shadcn, .accordion => Shadcn.accordion props
    | .bootstrap, .grid => Bootstrap.grid props zones
    | .bootstrap, .card => Bootstrap.card props
    | .bootstrap, .button => Bootstrap.button props
    | .bootstrap, .badge => Bootstrap.badge props
    | .bootstrap, .separator => Bootstrap.separator props
    | .bootstrap, .alert => Bootstrap.alert props
    | .bootstrap, .progress => Bootstrap.progress props
    | .bootstrap, .input => Bootstrap.input props
    | .bootstrap, .accordion => Bootstrap.accordion node.id props

/-- The components that both frameworks lay out, by type. -/
def bundledRules : List (String × Component) :=
  [("Section", .grid), ("Card", .card), ("Button", .button), ("Badge", .badge),
   ("Separator", .separator), ("Alert", .alert), ("Progress", .progress), ("Input", .input),
   ("Accordion", .accordion)]

/-- The layouts of a framework, by type. -/
def Framework.rules (framework : Framework) : List (String × Layout) :=
  bundledRules.map fun rule => (rule.1, framework.layout rule.2)

end Pagewright
