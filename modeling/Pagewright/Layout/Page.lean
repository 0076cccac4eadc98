import Pagewright.Layout.Basic
import Pagewright.Profile.Import

/-!
# The frame of a page

A page is a source file: its imports, its route, and a component that returns the canvas with the
container that holds the rendered nodes. So it is with the bundled frameworks; a profile may bring
any other frame.
-/

namespace Pagewright

open Pagewright.Text Pagewright.Markup

/-- A way to write pages, from the imports of a page, the name of its component, its settings and
the markup of its nodes. -/
abbrev Frame :=
  List Import → List Char → PageSettings → List Markup → Except LayoutFault (List Char)

/-- The classes of the container of a page of ready-made components. -/
def centredClasses (maxWidth : Value) : List Char :=
  trim ("mx-auto ".toList ++ classList maxWidth.content)

/-- The class of the container of a page of plain markup. -/
def containerClass : Value → String
  | .text "max-w-full" => "container-fluid"
  | _ => "container"

/-- The canvas of a page with what stands on it. -/
def Framework.canvas (framework : Framework) (settings : PageSettings) (nodes : List Markup) :
    Markup :=
  let color := settings.canvasColor.content
  match framework with
  | .shadcn =>
    .block "div"
      [.quoted "className" "min-h-screen w-full".toList, .style [("backgroundColor", color)]]
      [.block "div" [.quoted "className" (centredClasses settings.maxWidth)] [.body nodes]]
  | .bootstrap =>
    .block "div" [.style [("backgroundColor", color), ("minHeight", "100vh".toList)]]
      [.block "div" [Bootstrap.classes (containerClass settings.maxWidth)] [.body nodes]]

/-- The source file of a page. -/
def pageSource (framework : Framework) (imports : List Import) (name : List Char)
    (settings : PageSettings) (nodes : List Markup) : List Char :=
  imports.flatMap (fun i => i.statement ++ ['\n']) ++
    "\nexport const route = ".toList ++ quote settings.route.content ++
    ";\n\nexport default function ".toList ++ name ++ "() \x7b\n  return (\n".toList ++
    (framework.canvas settings nodes).text 4 ++ "\n  );\n\x7d\n".toList

/-- The pages of a framework. -/
def Framework.frame (framework : Framework) : Frame := fun imports name settings nodes =>
  .ok (pageSource framework imports name settings nodes)

end Pagewright
