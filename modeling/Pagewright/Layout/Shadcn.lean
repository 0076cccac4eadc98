import Pagewright.Catalogue.Schema
import Pagewright.Layout.Reading

/-!
# Layouts of ready-made components

Each component becomes the element of the same name with its parts. A section becomes a grid with
one cell for each of its zones.
-/

namespace Pagewright.Shadcn

open Pagewright.Markup

/-- A grid with a cell for each zone. -/
def grid (props : Props) (zones : List (List Markup)) : Except LayoutFault Markup := do
  let color ← props.shownContent "bgColor"
  let padding := (props.get "paddingY").pixels
  let gap := (props.get "gap").pixels
  let columns := "repeat(".toList ++ Number.natDigits (columnCount props) ++
    ", minmax(0, 1fr))".toList
  return .block "section"
    [.style [("backgroundColor", color), ("paddingTop", padding), ("paddingBottom", padding)]]
    [.block "div"
      [.quoted "className" "grid w-full px-6".toList,
       .style [("gridTemplateColumns", columns), ("gap", gap)]]
      (zones.map fun items =>
        .block "div" [.quoted "className" "flex flex-col gap-4".toList] [.body items])]

/-- A card; an empty footer is left out. -/
def card (props : Props) : Except LayoutFault Markup := do
  let title ← props.shownContent "title"
  let description ← props.shownContent "description"
  let content ← props.shownContent "content"
  let footer ← props.shown "footer"
  return .block "Card" []
    ([.block "CardHeader" []
        [.short "CardTitle" [] title, .short "CardDescription" [] description],
      .short "CardContent" [] content] ++
      if footer.isVoid then [] else [.short "CardFooter" [] footer.content])

/-- A button. -/
def button (props : Props) : Except LayoutFault Markup := do
  let variant ← props.shownContent "variant"
  let size ← props.shownContent "size"
  let text ← props.shownContent "text"
  return .short "Button"
    ([.quoted "variant" variant, .quoted "size" size] ++ props.clickAttributes) text

/-- A badge. -/
def badge (props : Props) : Except LayoutFault Markup := do
  let variant ← props.shownContent "variant"
  let text ← props.shownContent "text"
  return .short "Badge" [.quoted "variant" variant] text

/-- A line between components. -/
def separator (props : Props) : Except LayoutFault Markup := do
  let orientation ← props.shownContent "orientation"
  return .single "Separator" [.quoted "orientation" orientation]

/-- A message with an icon. -/
def alert (props : Props) : Except LayoutFault Markup := do
  let variant ← props.shownContent "variant"
  let title ← props.shownContent "title"
  let description ← props.shownContent "description"
  return .block "Alert" [.quoted "variant" variant]
    [.single "AlertCircle" [.quoted "className" "h-4 w-4".toList],
     .short "AlertTitle" [] title,
     .short "AlertDescription" [] description]

/-- A labelled progress bar. -/
def progress (props : Props) : Except LayoutFault Markup := do
  let label ← props.shownContent "label"
  return .block "div" [.quoted "className" "w-full space-y-2".toList]
    [.short "Label" [] label,
     .single "Progress" [.numeral "value" (props.get "value").percent]]

/-- A labelled input line. -/
def input (props : Props) : Except LayoutFault Markup := do
  let label ← props.shownContent "label"
  let type ← props.shownContent "type"
  let placeholder ← props.shownContent "placeholder"
  return .block "div" [.quoted "className" "space-y-2".toList]
    [.short "Label" [] label,
     .single "Input" [.quoted "type" type, .quoted "placeholder" placeholder]]

/-- The entry of an accordion. -/
def accordionItem (index : Nat) (entry : FoldedEntry) : Markup :=
  .block "AccordionItem" [.quoted "value" ("item-".toList ++ Number.natDigits index)]
    [.short "AccordionTrigger" [] entry.title, .short "AccordionContent" [] entry.content]

/-- An accordion. -/
def accordion (props : Props) : Except LayoutFault Markup := do
  let entries ← props.foldedEntries
  return .block "Accordion" [.quoted "type" "single".toList, .flag "collapsible"]
    (entries.zipIdx.map fun entry => accordionItem entry.2 entry.1)

end Pagewright.Shadcn
