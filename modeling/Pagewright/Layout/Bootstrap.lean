import Pagewright.Catalogue.Schema
import Pagewright.Layout.Reading

/-!
# Layouts of plain markup

Each component becomes plain elements with utility classes. A section becomes a row of columns
that share the twelve columns of the grid; the parts of an accordion find each other by
identifiers that are made of the id of its node.
-/

namespace Pagewright.Bootstrap

open Pagewright.Text Pagewright.Markup

/-- The number of grid columns that each of `count` columns spans. -/
def columnSpan (count : Nat) : Nat := max 1 (12 / count)

/-- A class list of fixed text. -/
def classes (names : String) : Attribute := .quoted "className" names.toList

/-- A row with a column for each zone. -/
def grid (props : Props) (zones : List (List Markup)) : Except LayoutFault Markup := do
  let color ← props.shownContent "bgColor"
  let padding := (props.get "paddingY").pixels
  let gap := (props.get "gap").pixels
  let column := "col-md-".toList ++ Number.natDigits (columnSpan (columnCount props)) ++
    " mb-3 d-flex flex-column gap-3".toList
  return .block "section"
    [classes "container-fluid",
     .style [("backgroundColor", color), ("paddingTop", padding), ("paddingBottom", padding)]]
    [.block "div" [classes "row", .style [("rowGap", gap)]]
      (zones.map fun items => .block "div" [.quoted "className" column] [.body items])]

/-- A card; an empty footer is left out. -/
def card (props : Props) : Except LayoutFault Markup := do
  let title ← props.shownContent "title"
  let description ← props.shownContent "description"
  let content ← props.shownContent "content"
  let footer ← props.shown "footer"
  return .block "div" [classes "card h-100 shadow-sm"]
    ([.block "div" [classes "card-header bg-white"]
        [.short "h5" [classes "card-title mb-0"] title,
         .short "small" [classes "text-muted"] description],
      .block "div" [classes "card-body"] [.short "p" [classes "card-text"] content]] ++
      if footer.isVoid then []
      else [.short "div" [classes "card-footer text-muted"] footer.content])

/-- The class of a button variant. -/
def buttonVariant : Option String → String
  | some "destructive" => "btn-danger"
  | some "outline" => "btn-outline-dark"
  | some "secondary" => "btn-secondary"
  | _ => "btn-primary"

/-- The class of a button size, if it has one. -/
def buttonSize : Option String → List String
  | some "lg" => ["btn-lg"]
  | some "sm" => ["btn-sm"]
  | _ => []

/-- A button. -/
def button (props : Props) : Except LayoutFault Markup := do
  let variant ← props.variant "variant"
  let size ← props.variant "size"
  let text ← props.shownContent "text"
  let names := ["btn", buttonVariant variant] ++ buttonSize size ++ ["w-100"]
  return .short "button"
    ([.quoted "type" "button".toList, classes (" ".intercalate names)] ++ props.clickAttributes)
    text

/-- The classes of a badge variant. -/
def badgeVariant : Option String → String
  | some "secondary" => "bg-secondary"
  | some "outline" => "border text-dark"
  | _ => "bg-primary"

/-- A badge. -/
def badge (props : Props) : Except LayoutFault Markup := do
  let variant ← props.variant "variant"
  let text ← props.shownContent "text"
  return .short "span" [classes ("badge " ++ badgeVariant variant)] text

/-- The classes of a line between components. -/
def ruleClasses : Value → String
  | .text "vertical" => "d-inline-block h-100 border-end border-0 align-middle mx-3"
  | _ => "my-3"

/-- A line between components. -/
def separator (props : Props) : Except LayoutFault Markup :=
  .ok (.single "hr" [classes (ruleClasses (props.get "orientation"))])

/-- The class of an alert variant. -/
def alertVariant : Option String → String
  | some "destructive" => "alert-danger"
  | _ => "alert-primary"

/-- A message with a title. -/
def alert (props : Props) : Except LayoutFault Markup := do
  let variant ← props.variant "variant"
  let title ← props.shownContent "title"
  let description ← props.shownContent "description"
  return .block "div" [classes ("alert " ++ alertVariant variant), .quoted "role" "alert".toList]
    [.short "h6" [classes "alert-heading fw-bold"] title,
     .short "p" [classes "mb-0"] description]

/-- The classes of a label. -/
def labelClasses : Attribute := classes "form-label fw-bold text-muted small text-uppercase"

/-- A labelled progress bar. -/
def progress (props : Props) : Except LayoutFault Markup := do
  let label ← props.shownContent "label"
  let value := (props.get "value").percent
  return .block "div" [classes "mb-3 w-100"]
    [.short "label" [labelClasses] label,
     .block "div" [classes "progress", .style [("height", "6px".toList)]]
      [.short "div"
        [classes "progress-bar", .quoted "role" "progressbar".toList,
         .style [("width", value ++ ['%'])], .numeral "aria-valuenow" value,
         .numeral "aria-valuemin" ['0'], .numeral "aria-valuemax" "100".toList] []]]

/-- A labelled input line. -/
def input (props : Props) : Except LayoutFault Markup := do
  let label ← props.shownContent "label"
  let type ← props.shownContent "type"
  let placeholder ← props.shownContent "placeholder"
  return .block "div" [classes "mb-3"]
    [.short "label" [labelClasses] label,
     .single "input"
      [.quoted "type" type, classes "form-control", .quoted "placeholder" placeholder]]

/-- The identifier of the accordion of a node. -/
def accordionId (id : Value) : List Char :=
  "accordion-".toList ++ elementIdentifier id.content

/-- The identifier of what an entry of an accordion unfolds. -/
def collapseId (accordion : List Char) (index : Nat) : List Char :=
  accordion ++ "-item-".toList ++ Number.natDigits index

/-- The entry of an accordion. -/
def accordionItem (accordion : List Char) (index : Nat) (entry : FoldedEntry) : Markup :=
  let collapse := collapseId accordion index
  .block "div" [classes "accordion-item"]
    [.block "h2" [classes "accordion-header"]
      [.block "button"
        [classes "accordion-button collapsed", .quoted "type" "button".toList,
         .quoted "data-bs-toggle" "collapse".toList, .quoted "data-bs-target" ('#' :: collapse)]
        [.passage entry.title]],
     .block "div"
      [.quoted "id" collapse, classes "accordion-collapse collapse",
       .quoted "data-bs-parent" ('#' :: accordion)]
      [.short "div" [classes "accordion-body"] entry.content]]

/-- An accordion. -/
def accordion (id : Value) (props : Props) : Except LayoutFault Markup := do
  let entries ← props.foldedEntries
  let name := accordionId id
  return .block "div" [classes "accordion", .quoted "id" name]
    (entries.zipIdx.map fun entry => accordionItem name entry.2 entry.1)

end Pagewright.Bootstrap
