import Pagewright.Catalogue.Basic

/-!
# The bundled catalogue

The components that a visual editor offers: a layout section whose column count decides how many
zones it owns, and eight components without zones. An input and a progress bar come with a label.
-/

namespace Pagewright.Bundled

/-- A field without a label of its own. -/
def field (name : String) (kind : FieldKind) : Field := { name, kind }

/-- A field with a label. -/
def labelled (name : String) (kind : FieldKind) (label : String) : Field :=
  { name, kind, label := some label }

/-- A select field over labelled values. -/
def select (name : String) (choices : List Choice) : Field := { name, kind := .select, choices }

/-- The settings of a page. -/
def page : Schema where
  type := "root"
  category := "Pages"
  defaults := [
    (.text "pageTitle", .text "Home"),
    (.text "pageRoute", .text "/"),
    (.text "canvasColor", .text "#ffffff"),
    (.text "maxWidth", .text "max-w-6xl")]
  fields := [
    labelled "pageTitle" .line "Page Title",
    labelled "pageRoute" .line "Page Route (e.g. /about)",
    labelled "canvasColor" .line "Canvas Background",
    { name := "maxWidth", kind := .select, label := some "Max Width",
      choices := [
        ⟨"Standard (1200px)", "max-w-6xl"⟩,
        ⟨"Wide (1500px)", "max-w-7xl"⟩,
        ⟨"Full Width", "max-w-full"⟩] }]

/-- A grid of columns, each a zone. -/
def layoutSection : Schema where
  type := "Section"
  category := "Structure"
  defaults := [
    (.text "sectionTitle", .text "New Section"),
    (.text "columns", .int 1),
    (.text "gap", .int 24),
    (.text "paddingY", .int 64),
    (.text "bgColor", .text "transparent")]
  fields := [
    labelled "sectionTitle" .line "Section Title",
    labelled "columns" .number "Cols (1-6)",
    labelled "gap" .number "Gap (px)",
    labelled "paddingY" .number "Vertical Padding",
    labelled "bgColor" .line "BG Color"]
  zones := some columnZones

/-- A card with a title, a subtitle, a body and possibly a footer. -/
def card : Schema where
  type := "Card"
  category := "Layout"
  defaults := [
    (.text "title", .text "Title"),
    (.text "description", .text "Subtitle"),
    (.text "content", .text "Main body text..."),
    (.text "footer", .text "")]
  fields := [
    field "title" .line,
    field "description" .line,
    field "content" .area,
    field "footer" .line]

/-- A line between components. -/
def separator : Schema where
  type := "Separator"
  category := "Layout"
  defaults := [(.text "orientation", .text "horizontal")]
  fields := [select "orientation" [⟨"Horizontal", "horizontal"⟩, ⟨"Vertical", "vertical"⟩]]

/-- A list of titles that unfold their contents. -/
def accordion : Schema where
  type := "Accordion"
  category := "Layout"
  defaults := [
    (.text "items", .list [.map [
      (.text "title", .text "Helpful Tip"),
      (.text "content", .text "Detailed info here.")]])]
  fields := [
    { name := "items", kind := .array, parts := [field "title" .line, field "content" .area] }]

/-- A button with an action. -/
def button : Schema where
  type := "Button"
  category := "Forms"
  defaults := [
    (.text "text", .text "Action Button"),
    (.text "variant", .text "default"),
    (.text "size", .text "default"),
    (.text "actionType", .text "none"),
    (.text "actionTarget", .text "")]
  fields := [
    field "text" .line,
    select "variant" [
      ⟨"Default", "default"⟩,
      ⟨"Destructive", "destructive"⟩,
      ⟨"Outline", "outline"⟩,
      ⟨"Secondary", "secondary"⟩],
    select "size" [⟨"Default", "default"⟩, ⟨"Small", "sm"⟩, ⟨"Large", "lg"⟩],
    { name := "actionType", kind := .radio,
      choices := [⟨"None", "none"⟩, ⟨"Link", "link"⟩, ⟨"Pop-up Alert", "alert"⟩] },
    labelled "actionTarget" .line "Target URL or Message"]

/-- A labelled input line. -/
def input : Schema where
  type := "Input"
  category := "Forms"
  defaults := [
    (.text "placeholder", .text "name@example.com"),
    (.text "label", .text "Email"),
    (.text "type", .text "email")]
  fields := [
    field "label" .line,
    field "placeholder" .line,
    select "type" [⟨"Text", "text"⟩, ⟨"Email", "email"⟩]]
  companions := ["Label"]

/-- A short marked text. -/
def badge : Schema where
  type := "Badge"
  category := "Display"
  defaults := [(.text "text", .text "Badge"), (.text "variant", .text "default")]
  fields := [
    field "text" .line,
    select "variant" [
      ⟨"Default", "default"⟩,
      ⟨"Secondary", "secondary"⟩,
      ⟨"Outline", "outline"⟩]]

/-- A labelled progress bar. -/
def progress : Schema where
  type := "Progress"
  category := "Display"
  defaults := [(.text "value", .int 50), (.text "label", .text "Setup Progress")]
  fields := [field "value" .number, field "label" .line]
  companions := ["Label"]

/-- A message with a title. -/
def alert : Schema where
  type := "Alert"
  category := "Feedback"
  defaults := [
    (.text "title", .text "Heads up!"),
    (.text "description", .text "Add a description."),
    (.text "variant", .text "default")]
  fields := [
    field "title" .line,
    field "description" .line,
    select "variant" [⟨"Default", "default"⟩, ⟨"Destructive", "destructive"⟩]]

/-- The bundled schemas in the order in which an editor offers them. -/
def schemas : List Schema :=
  [layoutSection, card, separator, accordion, button, input, badge, progress, alert]

/-- The bundled catalogue. -/
def catalogue : Catalogue where
  schemas := schemas
  root := page
  distinct := by decide

end Pagewright.Bundled
