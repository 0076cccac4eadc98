import Pagewright.Value.Number

/-!
# Component schemas

A schema describes one kind of component: the props it starts with, the fields an editor offers
for them, the types it cannot be rendered without, and the zones in which it holds other
components. The number of columns of a layout decides how many zones it has.
-/

namespace Pagewright

open Pagewright.Text Pagewright.Number

/-- The widget that edits a prop. -/
inductive FieldKind where
  | line
  | area
  | number
  | select
  | radio
  | array
  | other (name : String)
deriving DecidableEq

namespace FieldKind

/-- The kind of a name. -/
def ofName (name : String) : FieldKind :=
  match name with
  | "text" => .line
  | "textarea" => .area
  | "number" => .number
  | "select" => .select
  | "radio" => .radio
  | "array" => .array
  | name => .other name

/-- The name of a kind. -/
def name : FieldKind → String
  | .line => "text"
  | .area => "textarea"
  | .number => "number"
  | .select => "select"
  | .radio => "radio"
  | .array => "array"
  | .other name => name

end FieldKind

/-- A value that a select or radio field offers, with its label. -/
structure Choice where
  label : String
  value : String
deriving DecidableEq

/-- A field for one prop. An array field has a part for each prop of an entry. -/
structure Field where
  name : String
  kind : FieldKind
  label : Option String := none
  choices : List Choice := []
  parts : List Field := []

/-- The values that a field admits; none when the field is free. -/
def Field.allowed (field : Field) : List String := field.choices.map Choice.value

/-- How a component comes to its zones: their names in order, from its resolved props. -/
abbrev ZoneResolver := Props → List String

/-- The description of one kind of component. Only one that holds others has a resolver of
zones. -/
structure Schema where
  type : String
  category : String
  defaults : Props
  fields : List Field
  companions : List String := []
  zones : Option ZoneResolver := none

/-- The greatest number of columns of a layout. -/
def maxColumns : Nat := 12

/-- The number of columns that props ask for: the `columns` prop without its fraction, moved into
the range from one to the greatest number; one when the prop is no number. -/
def columnCount (props : Props) : Nat :=
  let asked := ((props.get "columns").amount?.getD (.whole 1)).truncate
  max 1 (min maxColumns asked.toNat)

/-- The name of the zone of a column. -/
def columnZone (index : Nat) : String := "col-" ++ String.ofList (natDigits index)

/-- One zone for each column. -/
def columnZones : ZoneResolver := fun props => (List.range (columnCount props)).map columnZone

/-- Does the component hold other components? -/
def Schema.isContainer (schema : Schema) : Bool := schema.zones.isSome

/-- The zones of a component whose props are taken as they are. -/
def Schema.zoneNames (schema : Schema) (props : Props) : List String :=
  schema.zones.elim [] fun names => names props

/-- The field for a prop. -/
def Schema.field? (schema : Schema) (name : String) : Option Field :=
  schema.fields.find? (fun field => field.name == name)

end Pagewright
