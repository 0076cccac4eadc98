import Pagewright.Catalogue.Schema
import Pagewright.Value.Display
import Pagewright.Value.Entries

/-!
# Conforming props

Props conform to a schema when every declared field holds a value of its kind. `Schema.conform`
lays the given props over the defaults, where an absent value counts as not given, and then brings
each field to its kind: a number field falls back to its default when the value is no number, a
select or radio field when the value is not among its choices, an array field keeps the mappings
among its entries with exactly the declared parts, and any other field becomes a text.

Only the default of an array field can be of a wrong shape: its elements have to spell mappings.
`Schema.fault?` tells when it is needed and does not fit.
-/

namespace Pagewright

/-- The text of a value in a text field. -/
def Value.fieldText (v : Value) : Value := .text (String.ofList v.content)

/-- The entry of an array field that keeps exactly the declared parts, as texts. -/
def conformEntry (parts : List Field) (entry : Props) : Value :=
  .map (parts.foldl (fun (kept : Props) part => kept.put part.name (entry.get part.name).fieldText)
    [])

/-- The mappings among the entries of a list, each with exactly the declared parts. -/
def conformEntries (parts : List Field) (items : List Value) : List Value :=
  items.filterMap fun item => item.entries?.map (conformEntry parts)

/-- The mappings that the elements of a default spell. -/
def defaultEntries (fallback : Value) : List Value :=
  (fallback.elements?.getD []).filterMap fun element => match Props.ofValue element with
    | .ok entry => some (.map entry)
    | .error _ => none

/-- What is wrong with a default whose elements have to spell mappings. A void one has none. -/
def defaultFault? (fallback : Value) : Option EntryFault :=
  if fallback.isVoid then none
  else match fallback.elements? with
    | none => some .notEntries
    | some elements => elements.findSome? fun element => match Props.ofValue element with
      | .ok _ => none
      | .error fault => some fault

/-- The value of a field, given its present and its default value. -/
def Field.conform (field : Field) (current fallback : Value) : Value :=
  match field.kind with
  | .number => current.numberOr fallback
  | .array => match current.members? with
    | some items => .list (conformEntries field.parts items)
    | none => .list (defaultEntries fallback)
  | .select | .radio =>
    if field.choices.isEmpty then current.fieldText
    else match current with
      | .text s => if s ∈ field.allowed then current else fallback
      | _ => fallback
  | _ => current.fieldText

/-- What is wrong with the default of a field, if the field needs it. -/
def Field.fault? (field : Field) (current fallback : Value) : Option EntryFault :=
  match field.kind with
  | .array => if current.members?.isSome then none else defaultFault? fallback
  | _ => none

/-- The given props laid over the defaults; an absent value counts as not given. -/
def Schema.overlay (schema : Schema) (props : Props) : Props :=
  (props.filter fun entry => !entry.2.isNull).foldl
    (fun (resolved : Props) entry => resolved.insert entry.1 entry.2) schema.defaults

/-- Brings a field of props to its kind. -/
def Schema.conformField (schema : Schema) (resolved : Props) (field : Field) : Props :=
  resolved.put field.name
    (field.conform (resolved.get field.name) (schema.defaults.get field.name))

/-- The given props brought to conform to the schema. -/
def Schema.conform (schema : Schema) (props : Props) : Props :=
  schema.fields.foldl schema.conformField (schema.overlay props)

/-- The first of the fields whose default is needed and does not fit. -/
def Schema.faultFrom? (schema : Schema) : List Field → Props → Option EntryFault
  | [], _ => none
  | field :: rest, resolved =>
    match field.fault? (resolved.get field.name) (schema.defaults.get field.name) with
    | some fault => some fault
    | none => schema.faultFrom? rest (schema.conformField resolved field)

/-- Why the given props cannot be brought to conform to the schema. -/
def Schema.fault? (schema : Schema) (props : Props) : Option EntryFault :=
  schema.faultFrom? schema.fields (schema.overlay props)

end Pagewright
