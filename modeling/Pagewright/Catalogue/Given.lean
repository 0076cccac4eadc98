import Pagewright.Catalogue.Basic

/-!
# Props given as values

Who asks a catalogue about props may hand over any value. Props are a mapping, and a value that
holds nothing counts as the empty one. A type that the catalogue does not know takes every value
that spells a mapping.
-/

namespace Pagewright

/-- Why a value cannot be used as props. -/
inductive GivenFault where
  | notMapping
  | entries (fault : EntryFault)
deriving DecidableEq

/-- The entries of a value that has to be a mapping. -/
def Value.strictEntries (v : Value) : Except GivenFault Props :=
  v.entries?.elim (.error .notMapping) .ok

/-- The props that a value gives. -/
def Value.givenProps (v : Value) : Except GivenFault Props :=
  v.mapping?.elim (.error .notMapping) .ok

/-- The given props brought to conform to a schema. -/
def Schema.conformGiven (schema : Schema) (given : Value) : Except GivenFault Props := do
  let props ← given.givenProps
  match schema.fault? props with
  | some fault => throw (.entries fault)
  | none => return schema.conform props

/-- The zones of a component whose props are taken as they are. -/
def Schema.zonesGiven (schema : Schema) (given : Value) : Except GivenFault (List String) :=
  if schema.isContainer then given.strictEntries.map schema.zoneNames else .ok []

namespace Catalogue

/-- The props of a component once its schema is applied to the given ones. -/
def resolveGiven (catalogue : Catalogue) (type : String) (given : Value) :
    Except GivenFault Props :=
  match catalogue.schema? type with
  | some schema => schema.conformGiven given
  | none => if given.isVoid then .ok [] else (Props.ofValue given).mapError .entries

/-- The zones that a component with the given props owns. -/
def zonesGiven (catalogue : Catalogue) (type : String) (given : Value) :
    Except GivenFault (List String) :=
  match catalogue.schema? type with
  | some schema =>
    if schema.isContainer then (schema.conformGiven given).map schema.zoneNames else .ok []
  | none => .ok []

end Catalogue

end Pagewright
