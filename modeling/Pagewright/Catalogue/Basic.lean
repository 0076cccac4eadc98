import Pagewright.Catalogue.Conform
import Pagewright.Distinct

/-!
# The catalogue of components

A catalogue holds one schema for each type it knows, in order, and the schema of page settings. It
answers which props a component has once its schema is applied, which zones it owns, and which
other types come with it. A type that the catalogue does not know keeps its props and owns no
zones.
-/

namespace Pagewright

/-- The known types of components and the schema of page settings. -/
structure Catalogue where
  schemas : List Schema
  root : Schema
  distinct : (schemas.map Schema.type).Nodup

/-- A catalogue cannot know one type twice. -/
structure DuplicateType where
  type : String
deriving DecidableEq

/-- The report of a type that is there twice. -/
def DuplicateType.message (e : DuplicateType) : String :=
  "Duplicate component schema for type '" ++ e.type ++ "'."

/-- The first type of a list that stands in it before. -/
def firstRepeated? (before : List String) : List String → Option String
  | [] => none
  | t :: rest => if t ∈ before then some t else firstRepeated? (t :: before) rest

/-- A list without a repetition behind others has no duplicates. -/
theorem nodup_of_firstRepeated? {types before : List String}
    (h : firstRepeated? before types = none) :
    types.Nodup ∧ ∀ t ∈ types, t ∉ before := by
  induction types generalizing before with
  | nil => simp
  | cons t rest ih =>
    simp only [firstRepeated?] at h
    split at h
    · contradiction
    · rename_i notBefore
      obtain ⟨nodup, apart⟩ := ih h
      refine ⟨List.nodup_cons.2 ⟨fun mem => ?_, nodup⟩, fun u hu => ?_⟩
      · exact apart t mem (by simp)
      · rcases List.mem_cons.1 hu with rfl | hu
        · exact notBefore
        · exact fun mem => apart u hu (by simp [mem])

namespace Catalogue

/-- The catalogue of the given schemas, unless two of them are of one type. -/
def ofSchemas (schemas : List Schema) (root : Schema) : Except DuplicateType Catalogue :=
  match h : firstRepeated? [] (schemas.map Schema.type) with
  | some type => .error ⟨type⟩
  | none => .ok ⟨schemas, root, (nodup_of_firstRepeated? h).1⟩

/-- The known types in order. -/
def types (catalogue : Catalogue) : List String := catalogue.schemas.map Schema.type

/-- The schema of a type. -/
def schema? (catalogue : Catalogue) (type : String) : Option Schema :=
  catalogue.schemas.find? (fun schema => schema.type == type)

/-- Is the type known? -/
def knows (catalogue : Catalogue) (type : String) : Bool := (catalogue.schema? type).isSome

/-- The types of each category; categories stand in the order of their first types. -/
def categories (catalogue : Catalogue) : List (String × List String) :=
  (firstOccurrences (catalogue.schemas.map Schema.category)).map fun category =>
    (category, (catalogue.schemas.filter (fun s => s.category == category)).map Schema.type)

/-- The props that a new component of a type starts with. -/
def defaults (catalogue : Catalogue) (type : String) : Props :=
  (catalogue.schema? type).elim [] Schema.defaults

/-- The props of a component once its schema is applied. -/
def resolve (catalogue : Catalogue) (type : String) (props : Props) : Props :=
  match catalogue.schema? type with
  | some schema => schema.conform props
  | none => props

/-- The settings of a page once their schema is applied. -/
def resolveRoot (catalogue : Catalogue) (props : Props) : Props := catalogue.root.conform props

/-- The zones that a component owns. -/
def zoneNames (catalogue : Catalogue) (type : String) (props : Props) : List String :=
  match catalogue.schema? type with
  | some schema => schema.zoneNames (schema.conform props)
  | none => []

/-- Why the props of a component cannot be brought to conform to its schema. -/
def resolveFault? (catalogue : Catalogue) (type : String) (props : Props) : Option EntryFault :=
  (catalogue.schema? type).bind fun schema => schema.fault? props

/-- Why it cannot be said which zones a component owns. One that owns none needs no props. -/
def zoneFault? (catalogue : Catalogue) (type : String) (props : Props) : Option EntryFault :=
  (catalogue.schema? type).bind fun schema =>
    if schema.isContainer then schema.fault? props else none

/-- Why a component cannot be opened: its props do not conform, or do not once they conform. -/
def openFault? (catalogue : Catalogue) (type : String) (props : Props) : Option EntryFault :=
  (catalogue.resolveFault? type props).or
    (catalogue.zoneFault? type (catalogue.resolve type props))

/-- The types that come with a type. -/
def companions (catalogue : Catalogue) (type : String) : List String :=
  (catalogue.schema? type).elim [] Schema.companions

end Catalogue

end Pagewright
