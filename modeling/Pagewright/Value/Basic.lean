import Pagewright.Value.Moment

/-!
# Prop values

The values that a document gives to props: scalars, lists, fixed rows, sets, and mappings that keep
the order in which their entries were written; an ordered mapping has that order for a part of what
it is. A key is a scalar or a row of scalars. Two keys are the same key when they are equal as
numbers or equal as anything else, whatever their types; the number that is none equals nothing, not
even itself. A mapping is looked up by the first entry of a key.

A set is given by its elements in the order in which they are gone through. Nothing that is written
in a document settles that order, and a document that is read has the one of writing.

A list or a mapping of a document may contain itself. There it holds the number of steps out that
lead to the part meant.
-/

namespace Pagewright

open Pagewright.Number

/-- A value without parts. -/
inductive Scalar where
  | null
  | bool (b : Bool)
  | int (n : Int)
  | float (x : Binary64)
  | text (s : String)
  | moment (m : Moment)
  | bytes (content : List UInt8)
deriving DecidableEq

instance : Inhabited Scalar := ⟨.null⟩

/-- What a scalar is known by among its equals: a truth value counts as zero or one, a whole number
as its integer, and a time whose distance from universal time is known as its instant. The number
that is none is known by its place alone. -/
inductive ScalarForm where
  | null
  | int (n : Int)
  | fraction (x : Finite64)
  | infinite (negative : Bool)
  | text (s : String)
  | moment (m : Moment)
  | instant (micros : Int)
  | bytes (content : List UInt8)
  | apart (place : Nat)
deriving DecidableEq

/-- The form of a scalar at a place. -/
def Scalar.formAt (place : Nat) : Scalar → ScalarForm
  | .null => .null
  | .bool b => .int (if b then 1 else 0)
  | .int n => .int n
  | .float (.finite x) => if x.isWhole then .int x.truncate else .fraction x
  | .float (.infinite negative) => .infinite negative
  | .float .nan => .apart place
  | .text s => .text s
  | .moment m => match m.instant? with
    | some micros => .instant micros
    | none => .moment m
  | .bytes content => .bytes content

/-- Is the scalar the number that is none? -/
def Scalar.isNan : Scalar → Bool
  | .float .nan => true
  | _ => false

/-- A part of a row of atoms: one atom, or two that belong together. -/
inductive RowPart (α : Type) where
  | one (a : α)
  | two (first second : α)
deriving DecidableEq

/-- A key made of atoms: one atom, or a row of parts. -/
inductive KeyOf (α : Type) where
  | scalar (a : α)
  | row (parts : List (RowPart α))
deriving DecidableEq

/-- The atoms of a part. -/
def RowPart.atoms {α : Type} : RowPart α → List α
  | .one a => [a]
  | .two a b => [a, b]

/-- The part with other atoms. -/
def RowPart.map {α β : Type} (f : α → β) : RowPart α → RowPart β
  | .one a => .one (f a)
  | .two a b => .two (f a) (f b)

namespace KeyOf

variable {α β : Type}

/-- The atoms of a key. -/
def atoms : KeyOf α → List α
  | .scalar a => [a]
  | .row parts => parts.flatMap RowPart.atoms

/-- The key with other atoms. -/
def map (f : α → β) : KeyOf α → KeyOf β
  | .scalar a => .scalar (f a)
  | .row parts => .row (parts.map (RowPart.map f))

end KeyOf

/-- A key of a mapping. -/
abbrev Key := KeyOf Scalar

/-- The form of a key: what it is known by among its equals. -/
abbrev KeyForm := KeyOf ScalarForm

namespace Key

/-- A text as a key. -/
@[match_pattern] abbrev text (s : String) : Key := KeyOf.scalar (Scalar.text s)

instance : Inhabited Key := ⟨KeyOf.scalar .null⟩

/-- The form of a key at a place. -/
def formAt (place : Nat) (key : Key) : KeyForm := key.map (Scalar.formAt place)

/-- The form of a key that equals itself; a key with the number that is none in it has no form. -/
def form? (key : Key) : Option KeyForm :=
  if key.atoms.any Scalar.isNan then none else some (formAt 0 key)

/-- Are the keys equal? -/
def same (a b : Key) : Bool :=
  match form? a, form? b with
  | some f, some g => f == g
  | _, _ => false

theorem same_eq_true_iff {a b : Key} :
    same a b = true ↔ ∃ f, form? a = some f ∧ form? b = some f := by
  unfold same
  split
  · next f g hf hg =>
    rw [hf, hg]
    exact ⟨fun h => ⟨f, rfl, by rw [eq_of_beq h]⟩, fun ⟨_, h, h'⟩ => by
      rw [Option.some.inj h, Option.some.inj h']; exact beq_self_eq_true _⟩
  · next h => exact ⟨fun e => absurd e (by simp), fun ⟨f, hf, hg⟩ => (h f f hf hg).elim⟩

theorem form?_text (s : String) : form? (text s) = some (KeyOf.scalar (.text s)) := rfl

end Key

/-- What may hold itself: a list or a mapping. -/
inductive Enclosure where
  | list
  | map
  | ordered
deriving DecidableEq

/-- A value of a prop. A list or a mapping on a loop, which is met again inside itself, has a name:
two values of one name are the same list or mapping, and inside itself it is given by its name. -/
inductive Value where
  | scalar (s : Scalar)
  | list (items : List Value)
  | row (items : List Value)
  | map (entries : List (Key × Value))
  | ordered (entries : List (Key × Value))
  | set (elements : List Key)
  | loop (name : Nat) (body : Value)
  | within (name : Nat) (enclosure : Enclosure)

namespace Value

/-- The absent value. -/
@[match_pattern] abbrev null : Value := .scalar .null

/-- A truth value. -/
@[match_pattern] abbrev bool (b : Bool) : Value := .scalar (.bool b)

/-- An integer. -/
@[match_pattern] abbrev int (n : Int) : Value := .scalar (.int n)

/-- A binary64 number. -/
@[match_pattern] abbrev float (x : Binary64) : Value := .scalar (.float x)

/-- A text. -/
@[match_pattern] abbrev text (s : String) : Value := .scalar (.text s)

/-- A date or a time. -/
@[match_pattern] abbrev moment (m : Moment) : Value := .scalar (.moment m)

/-- Bytes. -/
@[match_pattern] abbrev bytes (content : List UInt8) : Value := .scalar (.bytes content)

instance : Inhabited Value := ⟨null⟩

/-- Is the value the absent one? -/
def isNull : Value → Bool
  | .null => true
  | _ => false

/-- Is the value a text? -/
def isText : Value → Bool
  | .text _ => true
  | _ => false

theorem isText_iff {v : Value} : v.isText = true ↔ ∃ s, v = .text s := by
  unfold isText
  split
  · exact iff_of_true rfl ⟨_, rfl⟩
  · rename_i hne
    exact iff_of_false Bool.false_ne_true fun ⟨s, hs⟩ => hne s hs

end Value

/-- A scalar that holds nothing: the absent value, false, a zero, the empty text, and no bytes. -/
def Scalar.isVoid : Scalar → Bool
  | .null => true
  | .bool b => !b
  | .int n => n == 0
  | .float (.finite x) => x.mantissa == 0
  | .float _ => false
  | .text s => s.isEmpty
  | .moment _ => false
  | .bytes content => content.isEmpty

/-- A value that holds nothing: a void scalar, and an empty list, row, mapping or set. -/
def Value.isVoid : Value → Bool
  | .scalar s => s.isVoid
  | .list items => items.isEmpty
  | .row items => items.isEmpty
  | .map entries => entries.isEmpty
  | .ordered entries => entries.isEmpty
  | .set elements => elements.isEmpty
  | .loop _ _ => false
  | .within _ _ => false

/-- The value that a part of a key is. -/
def RowPart.value : RowPart Scalar → Value
  | .one s => .scalar s
  | .two a b => .row [.scalar a, .scalar b]

/-- The value that a key is. -/
def Key.value : Key → Value
  | .scalar s => .scalar s
  | .row parts => .row (parts.map RowPart.value)

/-- The entries of a mapping in the order in which they were written. -/
abbrev Props := List (Key × Value)

namespace Props

/-- The value at a key. -/
def find? (props : Props) (key : Key) : Option Value :=
  (List.find? (fun entry => entry.1.same key) props).map Prod.snd

/-- The value at a name. -/
def get? (props : Props) (name : String) : Option Value := props.find? (.text name)

/-- The value at a name, or the absent value. -/
def get (props : Props) (name : String) : Value := (props.get? name).getD .null

/-- Gives a value to a key. A key that is there keeps its place and its spelling; a new one comes
last. -/
def insert : Props → Key → Value → Props
  | [], key, value => [(key, value)]
  | (k, v) :: rest, key, value =>
    if k.same key then (k, value) :: rest else (k, v) :: Props.insert rest key value

/-- A key that equals itself has the value that it was given. -/
theorem find?_insert_self (props : Props) {key : Key} (h : key.same key = true) (value : Value) :
    (props.insert key value).find? key = some value := by
  induction props with
  | nil => simp [Props.insert, find?, h]
  | cons entry rest ih =>
    by_cases hk : entry.1.same key = true
    · simp [Props.insert, find?, hk]
    · simp only [find?] at ih
      simp [Props.insert, find?, hk, ih]

/-- Giving a value to a key leaves the values of all other keys. -/
theorem find?_insert_of_ne (props : Props) {key other : Key} (h : key.same other = false)
    (value : Value) : (props.insert key value).find? other = props.find? other := by
  have apart : ∀ k : Key, k.same key = true → k.same other = false := by
    intro k hk
    obtain ⟨f, hkf, hf⟩ := Key.same_eq_true_iff.1 hk
    cases ho : k.same other with
    | false => rfl
    | true =>
      obtain ⟨g, hkg, hg⟩ := Key.same_eq_true_iff.1 ho
      rw [hkf] at hkg
      cases hkg
      exact absurd (Key.same_eq_true_iff.2 ⟨f, hf, hg⟩) (by simp [h])
  induction props with
  | nil => simp [Props.insert, find?, h]
  | cons entry rest ih =>
    simp only [find?] at ih
    by_cases hk : entry.1.same key = true
    · simp [Props.insert, find?, hk, apart entry.1 hk]
    · by_cases ho : entry.1.same other = true
      · simp [Props.insert, find?, hk, ho]
      · simp [Props.insert, find?, hk, ho, ih]

/-- Gives a value to a name. -/
def put (props : Props) (name : String) (value : Value) : Props :=
  props.insert (.text name) value

/-- The mapping that results from giving values to keys in order. -/
def ofEntries (entries : List (Key × Value)) : Props :=
  entries.foldl (fun props entry => props.insert entry.1 entry.2) []

end Props

end Pagewright
