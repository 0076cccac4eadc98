/-!
# What a field of a pattern can stand for

A field of a pattern starts at a text and may go on to its characters by position, and by name to
whatever else belongs to it, which has parts in turn. What belongs to a text besides its characters
is no matter of patterns: `Objects` says it, and whoever fills a pattern hands it over, together
with the width up to which there is room for texts.
-/

namespace Pagewright.Text

/-- A value that a field can stand for: a text, or an object that is none. -/
inductive FieldValue (α : Type) where
  | text (s : List Char)
  | object (o : α)
deriving DecidableEq

/-- What stands between brackets: a position, or any other text. -/
inductive Subscript where
  | position (n : Nat)
  | key (s : List Char)

/-- Why an object does not give what it is asked for. What is reported of the fault comes with
it. -/
inductive ObjectFault where
  | noSuchName
  | noSuchKey (report : String)
  | pastEnd (report : String)
  | unfitValue (report : String)
  | unfitKind
  | other
deriving DecidableEq

/-- The report of a fault. -/
def ObjectFault.message : ObjectFault → String
  | .noSuchName => "a value has no such part"
  | .noSuchKey report => report
  | .pastEnd report => report
  | .unfitValue report => report
  | .unfitKind => "a value has no parts or no layout of the kind"
  | .other => "a value does not give what it is asked for"

/-- The objects that belong to texts and to one another, how they are shown, how they are laid out,
and the room that there is. -/
structure Objects where
  Object : Type
  /-- What belongs to a value by a name. -/
  named : FieldValue Object → String → Except ObjectFault (FieldValue Object)
  /-- What an object holds at a subscript. -/
  item : Object → Subscript → Except ObjectFault (FieldValue Object)
  /-- The display of an object on its own. -/
  display : Object → Except ObjectFault (List Char)
  /-- The spelling of an object. -/
  spelled : Object → Except ObjectFault (List Char)
  /-- An object as a layout asks for it. -/
  laidOut : Object → (layout : List Char) → Except ObjectFault (List Char)
  /-- The greatest width to which a text can be padded. -/
  room : Nat

end Pagewright.Text
