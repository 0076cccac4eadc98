import Pagewright.Value.Contents

/-!
# Mappings that values spell

A value can be gone through when it is a list, a row, a set, a text, bytes or a mapping: its items,
its elements, its characters, its bytes as numbers, its keys. A mapping spells itself; any other
value that can be gone through spells a mapping when each of its elements is a pair of a key and a
value.
-/

namespace Pagewright

/-- Why a value spells no mapping. -/
inductive EntryFault where
  | notEntries
  | notPair
  | unusableKey
deriving DecidableEq

/-- The part of a row that a value is. -/
def Value.rowPart? : Value → Option (RowPart Scalar)
  | .scalar s => some (.one s)
  | .row [.scalar a, .scalar b] => some (.two a b)
  | _ => none

/-- The key that a value is. A list, a set or a mapping is no key, and neither is a row of them. -/
def Value.key? : Value → Option Key
  | .scalar s => some (.scalar s)
  | .row parts => (parts.mapM Value.rowPart?).map .row
  | _ => none

/-- The elements of a value that can be gone through. -/
def Value.elements? (v : Value) : Option (List Value) :=
  match v.opened with
  | .text s => some (s.toList.map fun c => .text c.toString)
  | .bytes content => some (content.map fun byte => .int byte.toNat)
  | .map entries => some (entries.map fun entry => Key.value entry.1)
  | .ordered entries => some (entries.map fun entry => Key.value entry.1)
  | .set elements => some (elements.map Key.value)
  | v => v.members?

/-- The entry that a value spells. -/
def Value.entry (v : Value) : Except EntryFault (Key × Value) :=
  match v.elements? with
  | none => .error .notEntries
  | some [key, value] => match key.key? with
    | some key => .ok (key, value)
    | none => .error .unusableKey
  | some _ => .error .notPair

/-- The mapping that a value spells. -/
def Props.ofValue (v : Value) : Except EntryFault Props :=
  match v.entries? with
  | some entries => .ok entries
  | none => match v.elements? with
    | none => .error .notEntries
    | some elements => (elements.mapM Value.entry).map Props.ofEntries

/-- The mapping that a value is; a void value is the empty one. -/
def Value.mapping? (v : Value) : Option Props :=
  match v.entries? with
  | some entries => some entries
  | none => if v.isVoid then some [] else none

end Pagewright
