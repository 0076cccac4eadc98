import Pagewright.Value.Basic

/-!
# The parts of a value

A part of a value on a loop may lead out of itself, to a list or a mapping that holds it. Whoever
takes a part gets it with that holder in the place of its name, so that every part that was taken
is a value of its own.
-/

namespace Pagewright

mutual

/-- The value with `holder` in the place of a name. A part with that name has its own meaning of
it, which is the same. -/
def Value.closeAt (name : Nat) (holder : Value) : Value → Value
  | .scalar s => .scalar s
  | .list items => .list (closeItems name holder items)
  | .row items => .row (closeItems name holder items)
  | .map entries => .map (closeEntries name holder entries)
  | .ordered entries => .ordered (closeEntries name holder entries)
  | .set elements => .set elements
  | .loop other body =>
    if other = name then .loop other body else .loop other (Value.closeAt name holder body)
  | .within other enclosure => if other = name then holder else .within other enclosure

/-- Closes the values of a list. -/
def closeItems (name : Nat) (holder : Value) : List Value → List Value
  | [] => []
  | v :: rest => Value.closeAt name holder v :: closeItems name holder rest

/-- Closes the values of a mapping. -/
def closeEntries (name : Nat) (holder : Value) : List (Key × Value) → List (Key × Value)
  | [] => []
  | (k, v) :: rest => (k, Value.closeAt name holder v) :: closeEntries name holder rest

end

namespace Value

/-- The list or the mapping that a value on a loop is; any other value is itself. -/
def opened : Value → Value
  | .loop name body => Value.closeAt name (.loop name body) body
  | v => v

/-- The items of a list. -/
def items? (v : Value) : Option (List Value) :=
  match v.opened with
  | .list items => some items
  | _ => none

/-- The items of a list or a row. -/
def members? (v : Value) : Option (List Value) :=
  match v.opened with
  | .list items => some items
  | .row items => some items
  | _ => none

/-- The entries of a mapping. -/
def entries? (v : Value) : Option Props :=
  match v.opened with
  | .map entries => some entries
  | .ordered entries => some entries
  | _ => none

end Value

/-! ## Equal values -/

/-- Are the keys of two lists equal one by one? -/
def sameKeys : List Key → List Key → Bool
  | [], [] => true
  | x :: xs, y :: ys => x.same y && sameKeys xs ys
  | _, _ => false

mutual

/-- Are the values equal? Lists are equal item by item, and mappings by what they hold at each key,
in any order unless both are ordered. Sets are equal when they have the same elements. On a loop
only a list or a mapping itself is equal to it. -/
def Value.same : Value → Value → Bool
  | .scalar a, .scalar b => Key.same (.scalar a) (.scalar b)
  | .list xs, .list ys => sameItems xs ys
  | .row xs, .row ys => sameItems xs ys
  | .map xs, .map ys => xs.length == ys.length && sameEntries xs ys
  | .map xs, .ordered ys => xs.length == ys.length && sameEntries xs ys
  | .ordered xs, .map ys => xs.length == ys.length && sameEntries xs ys
  | .ordered xs, .ordered ys =>
    sameKeys (xs.map Prod.fst) (ys.map Prod.fst) && sameEntries xs ys
  | .set xs, .set ys => xs.length == ys.length && xs.all fun x => ys.any x.same
  | .loop x _, .loop y _ => x == y
  | .within x _, .within y _ => x == y
  | _, _ => false

/-- Are the values of two lists equal one by one? -/
def sameItems : List Value → List Value → Bool
  | [], [] => true
  | x :: xs, y :: ys => x.same y && sameItems xs ys
  | _, _ => false

/-- Does a mapping hold equal values at the keys of the entries? -/
def sameEntries : List (Key × Value) → Props → Bool
  | [], _ => true
  | (k, v) :: rest, other =>
    (match other.find? k with
      | some w => v.same w
      | none => false) && sameEntries rest other

end

end Pagewright
