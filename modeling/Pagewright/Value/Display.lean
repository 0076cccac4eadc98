import Pagewright.Value.Basic

/-!
# The text of a value

A text is displayed as it is, any other scalar by its name, its numeral or its spelling. Lists, sets
and mappings are displayed with brackets and braces around their parts, which are spelled: a text
among them gets quotes. Dots stand for a list or a mapping inside itself.
-/

namespace Pagewright

open Pagewright.Text Pagewright.Number

namespace Scalar

/-- The spelling of a scalar inside a list or a mapping. -/
def spelled : Scalar → List Char
  | .null => "None".toList
  | .bool b => (if b then "True" else "False").toList
  | .int n => intDigits n
  | .float x => x.text
  | .text s => spell s.toList
  | .moment m => m.spelled
  | .bytes content => spellBytes content

/-- The display of a scalar on its own. -/
def display : Scalar → List Char
  | .text s => s.toList
  | .moment m => m.text
  | s => s.spelled

/-- The display of a scalar as a text. -/
def toText (s : Scalar) : String := match s with
  | .text t => t
  | s => String.ofList s.display

end Scalar

/-- The spelling of a row of spelled parts; a comma tells a row of one part from the part alone. -/
def spellRow : List (List Char) → List Char
  | [part] => '(' :: part ++ [',', ')']
  | parts => '(' :: joinWith ", ".toList parts ++ [')']

/-- The spelling of a part of a key. -/
def RowPart.spelled : RowPart Scalar → List Char
  | .one s => s.spelled
  | .two a b => spellRow [a.spelled, b.spelled]

/-- The spelling of a key. -/
def Key.spelled : Key → List Char
  | .scalar s => s.spelled
  | .row parts => spellRow (parts.map RowPart.spelled)

/-- The display of a key as a text. -/
def Key.toText : Key → String
  | .scalar s => s.toText
  | k => String.ofList k.spelled

/-- The spelling of a list or a mapping inside itself. -/
def Enclosure.spelled : Enclosure → List Char
  | .list => "[...]".toList
  | .map => "\x7b...\x7d".toList
  | .ordered => "...".toList

/-- What the body of a loop is. -/
def Value.enclosure : Value → Enclosure
  | .map _ => .map
  | .ordered _ => .ordered
  | _ => .list

/-- The spelling of an ordered mapping whose entries are spelled as rows. -/
def spellOrdered (rows : List (List Char)) : List Char :=
  let inner := if rows.isEmpty then [] else '[' :: joinWith ", ".toList rows ++ [']']
  "ordereddict(".toList ++ inner ++ [')']

/-- The spelling of a set of spelled elements; the braces alone are those of the empty mapping. -/
def spellSet (elements : List (List Char)) : List Char :=
  if elements.isEmpty then "set()".toList
  else '\x7b' :: joinWith ", ".toList elements ++ ['\x7d']

mutual

/-- The spelling of a value inside the lists and the mappings of the given names. -/
def Value.spelledInside (names : List Nat) : Value → List Char
  | .scalar s => s.spelled
  | .list items => '[' :: joinWith ", ".toList (spelledItems names items) ++ [']']
  | .row items => spellRow (spelledItems names items)
  | .map entries => '\x7b' :: joinWith ", ".toList (spelledEntries names entries) ++ ['\x7d']
  | .ordered entries => spellOrdered (spelledRows names entries)
  | .set elements => spellSet (elements.map Key.spelled)
  | .loop name body =>
    if names.contains name then body.enclosure.spelled
    else Value.spelledInside (name :: names) body
  | .within _ enclosure => enclosure.spelled

/-- The spellings of the values of a list. -/
def spelledItems (names : List Nat) : List Value → List (List Char)
  | [] => []
  | v :: rest => Value.spelledInside names v :: spelledItems names rest

/-- The spellings of the entries of a mapping. -/
def spelledEntries (names : List Nat) : List (Key × Value) → List (List Char)
  | [] => []
  | (k, v) :: rest =>
    (k.spelled ++ ':' :: ' ' :: Value.spelledInside names v) :: spelledEntries names rest

/-- The spellings of the entries of an ordered mapping. -/
def spelledRows (names : List Nat) : List (Key × Value) → List (List Char)
  | [] => []
  | (k, v) :: rest => spellRow [k.spelled, Value.spelledInside names v] :: spelledRows names rest

end

/-- The spelling of a value among others. -/
def Value.spelled (v : Value) : List Char := v.spelledInside []

/-- The display of a value on its own. -/
def Value.display : Value → List Char
  | .scalar s => s.display
  | v => v.spelled

/-- The display of a value as a text. -/
def Value.toText : Value → String
  | .scalar s => s.toText
  | v => String.ofList v.spelled

/-- The text that a value contributes to a page: the absent value contributes nothing. -/
def Value.content : Value → List Char
  | .null => []
  | v => v.display

end Pagewright
