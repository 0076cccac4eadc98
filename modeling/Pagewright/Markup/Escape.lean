import Pagewright.Text.Blank
import Pagewright.Text.Quoted

/-!
# Writing a text at a place of generated code

Each place has its own rule. A text child keeps its markup characters as character references,
and a text with a line break becomes a string expression, since line breaks in text children are
folded away. An attribute is a double-quoted literal in which the double quote is a reference too.
A string literal in code is the double-quoted literal with escapes. A class list keeps the words
that are class names, an identifier keeps the characters that are safe in one, and a table cell is
one line in which the bar and the backslash are escaped.
-/

namespace Pagewright.Markup

open Pagewright.Text

/-- The character reference of a markup character of text. -/
def textReference (c : Char) : List Char :=
  if c = '&' then "&amp;".toList
  else if c = '<' then "&lt;".toList
  else if c = '>' then "&gt;".toList
  else if c = '\x7b' then "&#123;".toList
  else if c = '\x7d' then "&#125;".toList
  else [c]

/-- The character reference of a markup character of an attribute. -/
def attributeReference (c : Char) : List Char :=
  if c = '"' then "&quot;".toList else textReference c

/-- Does the character break a line of code? -/
def breaksLine (c : Char) : Bool :=
  c == '\r' || c == '\n' || c == '\u2028' || c == '\u2029'

/-- A text as a child of an element. -/
def textChild (s : List Char) : List Char :=
  if s.any breaksLine then '\x7b' :: quote s ++ ['\x7d'] else s.flatMap textReference

/-- A text as the literal of an attribute. -/
def attributeLiteral (s : List Char) : List Char :=
  '"' :: s.flatMap attributeReference ++ ['"']

/-- Is the character a letter or a digit of ASCII? -/
def isPlain (c : Char) : Bool :=
  ('A' ≤ c && c ≤ 'Z') || ('a' ≤ c && c ≤ 'z') || ('0' ≤ c && c ≤ '9')

/-- May the character stand in a class name? -/
def isClassChar (c : Char) : Bool := isPlain c || "_:/.%#[]-".toList.contains c

/-- The class names among the words of a text. -/
def classList (s : List Char) : List Char :=
  joinWith [' '] ((words s).filter fun word => word.all isClassChar)

/-- May the character stand in an identifier of an element? -/
def isIdentifierChar (c : Char) : Bool := isPlain c || c == '_' || c == '-'

/-- A text as an identifier of an element: each run of other characters becomes a hyphen, and
hyphens at the ends are dropped. -/
def elementIdentifier? (s : List Char) : Option (List Char) :=
  match trimBy (fun c => c == '-') (collapse isIdentifierChar '-' s) with
  | [] => none
  | name => some name

/-- A text as an identifier of an element, or a fixed word when nothing of it is left. -/
def elementIdentifier (s : List Char) : List Char :=
  (elementIdentifier? s).getD "item".toList

/-- The escape of a character in a table cell. -/
def cellChar (c : Char) : List Char := if c = '\\' ∨ c = '|' then ['\\', c] else [c]

/-- A text as a cell of a table. -/
def tableCell (s : List Char) : List Char := (singleSpaced s).flatMap cellChar

end Pagewright.Markup
