import Pagewright.Text.Hidden
import Pagewright.Text.Quoted

/-!
# Spelling out a text inside a value

Inside a list or a mapping a text is spelled with quotes around it: single quotes, or double ones
when the text holds a single quote and no double one. The quote in use and the backslash are
escaped, the tab and the two common line ends have a letter of their own, and a character without
a visible shape is written by its number in two, four or eight hexadecimal digits. Bytes are spelled
like the text of their characters behind a letter; those outside ASCII are written by their numbers.
-/

namespace Pagewright.Text

/-- The quote that a text is spelled with. -/
def spellingMark (s : List Char) : Char :=
  if s.contains '\'' && !s.contains '"' then '"' else '\''

/-- The spelling of one character between quotes of the given kind. -/
def spellChar (mark c : Char) : List Char :=
  if c = mark ∨ c = '\\' then ['\\', c]
  else if c = '\t' then ['\\', 't']
  else if c = '\n' then ['\\', 'n']
  else if c = '\r' then ['\\', 'r']
  else if !isHidden c then [c]
  else if c.toNat < 0x100 then '\\' :: 'x' :: hexDigits 2 c.toNat
  else if c.toNat < 0x10000 then '\\' :: 'u' :: hexDigits 4 c.toNat
  else '\\' :: 'U' :: hexDigits 8 c.toNat

/-- The spelling of a text. -/
def spell (s : List Char) : List Char :=
  let mark := spellingMark s
  mark :: s.flatMap (spellChar mark) ++ [mark]

/-- The spelling of the character of a byte. -/
def spellByte (mark c : Char) : List Char :=
  if c.toNat < 0x80 then spellChar mark c else '\\' :: 'x' :: hexDigits 2 c.toNat

/-- The spelling of bytes. -/
def spellBytes (content : List UInt8) : List Char :=
  let s := content.map fun byte => Char.ofNat byte.toNat
  let mark := spellingMark s
  'b' :: mark :: s.flatMap (spellByte mark) ++ [mark]

end Pagewright.Text
