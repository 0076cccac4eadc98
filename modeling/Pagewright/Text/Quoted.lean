/-!
# Double-quoted literals

The literal of a text is the text between double quotes, with an escape in place of each
character that may not stand for itself: the quote and the backslash, every control character
below U+0020, and the two line terminators U+2028 and U+2029 that some readers of literals do not
accept. Every other character stands for itself.
-/

namespace Pagewright.Text

/-- The digit of a number below sixteen, in lower case. -/
def hexDigit (n : Nat) : Char :=
  if n < 10 then Char.ofNat (48 + n) else Char.ofNat (87 + n)

/-- The last `width` hexadecimal digits of a number. -/
def hexDigits : (width : Nat) → Nat → List Char
  | 0, _ => []
  | width + 1, n => hexDigits width (n / 16) ++ [hexDigit (n % 16)]

/-- The written form of one character inside a double-quoted literal. -/
def quoteChar (c : Char) : List Char :=
  if c = '"' then ['\\', '"']
  else if c = '\\' then ['\\', '\\']
  else if c = '\n' then ['\\', 'n']
  else if c = '\r' then ['\\', 'r']
  else if c = '\t' then ['\\', 't']
  else if c = '\x08' then ['\\', 'b']
  else if c = '\x0c' then ['\\', 'f']
  else if c.toNat < 0x20 ∨ c = '\u2028' ∨ c = '\u2029' then '\\' :: 'u' :: hexDigits 4 c.toNat
  else [c]

/-- The double-quoted literal of a text. -/
def quote (s : List Char) : List Char := '"' :: s.flatMap quoteChar ++ ['"']

end Pagewright.Text
