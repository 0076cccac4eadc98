import Pagewright.Text.Words

/-!
# Lines and indentation

A line ends at any of the characters that some convention takes for a line end, and a carriage
return with a line feed behind it is one line end. `indent` is the only operation of the library
that moves finished markup: it cuts a text into lines, whatever the line ends are, and writes the
lines back with line feeds between them.
-/

namespace Pagewright.Text

/-- The characters that end a line. -/
def endsLine (c : Char) : Bool :=
  c == '\n' || c == '\r' || c == '\x0b' || c == '\x0c' || c == '\x1c' || c == '\x1d' ||
    c == '\x1e' || c == '\x85' || c == '\u2028' || c == '\u2029'

/-- The lines of a text without their line ends. A line end at the very end opens no further
line. -/
def lines : List Char → List (List Char)
  | [] => []
  | '\r' :: '\n' :: rest => [] :: lines rest
  | c :: rest =>
    if endsLine c then [] :: lines rest
    else match lines rest with
      | [] => [[c]]
      | line :: more => (c :: line) :: more

/-- Spaces in front of a line. -/
def spaces (width : Nat) : List Char := List.replicate width ' '

/-- A line that is not the first is moved only if it holds something. -/
def indentLine (width : Nat) (line : List Char) : List Char :=
  if line.isEmpty then [] else spaces width ++ line

/-- Moves a text `width` columns to the right. The first line is always moved. A line feed is
appended before the text is cut, so that a text that ends with a line feed keeps it. -/
def indent (width : Nat) (s : List Char) : List Char :=
  match lines (s ++ ['\n']) with
  | [] => spaces width
  | first :: more => spaces width ++ joinWith ['\n'] (first :: more.map (indentLine width))

/-- The text with a line feed at its end. One that is there is kept. -/
def closeLastLine (s : List Char) : List Char :=
  if s.getLast? = some '\n' then s else s ++ ['\n']

end Pagewright.Text
