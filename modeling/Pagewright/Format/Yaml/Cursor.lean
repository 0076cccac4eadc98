/-!
# Positions in a YAML text

YAML gives a meaning to columns and lines, so the reader keeps them while it moves. A carriage
return, with or without a line feed behind it, is made a line feed beforehand. The next-line
character and the two Unicode separators end a line of content, too, but do not start a new line:
they count as one column. A byte order mark has no width. Behind the end of the text there is a
zero character, which no text can hold.
-/

namespace Pagewright.Yaml

/-- Why a YAML text cannot be read. -/
inductive Fault where
  | malformed
  | badValue
  | outOfRange
  | noTruthValue (word : String)
  | unusableKey
  | repeatedKey
  | emptyNumber
  | unknownVersion
deriving DecidableEq

/-- The versions of YAML that a document may ask for: 1.1, and 1.2 unless it asks for another. -/
inductive Version where
  | v11
  | v12
deriving DecidableEq

/-- May the character stand in a YAML text? -/
def isPrintable (c : Char) : Bool :=
  let n := c.toNat
  n == 0x09 || n == 0x0A || n == 0x0D || (0x20 ≤ n && n ≤ 0x7E) || n == 0x85 ||
    (0xA0 ≤ n && n ≤ 0xFFFD) || 0x10000 ≤ n

/-- Makes carriage returns line feeds. -/
def unifyLineEnds : List Char → List Char
  | [] => []
  | '\r' :: '\n' :: rest => '\n' :: unifyLineEnds rest
  | c :: rest => (if c = '\r' then '\n' else c) :: unifyLineEnds rest

/-- The rest of a text, the position where it starts, and the length of the whole text, which
bounds the steps of every loop over it. -/
structure Cursor where
  rest : List Char
  length : Nat
  index : Nat := 0
  line : Nat := 0
  column : Nat := 0

/-- The start of a text. -/
def Cursor.start (s : List Char) : Cursor := { rest := s, length := s.length }

/-- Does the character end a line of content? -/
def isBreak (c : Char) : Bool := c == '\n' || c == '\x85' || c == '\u2028' || c == '\u2029'

/-- What the end of a line stands for in a scalar: the next-line character is a line feed there. -/
def breakText (c : Char) : Char := if c = '\x85' then '\n' else c

/-- Does the character end a line of content or the text? -/
def isLineEnd (c : Char) : Bool := isBreak c || c == '\x00'

/-- Is the character a space or a tab? -/
def isSpaceOrTab (c : Char) : Bool := c == ' ' || c == '\t'

/-- Does the character set off an indicator in front of it? -/
def isGap (c : Char) : Bool := isLineEnd c || isSpaceOrTab c

namespace Cursor

/-- The character `n` places ahead. -/
def ahead (c : Cursor) (n : Nat) : Char := (c.rest[n]?).getD '\x00'

/-- The next character. -/
def peek (c : Cursor) : Char := c.ahead 0

/-- Moves past the next character. -/
def next (c : Cursor) : Cursor :=
  match c.rest with
  | [] => c
  | ch :: rest =>
    let moved := { c with rest, index := c.index + 1 }
    if ch = '\n' then { moved with line := c.line + 1, column := 0 }
    else if ch = '\uFEFF' then moved
    else { moved with column := c.column + 1 }

/-- Moves past `n` characters. -/
def advance : Nat → Cursor → Cursor
  | 0, c => c
  | n + 1, c => advance n c.next

/-- The longest run of a class at the position. -/
def run (p : Char → Bool) (c : Cursor) : List Char := c.rest.takeWhile p

/-- Moves past the longest run of a class. -/
def skip (p : Char → Bool) (c : Cursor) : Cursor := c.advance (c.run p).length

/-- Does a mark of three characters stand here that separates documents? -/
def atSeparator (c : Cursor) : Bool :=
  (c.rest.take 3 == "---".toList || c.rest.take 3 == "...".toList) && isGap (c.ahead 3)

end Cursor

end Pagewright.Yaml
