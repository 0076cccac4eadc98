import Pagewright.Text.Words

/-!
# Blank characters

A character is blank when it separates words: the white space of Unicode together with the four
information separators U+001C to U+001F. Trimming and cutting into words follow this class, so a
no-break space ends a word as a space does.
-/

namespace Pagewright.Text

/-- Closed ranges of code points, ascending and apart. -/
abbrev Ranges := List (Nat × Nat)

/-- Membership in a list of closed ranges. -/
def Ranges.has (ranges : Ranges) (n : Nat) : Bool :=
  ranges.any (fun r => r.1 ≤ n && n ≤ r.2)

/-- The blank code points. -/
def blankRanges : Ranges :=
  [(0x09, 0x0D), (0x1C, 0x20), (0x85, 0x85), (0xA0, 0xA0), (0x1680, 0x1680), (0x2000, 0x200A),
   (0x2028, 0x2029), (0x202F, 0x202F), (0x205F, 0x205F), (0x3000, 0x3000)]

/-- Does the character separate words? -/
def isBlank (c : Char) : Bool := blankRanges.has c.toNat

/-- Drops blanks from both ends. -/
def trim (s : List Char) : List Char := trimBy isBlank s

/-- The words of a text: its longest runs without a blank. -/
def words (s : List Char) : List (List Char) := runsOf (fun c => !isBlank c) s

/-- The words of a text with one space between neighbours. -/
def singleSpaced (s : List Char) : List Char := joinWith [' '] (words s)

end Pagewright.Text
