import Pagewright.Format.Json
import Pagewright.Format.Yaml.Cursor

/-!
# Written forms of a YAML scalar

A scalar is written plainly, between quotes, or as an indented block. All three forms may run over
several lines: in plain and quoted scalars a single line end counts as a space and each further
one as itself; a literal block keeps its lines, and a folded block joins neighbouring lines that
are not indented further.
-/

namespace Pagewright.Yaml

/-- What a line end followed by further line ends stands for. -/
def foldBreaks (first : Char) (more : List Char) : List Char :=
  (if first ≠ '\n' then [first] else if more.isEmpty then [' '] else []) ++ more

/-! ## Plain scalars -/

/-- Is the character an indicator inside a flow collection? -/
def isFlowIndicator (c : Char) : Bool :=
  c == ',' || c == '[' || c == ']' || c == '\x7b' || c == '\x7d'

/-- How far a plain scalar runs on its line. In a flow collection of the older version it ends at a
question mark, too. -/
def plainLength (version : Version) (inFlow : Bool) : List Char → Nat
  | [] => 0
  | c :: rest =>
    if isGap c || (c == ':' && isGap (rest.headD '\x00')) ||
        (inFlow && (isFlowIndicator c || (c == '?' && version == .v11))) then 0
    else plainLength version inFlow rest + 1

/-- The line ends behind a line end inside a plain scalar, in reverse behind those that are read;
none when a separator of documents follows. -/
def plainBreaks? : (fuel : Nat) → List Char → Cursor → Option (List Char) × Cursor
  | 0, read, c => (some read, c)
  | fuel + 1, read, c =>
    if c.peek = ' ' then plainBreaks? fuel read c.next
    else if isBreak c.peek then
      if c.next.atSeparator then (none, c.next)
      else plainBreaks? fuel (breakText c.peek :: read) c.next
    else (some read, c)

/-- What stands between two parts of a plain scalar, and whether a line ended there. -/
def plainSpaces (c : Cursor) : List Char × Bool × Cursor :=
  let spaces := c.run (fun ch => ch == ' ')
  let c := c.advance spaces.length
  if isBreak c.peek then
    if c.next.atSeparator then ([], true, c.next)
    else match plainBreaks? (c.length + 1) [] c.next with
      | (some breaks, after) => (foldBreaks (breakText c.peek) breaks.reverse, true, after)
      | (none, after) => ([], true, after)
  else (spaces, false, c)

/-- A plain scalar from a position on, whose lines stand at least `indent` deep: its text behind
what is read in reverse, whether it ended with the start of a line, and the position behind it. -/
def plainText (version : Version) (inFlow : Bool) (indent : Int) : (fuel : Nat) →
    (read spaces : List Char) → (lineEnded : Bool) → Cursor → List Char × Bool × Cursor
  | 0, read, _, lineEnded, c => (read.reverse, lineEnded, c)
  | fuel + 1, read, spaces, lineEnded, c =>
    let length := if c.peek = '#' then 0 else plainLength version inFlow c.rest
    if length = 0 then (read.reverse, lineEnded, c)
    else
      let read := (c.rest.take length).reverse ++ (spaces.reverse ++ read)
      let (spaces, lineEnded, c) := plainSpaces (c.advance length)
      if spaces.isEmpty || c.peek == '#' || (!inFlow && decide (c.column < indent)) then
        (read.reverse, lineEnded, c)
      else plainText version inFlow indent fuel read spaces lineEnded c

/-! ## Quoted scalars -/

/-- The line ends behind a line end inside a quoted scalar, in reverse behind those that are
read. -/
def quotedBreaks : (fuel : Nat) → List Char → Cursor → Except Fault (List Char × Cursor)
  | 0, _, _ => .error .malformed
  | fuel + 1, read, c =>
    if c.atSeparator then .error .malformed
    else
      let c := c.skip isSpaceOrTab
      if isBreak c.peek then quotedBreaks fuel (breakText c.peek :: read) c.next
      else .ok (read.reverse, c)

/-- The character that an escape by letter stands for. -/
def escapedChar? (c : Char) : Option Char :=
  "0abt\tnvfre \"/\\N_LP".toList.zip
    "\x00\x07\x08\t\t\n\x0b\x0c\r\x1b \"/\\\x85\xa0\u2028\u2029".toList |>.lookup c

/-- The number of digits of an escape by number. -/
def escapeWidth? (c : Char) : Option Nat :=
  if c = 'x' then some 2 else if c = 'u' then some 4 else if c = 'U' then some 8 else none

/-- The number that hexadecimal digits write. -/
def hexNumber? (digits : List Char) : Option Nat :=
  digits.foldl (fun n c => do
    let d ← if c.toNat < 128 then Json.hexValue? (UInt8.ofNat c.toNat) else none
    return (← n) * 16 + d) (some 0)

/-- The character of a number. -/
def charOfNumber (n : Nat) : Except Fault Char :=
  if 0x7FFFFFFF < n then .error .outOfRange
  else if 0x10FFFF < n then .error .badValue
  else .ok (Char.ofNat n)

/-- The text of a quoted scalar behind its opening quote, in reverse behind what is read. -/
def quotedText (isDouble : Bool) : (fuel : Nat) → List Char → Cursor →
    Except Fault (List Char × Cursor)
  | 0, _, _ => .error .malformed
  | fuel + 1, read, c => do
    let ch := c.peek
    if ch = (if isDouble then '"' else '\'') then
      if !isDouble && c.ahead 1 == '\'' then
        quotedText isDouble fuel ('\'' :: read) (c.advance 2)
      else return (read.reverse, c.next)
    else if ch = '\x00' then throw .malformed
    else if isDouble && ch == '\\' then
      let c := c.next
      let e := c.peek
      match escapedChar? e, escapeWidth? e with
      | some x, _ => quotedText isDouble fuel (x :: read) c.next
      | none, some width =>
        let c := c.next
        let digits := c.rest.take width
        if digits.length ≠ width then throw .malformed
        match hexNumber? digits with
        | none => throw .malformed
        | some n =>
          let x ← charOfNumber n
          quotedText isDouble fuel (x :: read) (c.advance width)
      | none, none =>
        if isBreak e then
          let (breaks, c) ← quotedBreaks (c.length + 1) [] c.next
          quotedText isDouble fuel (breaks.reverse ++ read) c
        else throw .malformed
    else if isSpaceOrTab ch || isBreak ch then
      let spaces := c.run isSpaceOrTab
      let c := c.advance spaces.length
      if c.peek = '\x00' then throw .malformed
      else if isBreak c.peek then
        let (breaks, after) ← quotedBreaks (c.length + 1) [] c.next
        quotedText isDouble fuel ((foldBreaks (breakText c.peek) breaks).reverse ++ read) after
      else quotedText isDouble fuel (spaces.reverse ++ read) c
    else quotedText isDouble fuel (ch :: read) c.next

/-! ## Block scalars -/

/-- What becomes of the line ends at the end of a block. -/
inductive Chomping where
  | clip
  | strip
  | keep
deriving DecidableEq

/-- The chomping that a sign asks for. -/
def chompingOf? (c : Char) : Option Chomping :=
  if c = '+' then some .keep else if c = '-' then some .strip else none

/-- The indentation that a digit asks for. -/
def indentOf? (c : Char) : Option Nat :=
  if '0' ≤ c ∧ c ≤ '9' then some (c.toNat - '0'.toNat) else none

/-- The chomping and the indentation that the header of a block asks for, in any order. -/
def blockHeader (c : Cursor) : Except Fault (Chomping × Option Nat × Cursor) := do
  let (chomping, increment, c) :=
    match chompingOf? c.peek with
    | some chomping => match indentOf? (c.ahead 1) with
      | some n => (chomping, some n, c.advance 2)
      | none => (chomping, none, c.next)
    | none => match indentOf? c.peek with
      | some n => match chompingOf? (c.ahead 1) with
        | some chomping => (chomping, some n, c.advance 2)
        | none => (.clip, some n, c.next)
      | none => (.clip, none, c)
  if increment = some 0 then throw .malformed
  if c.peek = ' ' ∨ isLineEnd c.peek then return (chomping, increment, c)
  else throw .malformed

/-- Moves to the line behind the header of a block, past a comment. -/
def skipHeaderLine (c : Cursor) : Except Fault Cursor :=
  let c := c.skip (fun ch => ch == ' ')
  let c := if c.peek = '#' then c.skip (fun ch => !isLineEnd ch) else c
  if isBreak c.peek then .ok c.next
  else if c.peek = '\x00' then .ok c
  else .error .malformed

/-- The empty lines at the start of a block, in reverse behind those that are read, the depth of
the first of them, and the greatest depth. -/
def blockStart : (fuel : Nat) → List Char → Option Nat → Nat → Cursor →
    List Char × Option Nat × Nat × Cursor
  | 0, read, first, deepest, c => (read, first, deepest, c)
  | fuel + 1, read, first, deepest, c =>
    if c.peek = ' ' then
      blockStart fuel read first (max deepest c.next.column) c.next
    else if isBreak c.peek then
      blockStart fuel (breakText c.peek :: read) (some (first.getD c.column)) deepest c.next
    else (read, first, deepest, c)

/-- Moves past spaces up to a depth. -/
def skipIndent (indent : Nat) (c : Cursor) : Cursor :=
  c.advance (min (indent - c.column) (c.run (fun ch => ch == ' ')).length)

/-- The empty lines between lines of a block, in reverse behind those that are read. -/
def blockBreaks (indent : Nat) : (fuel : Nat) → List Char → Cursor → List Char × Cursor
  | 0, read, c => (read, c)
  | fuel + 1, read, c =>
    let c := skipIndent indent c
    if isBreak c.peek then blockBreaks indent fuel (breakText c.peek :: read) c.next
    else (read, c)

/-- The lines of a block, in reverse behind what is read: the text, the last line end, and the
empty lines at the end. -/
def blockLines (isFolded isTop : Bool) (indent : Nat) : (fuel : Nat) →
    (read breaks : List Char) → Cursor → List Char × List Char × List Char × Cursor
  | 0, read, breaks, c => (read, [], breaks, c)
  | fuel + 1, read, breaks, c =>
    let line := c.run (fun ch => !isLineEnd ch)
    let read := line.reverse ++ breaks ++ read
    let startsTight := !isSpaceOrTab c.peek
    let c := c.advance line.length
    let lineEnd := if isBreak c.peek then [breakText c.peek] else []
    let c := if isBreak c.peek then c.next else c
    let (breaks, c) := blockBreaks indent (c.length + 1) [] c
    if isTop && c.column == 0 && c.atSeparator then (read, lineEnd, breaks, c)
    else if c.column = indent ∧ c.peek ≠ '\x00' then
      let joint :=
        if isFolded && lineEnd == ['\n'] && startsTight && !isSpaceOrTab c.peek then
          if breaks.isEmpty then [' '] else []
        else lineEnd
      blockLines isFolded isTop indent fuel (joint ++ read) breaks c
    else (read, lineEnd, breaks, c)

/-- The text of a block scalar behind its indicator, inside a block of a depth. -/
def blockText (isFolded : Bool) (depth : Int) (c : Cursor) :
    Except Fault (List Char × Cursor) := do
  let (chomping, increment, c) ← blockHeader c
  let c ← skipHeaderLine c
  let least := (depth + 1).toNat
  let fuel := c.length + 1
  let (indent, breaks, c) ← match increment with
    | some n =>
      let indent := max 1 least + n - 1
      let (breaks, c) := blockBreaks indent fuel [] c
      .ok (indent, breaks, c)
    | none =>
      let (breaks, first, deepest, c) := blockStart fuel [] none 0 c
      let first := first.getD 0
      if 0 < first ∧ first < deepest then .error .malformed
      else .ok (max least deepest, breaks, c)
  let isTop := increment.isNone && least == 0
  let (read, lineEnd, breaks, c) :=
    if c.column = indent ∧ c.peek ≠ '\x00' then
      blockLines isFolded isTop indent fuel [] breaks c
    else ([], [], breaks, c)
  let tail := match chomping with
    | .strip => []
    | .clip => lineEnd
    | .keep => lineEnd ++ breaks.reverse
  return (read.reverse ++ tail, c)

end Pagewright.Yaml
