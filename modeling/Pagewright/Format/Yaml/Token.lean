import Pagewright.Format.Yaml.Text
import Pagewright.Text.Utf8

/-!
# YAML tokens

The tokens of a YAML text are its indicators, its scalars, and the starts and ends of the blocks
that indentation makes. The start of a mapping is only seen at the colon behind its first key, so
the places where a key may have started are kept, one for each depth of flow collections, and the
tokens of a key are put in front of it when its colon is met. A key ends on its line, within 1024
characters.

Tokens are read one by one: a reader sees the next token as soon as no key can start in front of it
any more, and what is wrong behind it is not yet known then. So the directives of a document decide
how the rest of it is read.
-/

namespace Pagewright.Yaml

/-- A token. -/
inductive Token where
  | version (major minor : Nat)
  | handle (name meaning : List Char)
  | directive
  | documentStart
  | documentEnd
  | blockSequence
  | blockMapping
  | blockEnd
  | flowSequence
  | flowSequenceEnd
  | flowMapping
  | flowMappingEnd
  | flowEntry
  | blockEntry
  | key
  | value
  | alias (name : List Char)
  | anchor (name : List Char)
  | tag (handle : Option (List Char)) (suffix : List Char)
  | scalar (text : List Char) (isPlain : Bool)
deriving DecidableEq

/-- A place where a key may have started. -/
structure KeyStart where
  token : Nat
  isRequired : Bool
  index : Nat
  line : Nat
  column : Nat

/-- Where the scan of a text stands: the tokens that are read and not yet taken, how many were
taken, and whether the end of the text is reached. A flow collection is named by whether it is a
sequence. -/
structure Scan where
  cursor : Cursor
  version : Version := .v12
  queue : List Token := []
  taken : Nat := 0
  isDone : Bool := false
  flow : List Bool := []
  indent : Int := -1
  indents : List Int := []
  mayStartKey : Bool := true
  keys : List (Nat × KeyStart) := []

namespace Scan

/-- Is the scan inside a flow collection? -/
def inFlow (s : Scan) : Bool := !s.flow.isEmpty

/-- Appends a token. -/
def emit (t : Token) (s : Scan) : Scan := { s with queue := s.queue ++ [t] }

/-- Puts a token in front of the one with a number. -/
def emitAt (number : Nat) (t : Token) (s : Scan) : Scan :=
  { s with queue := s.queue.insertIdx (number - s.taken) t }

/-- Moves past characters. -/
def move (n : Nat) (s : Scan) : Scan := { s with cursor := s.cursor.advance n }

/-- Can the key not reach the position any more? -/
def isStale (s : Scan) (k : KeyStart) : Bool :=
  k.line != s.cursor.line || k.index + 1024 < s.cursor.index

/-- Forgets the keys that cannot reach the position any more. -/
def dropStale (s : Scan) : Except Fault Scan :=
  if s.keys.any (fun k => s.isStale k.2 && k.2.isRequired) then .error .malformed
  else .ok { s with keys := s.keys.filter fun k => !s.isStale k.2 }

/-- Forgets the key that may have started at this depth of flow collections. -/
def dropKey (s : Scan) : Except Fault Scan :=
  if (s.keys.lookup s.flow.length).any KeyStart.isRequired then .error .malformed
  else .ok { s with keys := s.keys.filter fun k => k.1 != s.flow.length }

/-- Notes that a key may start here. -/
def noteKey (s : Scan) : Except Fault Scan :=
  if s.mayStartKey then do
    let isRequired := !s.inFlow && s.indent == s.cursor.column
    let s ← s.dropKey
    let k : KeyStart := {
      token := s.taken + s.queue.length, isRequired
      index := s.cursor.index, line := s.cursor.line, column := s.cursor.column }
    return { s with keys := (s.flow.length, k) :: s.keys }
  else .ok s

/-- Ends the blocks that are deeper than a column. The list holds the depths around them. -/
def endBlocks (column : Int) : List Int → Scan → Scan
  | [], s => s
  | outer :: rest, s =>
    if column < s.indent then
      endBlocks column rest ({ s with indent := outer, indents := rest }.emit .blockEnd)
    else s

/-- Ends the blocks that are deeper than a column; flow collections ignore indentation. -/
def unwind (column : Int) (s : Scan) : Scan :=
  if s.inFlow then s else endBlocks column s.indents s

/-- Is a column deeper than the block? -/
def isDeeper (s : Scan) (column : Nat) : Bool := s.indent < column

/-- Starts a block at a column. -/
def indentTo (column : Nat) (s : Scan) : Scan :=
  { s with indents := s.indent :: s.indents, indent := column }

/-- Starts a block at the position if it is deeper. -/
def openBlock (t : Token) (s : Scan) : Scan :=
  if s.isDeeper s.cursor.column then (s.indentTo s.cursor.column).emit t else s

/-- Moves past spaces, comments and line ends; tabs only inside flow collections. In a block the
start of a line may start a key. -/
def skipToToken : (fuel : Nat) → Scan → Scan
  | 0, s => s
  | fuel + 1, s =>
    let c := s.cursor.skip fun ch => ch == ' ' || (s.inFlow && ch == '\t')
    let c := if c.peek = '#' then c.skip (fun ch => !isLineEnd ch) else c
    if isBreak c.peek then
      skipToToken fuel { s with cursor := c.next, mayStartKey := s.mayStartKey || !s.inFlow }
    else { s with cursor := c }

/-! ## Indicators -/

/-- A mark between documents, or the end of the text. -/
def betweenDocuments (s : Scan) : Except Fault Scan := do
  let s ← (s.unwind (-1)).dropKey
  return { s with mayStartKey := false }

/-- The start of a flow collection. -/
def openFlow (isSequence : Bool) (s : Scan) : Except Fault Scan := do
  let s ← s.noteKey
  let s := s.emit (if isSequence then .flowSequence else .flowMapping)
  return { s with flow := isSequence :: s.flow, mayStartKey := true }.move 1

/-- The end of a flow collection. -/
def closeFlow (t : Token) (s : Scan) : Except Fault Scan := do
  let s ← s.dropKey
  return { s with flow := s.flow.tail, mayStartKey := false }.emit t |>.move 1

/-- A comma. -/
def flowEntry (s : Scan) : Except Fault Scan := do
  let s ← s.dropKey
  return { s with mayStartKey := true }.emit .flowEntry |>.move 1

/-- The hyphen of an entry. -/
def blockEntry (s : Scan) : Except Fault Scan := do
  if !s.inFlow && !s.mayStartKey then throw .malformed
  let s := if s.inFlow then s else s.openBlock .blockSequence
  let s ← { s with mayStartKey := true }.dropKey
  return s.emit .blockEntry |>.move 1

/-- The question mark of a key. -/
def explicitKey (s : Scan) : Except Fault Scan := do
  if !s.inFlow && !s.mayStartKey then throw .malformed
  let s := if s.inFlow then s else s.openBlock .blockMapping
  let s ← { s with mayStartKey := !s.inFlow }.dropKey
  return s.emit .key |>.move 1

/-- The colon of a value. -/
def colon (s : Scan) : Except Fault Scan := do
  match s.keys.lookup s.flow.length with
  | some k =>
    let s := { s with keys := s.keys.filter fun k => k.1 != s.flow.length }
    let s := s.emitAt k.token .key
    let s := if !s.inFlow && s.isDeeper k.column then
        (s.indentTo k.column).emitAt k.token .blockMapping
      else s
    return { s with mayStartKey := false }.emit .value |>.move 1
  | none =>
    if !s.inFlow && !s.mayStartKey then throw .malformed
    let s := if s.inFlow then s else s.openBlock .blockMapping
    let s ← { s with mayStartKey := !s.inFlow }.dropKey
    return s.emit .value |>.move 1

/-! ## Names and tags -/

/-- May the character stand in the name of an anchor? -/
def isAnchorChar (c : Char) : Bool :=
  (('\x21' ≤ c && c ≤ '\x7e') || ('\xa0' ≤ c && c != '\uFEFF')) && !isFlowIndicator c

/-- An anchor or an alias. -/
def named (make : List Char → Token) (s : Scan) : Except Fault Scan := do
  let s ← s.noteKey
  let c := s.cursor.next
  let name := c.run isAnchorChar
  let c := c.advance name.length
  if name.isEmpty then throw .malformed
  if isGap c.peek || isFlowIndicator c.peek then
    return { s with cursor := c, mayStartKey := false }.emit (make name)
  else throw .malformed

/-- May the character stand in the name of a tag handle? -/
def isHandleChar (c : Char) : Bool := c.isAlphanum || c == '-' || c == '_'

/-- May the character stand in a tag? -/
def isTagChar (version : Version) (c : Char) : Bool :=
  c.isAlphanum || "-;/?:@&=+$,_.!~*'()[]%".toList.contains c || (c == '#' && version == .v12)

/-- Are the escapes of a tag complete, and is each run of them UTF-8? The bytes are those of the
run in front of the text. -/
def hasTextEscapes : (run : List UInt8) → List Char → Bool
  | run, [] => (Text.ofUtf8? run).isSome
  | run, '%' :: a :: b :: rest => match hexNumber? [a, b] with
    | some n => hasTextEscapes (run ++ [UInt8.ofNat n]) rest
    | none => false
  | _, '%' :: _ => false
  | run, _ :: rest => (Text.ofUtf8? run).isSome && hasTextEscapes [] rest

/-- The characters of a tag at a position. -/
def tagUri (version : Version) (c : Cursor) : Except Fault (List Char × Cursor) :=
  let written := c.run (isTagChar version)
  if written.isEmpty || !hasTextEscapes [] written then .error .malformed
  else .ok (written, c.advance written.length)

/-- The handle of a tag at a position. -/
def tagHandle (c : Cursor) : Except Fault (List Char × Cursor) :=
  let name := c.next.run isHandleChar
  let behind := c.advance (name.length + 1)
  if c.peek ≠ '!' then .error .malformed
  else if behind.peek = '!' then .ok ('!' :: name ++ ['!'], behind.next)
  else if c.ahead 1 = ' ' then .ok (['!'], c.next)
  else .error .malformed

/-- The handle and the suffix of a tag behind its exclamation mark; the mark stands for a short
handle, which a second mark makes the longer one. -/
def tagParts (version : Version) (c : Cursor) :
    Except Fault (Option (List Char) × List Char × Cursor) := do
  let isDouble := c.ahead 1 == '!'
  let short := if isDouble then ['!', '!'] else ['!']
  let c := if isDouble then c.next else c
  if c.ahead 1 = '<' then
    let (suffix, c) ← tagUri version (c.advance 2)
    if c.peek ≠ '>' then throw .malformed
    return (none, suffix, c.next)
  else if isGap (c.ahead 1) then return (none, short, c.next)
  else
    let word := c.next.run fun ch => ch != ' ' && !isBreak ch
    let (handle, c) ← if word.contains '!' then tagHandle c else .ok (short, c.next)
    let (suffix, c) ← tagUri version c
    return (some handle, suffix, c)

/-- A tag. -/
def tagged (s : Scan) : Except Fault Scan := do
  let s ← s.noteKey
  let (handle, suffix, c) ← tagParts s.version s.cursor
  if c.peek = ' ' ∨ isLineEnd c.peek then
    return { s with cursor := c, mayStartKey := false }.emit (.tag handle suffix)
  else throw .malformed

/-! ## Directives -/

/-- Moves past spaces. -/
def skipSpaces (c : Cursor) : Cursor := c.skip fun ch => ch == ' '

/-- May the character stand in the name of a directive? -/
def isDirectiveChar (c : Char) : Bool := isHandleChar c || c == ':' || c == '.'

/-- The number that decimal digits of ASCII write. -/
def numberOf (digits : List Char) : Nat :=
  digits.foldl (fun n d => n * 10 + (d.toNat - '0'.toNat)) 0

/-- The token of a directive of a name. -/
def directiveToken (version : Version) (name : List Char) (c : Cursor) :
    Except Fault (Token × Cursor) := do
  if name = "YAML".toList then
    let c := skipSpaces c
    let major := c.run Char.isDigit
    let c := c.advance major.length
    let minor := c.next.run Char.isDigit
    if major.isEmpty ∨ c.peek ≠ '.' ∨ minor.isEmpty then throw .malformed
    let c := c.next.advance minor.length
    if c.peek = ' ' ∨ isLineEnd c.peek then
      return (.version (numberOf major) (numberOf minor), c)
    else throw .malformed
  else if name = "TAG".toList then
    let (handle, c) ← tagHandle (skipSpaces c)
    if c.peek ≠ ' ' then throw .malformed
    let (meaning, c) ← tagUri version (skipSpaces c)
    if c.peek = ' ' ∨ isLineEnd c.peek then return (.handle handle meaning, c)
    else throw .malformed
  else return (.directive, c.skip fun ch => !isLineEnd ch)

/-- A directive. -/
def directive (s : Scan) : Except Fault Scan := do
  let s ← s.betweenDocuments
  let c := s.cursor.next
  let name := c.run isDirectiveChar
  let c := c.advance name.length
  if name.isEmpty then throw .malformed
  if !(c.peek = ' ' ∨ isLineEnd c.peek) then throw .malformed
  let (t, c) ← directiveToken s.version name c
  let c ← skipHeaderLine c
  return { s with cursor := c }.emit t

/-! ## Scalars -/

/-- A plain scalar. -/
def plainScalar (s : Scan) : Except Fault Scan := do
  let s ← s.noteKey
  let (text, lineEnded, c) :=
    plainText s.version s.inFlow (s.indent + 1) (s.cursor.length + 1) [] [] false s.cursor
  return { s with cursor := c, mayStartKey := lineEnded }.emit (.scalar text true)

/-- A quoted scalar. -/
def quotedScalar (isDouble : Bool) (s : Scan) : Except Fault Scan := do
  let s ← s.noteKey
  let (text, c) ← quotedText isDouble (s.cursor.length + 1) [] s.cursor.next
  return { s with cursor := c, mayStartKey := false }.emit (.scalar text false)

/-- A block scalar. -/
def blockScalar (isFolded : Bool) (s : Scan) : Except Fault Scan := do
  let s ← { s with mayStartKey := true }.dropKey
  let (text, c) ← blockText isFolded s.indent s.cursor.next
  return { s with cursor := c }.emit (.scalar text false)

/-! ## Scanning -/

/-- Does a colon here stand in front of a value? In a flow mapping it does so without a gap behind
it, unless it stands directly behind another colon whose token waits; in the older version it does
so in every flow collection. -/
def isValueColon (s : Scan) : Bool :=
  isGap (s.cursor.ahead 1) ||
    match s.version with
    | .v11 => s.inFlow
    | .v12 => s.flow.head? == some false && s.queue.getLast? != some .value

/-- May a plain scalar start here? -/
def mayStartPlain (s : Scan) : Bool :=
  let c := s.cursor.peek
  let solid := !isGap (s.cursor.ahead 1)
  (!isGap c && !"-?:,[]\x7b\x7d#&*!|>'\"%@\x60".toList.contains c) ||
    (solid && (c == '-' || c == ':' || (c == '?' && !s.inFlow)))

/-- Reads the next token at a position where one starts. -/
def token (s : Scan) : Except Fault Scan :=
  let ch := s.cursor.peek
  let behind := s.cursor.ahead 1
  let atMargin := s.cursor.column == 0
  if ch = '%' ∧ atMargin then s.directive
  else if atMargin && ch == '-' && s.cursor.atSeparator then
    s.betweenDocuments.map fun s => s.emit .documentStart |>.move 3
  else if atMargin && ch == '.' && s.cursor.atSeparator then
    s.betweenDocuments.map fun s => s.emit .documentEnd |>.move 3
  else if ch = '[' then s.openFlow true
  else if ch = '\x7b' then s.openFlow false
  else if ch = ']' then s.closeFlow .flowSequenceEnd
  else if ch = '\x7d' then s.closeFlow .flowMappingEnd
  else if ch = ',' then s.flowEntry
  else if ch = '-' ∧ isGap behind then s.blockEntry
  else if ch = '?' ∧ (s.inFlow ∨ isGap behind) then s.explicitKey
  else if ch = ':' ∧ s.isValueColon then s.colon
  else if ch = '*' then s.named .alias
  else if ch = '&' then s.named .anchor
  else if ch = '!' then s.tagged
  else if ch = '|' ∧ !s.inFlow then s.blockScalar false
  else if ch = '>' ∧ !s.inFlow then s.blockScalar true
  else if ch = '\'' then s.quotedScalar false
  else if ch = '"' then s.quotedScalar true
  else if s.mayStartPlain then s.plainScalar
  else .error .malformed

/-- Reads on: the tokens up to the next indicator or scalar, or the end of the text. -/
def readOn (s : Scan) : Except Fault Scan := do
  let s ← (skipToToken (s.cursor.length + 1) s).dropStale
  let s := s.unwind s.cursor.column
  if s.cursor.rest.isEmpty then
    let s ← s.betweenDocuments
    return { s with keys := [], isDone := true }
  else s.token

/-- May a key still start in front of the next token? -/
def isOpen (s : Scan) : Bool := s.keys.any fun k => k.2.token == s.taken

/-- Reads on until the next token is known. Every step takes a character or reaches the end. -/
def lookAhead : (fuel : Nat) → Scan → Except Fault Scan
  | 0, _ => .error .malformed
  | fuel + 1, s => do
    if s.isDone then return s
    if s.queue.isEmpty then lookAhead fuel (← s.readOn)
    else
      let s ← s.dropStale
      if s.isOpen then lookAhead fuel (← s.readOn) else return s

/-- The scan with the next token known; none at the end of the text. -/
def settle (s : Scan) : Except Fault Scan := lookAhead (s.cursor.length + 2) s

/-- Takes the next token. -/
def take (s : Scan) : Scan := { s with queue := s.queue.tail, taken := s.taken + 1 }

end Scan

/-- The start of the scan of a text; a byte order mark at its start is passed over. -/
def Scan.start (s : List Char) : Except Fault Scan :=
  if s.all isPrintable then
    let c := Cursor.start (unifyLineEnds s)
    .ok { cursor := if c.peek = '\uFEFF' then c.next else c }
  else .error .malformed

end Pagewright.Yaml
