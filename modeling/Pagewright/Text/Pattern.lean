import Pagewright.Number.Reading
import Pagewright.Text.FieldValue
import Pagewright.Text.Spelling

/-!
# Text patterns

A pattern is a text with fields between braces; a doubled brace stands for itself. A field names
the one value that the pattern is filled with, possibly picks characters of it by position or asks
for what belongs to it by name, may have it spelled out behind an exclamation mark, and may lay it
out behind a colon: a fill character, an alignment, a width, and a number of characters to keep. The
layout may itself contain fields. What belongs to a text besides its characters, and what becomes of
it, is left to the objects that a pattern is filled with.

A pattern is filled from left to right, and the first thing that is wrong with it is reported.
-/

namespace Pagewright.Text

/-- What can be wrong with a pattern. -/
inductive PatternFault where
  | loneOpen
  | loneClose
  | braceInName
  | unclosed
  | noConversion
  | noColon
  | unclosedLayout
  | unknownConversion (c : Char)
  | tooDeep
  | tooManyDigits
  | unclosedPosition
  | emptyPart
  | strayPart
  | unknownName (name : String)
  | noPositional (index : Nat)
  | pastEnd
  | notAPosition
  | object (fault : ObjectFault)
  | noRoom
  | noPrecision
  | twoSeparators
  | separator (mark kind : Char)
  | invalidLayout (layout : String)
  | unknownKind (kind : Char)
  | signed (isSpace : Bool)
  | zeroCoercion
  | alternateForm
  | padAfterSign
deriving DecidableEq

/-- How a character is named in a report: by itself below a bound, or by its number. -/
def reportedChar (bound : Nat) (c : Char) : String :=
  if 32 < c.toNat ∧ c.toNat < bound then c.toString
  else "\\x" ++ String.ofList (Nat.toDigits 16 c.toNat)

/-- The report of a fault. -/
def PatternFault.message : PatternFault → String
  | .loneOpen => "Single '\x7b' encountered in format string"
  | .loneClose => "Single '\x7d' encountered in format string"
  | .braceInName => "unexpected '\x7b' in field name"
  | .unclosed => "expected '\x7d' before end of string"
  | .noConversion => "end of string while looking for conversion specifier"
  | .noColon => "expected ':' after conversion specifier"
  | .unclosedLayout => "unmatched '\x7b' in format spec"
  | .unknownConversion c => "Unknown conversion specifier " ++ reportedChar 127 c
  | .tooDeep => "Max string recursion exceeded"
  | .tooManyDigits => "Too many decimal digits in format string"
  | .unclosedPosition => "Missing ']' in format string"
  | .emptyPart => "Empty attribute in format string"
  | .strayPart => "Only '.' or '[' may follow ']' in format field specifier"
  | .unknownName name => String.ofList (spell name.toList)
  | .noPositional index =>
    "Replacement index " ++ toString index ++ " out of range for positional args tuple"
  | .pastEnd => "string index out of range"
  | .notAPosition => "a position is not a number"
  | .object fault => fault.message
  | .noRoom => "a text is too wide"
  | .noPrecision => "Format specifier missing precision"
  | .twoSeparators => "Cannot specify both ',' and '_'."
  | .separator mark kind =>
    "Cannot specify '" ++ mark.toString ++ "' with '" ++ reportedChar 128 kind ++ "'."
  | .invalidLayout layout =>
    "Invalid format specifier '" ++ layout ++ "' for object of type 'str'"
  | .unknownKind kind =>
    "Unknown format code '" ++ reportedChar 128 kind ++ "' for object of type 'str'"
  | .signed isSpace =>
    (if isSpace then "Space" else "Sign") ++ " not allowed in string format specifier"
  | .zeroCoercion => "Negative zero coercion (z) not allowed in string format specifier"
  | .alternateForm => "Alternate form (#) not allowed in string format specifier"
  | .padAfterSign => "'=' alignment not allowed in string format specifier"

/-! ## The pieces of a pattern -/

/-- A field of a pattern. -/
structure PatternField where
  name : List Char
  conversion : Option Char
  layout : List Char
  isNested : Bool

/-- A piece of a pattern. -/
inductive PatternPiece where
  | char (c : Char)
  | field (field : PatternField)
  | fault (fault : PatternFault)

/-- Where the scan of a pattern stands. -/
inductive PatternState where
  | outside
  | name (read : List Char) (inBrackets : Bool)
  | conversion (name : List Char)
  | converted (name : List Char) (conversion : Char)
  | layout (field : PatternField) (depth : Nat)

/-- The pieces of a pattern from a state on; a fault is the last piece. -/
def patternPieces : PatternState → List Char → List PatternPiece
  | .outside, [] => []
  | .outside, '\x7b' :: '\x7b' :: rest => .char '\x7b' :: patternPieces .outside rest
  | .outside, '\x7d' :: '\x7d' :: rest => .char '\x7d' :: patternPieces .outside rest
  | .outside, ['\x7b'] => [.fault .loneOpen]
  | .outside, '\x7b' :: rest => patternPieces (.name [] false) rest
  | .outside, '\x7d' :: _ => [.fault .loneClose]
  | .outside, c :: rest => .char c :: patternPieces .outside rest
  | .name _ _, [] => [.fault .unclosed]
  | .name read true, c :: rest => patternPieces (.name (read ++ [c]) (c != ']')) rest
  | .name read false, c :: rest =>
    if c = '\x7b' then [.fault .braceInName]
    else if c = '\x7d' then .field ⟨read, none, [], false⟩ :: patternPieces .outside rest
    else if c = ':' then patternPieces (.layout ⟨read, none, [], false⟩ 1) rest
    else if c = '!' then patternPieces (.conversion read) rest
    else patternPieces (.name (read ++ [c]) (c == '[')) rest
  | .conversion _, [] => [.fault .noConversion]
  | .conversion name, c :: rest => patternPieces (.converted name c) rest
  | .converted _ _, [] => [.fault .unclosedLayout]
  | .converted name conversion, c :: rest =>
    if c = '\x7d' then .field ⟨name, some conversion, [], false⟩ :: patternPieces .outside rest
    else if c = ':' then patternPieces (.layout ⟨name, some conversion, [], false⟩ 1) rest
    else [.fault .noColon]
  | .layout _ _, [] => [.fault .unclosedLayout]
  | .layout field depth, c :: rest =>
    if c = '\x7d' ∧ depth ≤ 1 then .field field :: patternPieces .outside rest
    else
      let depth := if c = '\x7b' then depth + 1 else if c = '\x7d' then depth - 1 else depth
      let field := { field with
        layout := field.layout ++ [c]
        isNested := field.isNested || c == '\x7b' }
      patternPieces (.layout field depth) rest

/-! ## The value of a field -/

/-- The greatest position that a pattern can name. -/
def greatestPosition : Nat := 0x7fffffffffffffff

/-- The number that a text of digits writes, if it is one. The digits at the front of any text have
to be in the range of positions. -/
def position? (s : List Char) : Except PatternFault (Option Nat) :=
  let digits := (s.takeWhile fun c => (digitValue? c).isSome).filterMap digitValue?
  let n := Number.ofDigits digits
  if greatestPosition < n then .error .tooManyDigits
  else .ok (if !s.isEmpty && digits.length == s.length then some n else none)

section Filling

variable (objects : Objects)

/-- The part of a value at a subscript. -/
def partAt : FieldValue objects.Object → Subscript →
    Except PatternFault (FieldValue objects.Object)
  | .text s, .position n => s[n]?.elim (.error .pastEnd) fun c => .ok (.text [c])
  | .text _, .key _ => .error .notAPosition
  | .object o, subscript => (objects.item o subscript).mapError .object

/-- Does the character start a further part of a field? -/
def startsPart (c : Char) : Bool := c == '.' || c == '['

/-- Picks a part of a value by the names behind points and the positions between brackets. -/
def pickParts (value : FieldValue objects.Object) (path : List Char) :
    Except PatternFault (FieldValue objects.Object) :=
  match path with
  | [] => .ok value
  | '.' :: rest =>
    let name := rest.takeWhile fun c => !startsPart c
    if name.isEmpty then .error .emptyPart
    else do
      let part ← (objects.named value (String.ofList name)).mapError .object
      pickParts part (rest.dropWhile fun c => !startsPart c)
  | '[' :: rest =>
    match _h : rest.dropWhile fun c => c != ']' with
    | [] => .error .unclosedPosition
    | _ :: more => do
      let item := rest.takeWhile fun c => c != ']'
      let subscript := (← position? item).elim (.key item) Subscript.position
      if item.isEmpty then .error .emptyPart
      else pickParts (← partAt objects value subscript) more
  | _ :: _ => .error .strayPart
termination_by path.length
decreasing_by
  · have shorter := (List.dropWhile_sublist (fun c => !startsPart c) (l := rest)).length_le
    simp only [List.length_cons]
    omega
  · have shorter := (List.dropWhile_sublist (fun c => c != ']') (l := rest)).length_le
    rw [_h] at shorter
    simp only [List.length_cons] at *
    omega

/-- The value that a field names, in a pattern with one named value. -/
def fieldValue (name : String) (value : List Char) (field : List Char) :
    Except PatternFault (FieldValue objects.Object) := do
  let first := field.takeWhile fun c => !startsPart c
  let path := field.dropWhile fun c => !startsPart c
  match ← position? first with
  | some index => .error (.noPositional index)
  | none =>
    if first.isEmpty then .error (.noPositional 0)
    else if first = name.toList then pickParts objects (.text value) path
    else .error (.unknownName (String.ofList first))

/-- The spelling of a character in which everything outside ASCII is written by its number. -/
def spellAsciiChar (c : Char) : List Char :=
  if c.toNat < 0x80 then [c]
  else if c.toNat < 0x100 then '\\' :: 'x' :: hexDigits 2 c.toNat
  else if c.toNat < 0x10000 then '\\' :: 'u' :: hexDigits 4 c.toNat
  else '\\' :: 'U' :: hexDigits 8 c.toNat

/-- The display of a value on its own. -/
def displayValue : FieldValue objects.Object → Except PatternFault (List Char)
  | .text s => .ok s
  | .object o => (objects.display o).mapError .object

/-- The spelling of a value. -/
def spellValue : FieldValue objects.Object → Except PatternFault (List Char)
  | .text s => .ok (spell s)
  | .object o => (objects.spelled o).mapError .object

/-- The value as a conversion shows it. -/
def convertValue (value : FieldValue objects.Object) :
    Option Char → Except PatternFault (FieldValue objects.Object)
  | none => .ok value
  | some 's' => (displayValue objects value).map .text
  | some 'r' => (spellValue objects value).map .text
  | some 'a' => (spellValue objects value).map fun s => .text (s.flatMap spellAsciiChar)
  | some c => .error (.unknownConversion c)

/-! ## Laying out a value -/

/-- Is the character an alignment? -/
def isAlignment (c : Char) : Bool := c == '<' || c == '>' || c == '=' || c == '^'

/-- A layout as it is written. -/
structure TextLayout where
  fill : Char := ' '
  alignment : Char := '<'
  sign : Option Char := none
  coercesZero : Bool := false
  isAlternate : Bool := false
  width : Nat := 0
  separator : Option Char := none
  precision : Option Nat := none
  kind : Char := 's'

/-- The digits at the front of a layout: how many there are, their number, and the rest. -/
def takeNumber (s : List Char) : Except PatternFault (Nat × Nat × List Char) :=
  let digits := (s.takeWhile fun c => (digitValue? c).isSome).filterMap digitValue?
  let n := Number.ofDigits digits
  if greatestPosition < n then .error .tooManyDigits
  else .ok (digits.length, n, s.drop digits.length)

/-- Splits off a character of a class. -/
def takeMark (p : Char → Bool) : List Char → Option Char × List Char
  | [] => (none, [])
  | c :: rest => if p c then (some c, rest) else (none, c :: rest)

/-- The fill character and the alignment at the front of a layout. -/
def takeAlignment : List Char → Option Char × Option Char × List Char
  | fill :: c :: rest =>
    if isAlignment c then (some fill, some c, rest)
    else if isAlignment fill then (none, some fill, c :: rest)
    else (none, none, fill :: c :: rest)
  | [c] => if isAlignment c then (none, some c, []) else (none, none, [c])
  | [] => (none, none, [])

/-- The separator of thousands at the front of a layout. -/
def takeSeparator (s : List Char) : Except PatternFault (Option Char × List Char) :=
  match s with
  | ',' :: '_' :: _ => .error .twoSeparators
  | '_' :: ',' :: _ => .error .twoSeparators
  | ',' :: rest => .ok (some ',', rest)
  | '_' :: rest => .ok (some '_', rest)
  | _ => .ok (none, s)

/-- The number of characters to keep at the front of a layout, behind a point. -/
def takePrecision : List Char → Except PatternFault (Option Nat × List Char)
  | '.' :: rest => do
    let (count, n, rest) ← takeNumber rest
    if count = 0 then .error .noPrecision else .ok (some n, rest)
  | s => .ok (none, s)

/-- May a separator of thousands stand with a kind? -/
def admitsSeparator (mark kind : Char) : Bool :=
  "defgEG%F".toList.contains kind || (mark == '_' && "boxX".toList.contains kind)

/-- Reads a layout. -/
def readLayout (s : List Char) : Except PatternFault TextLayout := do
  let (fill, alignment, rest) := takeAlignment s
  let (sign, rest) := takeMark (fun c => c == ' ' || c == '+' || c == '-') rest
  let (zero, rest) := takeMark (fun c => c == 'z') rest
  let (alternate, rest) := takeMark (fun c => c == '#') rest
  let (padding, rest) := if fill.isSome then (none, rest) else takeMark (fun c => c == '0') rest
  let (_, width, rest) ← takeNumber rest
  let (separator, rest) ← takeSeparator rest
  let (precision, rest) ← takePrecision rest
  let kind ← match rest with
    | [] => .ok 's'
    | [c] => .ok c
    | _ => .error (.invalidLayout (String.ofList s))
  match separator with
  | none => pure ()
  | some mark => if admitsSeparator mark kind then pure () else throw (.separator mark kind)
  return {
    fill := fill.getD (padding.getD ' ')
    alignment := alignment.getD '<'
    sign, coercesZero := zero.isSome, isAlternate := alternate.isSome
    width, separator, precision, kind }

/-- Refuses what a layout may ask of numbers only. -/
def TextLayout.check (l : TextLayout) : Except PatternFault Unit :=
  if l.kind ≠ 's' then .error (.unknownKind l.kind)
  else match l.sign with
    | some c => .error (.signed (c == ' '))
    | none =>
      if l.coercesZero then .error .zeroCoercion
      else if l.isAlternate then .error .alternateForm
      else if l.alignment = '=' then .error .padAfterSign
      else .ok ()

/-- A text cut and padded as a layout says. -/
def TextLayout.apply (l : TextLayout) (value : List Char) : List Char :=
  let kept := match l.precision with
    | some n => value.take n
    | none => value
  let room := l.width - kept.length
  let left := if l.alignment = '>' then room else if l.alignment = '^' then room / 2 else 0
  List.replicate left l.fill ++ kept ++ List.replicate (room - left) l.fill

/-- A value laid out; an empty layout leaves a text as it is. -/
def layoutValue (value : FieldValue objects.Object) (layout : List Char) :
    Except PatternFault (List Char) := do
  match value with
  | .text s =>
    if layout.isEmpty then return s
    let l ← readLayout layout
    l.check
    if objects.room < l.width then throw .noRoom
    return l.apply s
  | .object o => (objects.laidOut o layout).mapError .object

/-! ## Filling a pattern -/

/-- Fills a pattern in which layouts are nested less than `depth` times. -/
def fillWithin (name : String) (value : List Char) :
    (depth : Nat) → List Char → Except PatternFault (List Char)
  | 0, _ => .error .tooDeep
  | depth + 1, pattern => do
    let parts ← (patternPieces .outside pattern).mapM fun piece => match piece with
      | .char c => .ok [c]
      | .fault fault => .error fault
      | .field field => do
        let picked ← fieldValue objects name value field.name
        let converted ← convertValue objects picked field.conversion
        let layout ← if field.isNested then fillWithin name value depth field.layout
          else .ok field.layout
        layoutValue objects converted layout
    return parts.flatten

/-- The pattern filled with one named value. -/
def fillPattern (pattern : List Char) (name : String) (value : List Char) :
    Except PatternFault (List Char) :=
  fillWithin objects name value 2 pattern

end Filling

end Pagewright.Text
