import Pagewright.Format.Yaml.Cursor
import Pagewright.Number.Reading
import Pagewright.Text.Case
import Pagewright.Value.Basic

/-!
# The meaning of a YAML scalar

A plain scalar is a truth value, a number, a date, nothing, or a text, by the shape of its
characters; the two versions of YAML differ in the shapes. Numbers may hold underscores anywhere
among their digits, which is why a number of the right shape may still have no value. A line feed
at the end of a scalar is no part of its shape.

A tag may ask for a kind that the shape does not have. Then the reading of values is more generous
than the shapes are. Bytes are written in base 64, and only where a tag asks for them.
-/

namespace Pagewright.Yaml

open Pagewright.Number

/-- What kind of value a node is. The kinds of merge keys and of the value key are marks of keys
and have no values. -/
inductive Kind where
  | null
  | bool
  | int
  | float
  | text
  | timestamp
  | binary
  | sequence
  | mapping
  | orderedMapping
  | set
  | pairs
  | merge
  | value
  | unknown
deriving DecidableEq

/-- Does the class hold of every character of a text that is not empty? -/
def isRun (p : Char → Bool) (s : List Char) : Bool := !s.isEmpty && s.all p

/-- Is the character a digit or an underscore? -/
def isDigitOrMark (c : Char) : Bool := c.isDigit || c == '_'

/-- The text without a sign. -/
def dropSign : List Char → List Char
  | '-' :: rest => rest
  | '+' :: rest => rest
  | s => s

/-- Is the text an exponent? A sign may be demanded. -/
def isExponent (needsSign : Bool) : List Char → Bool
  | e :: rest =>
    (e == 'e' || e == 'E') && isRun Char.isDigit (dropSign rest) &&
      (!needsSign || dropSign rest != rest)
  | [] => false

/-- Is the text the minutes or seconds of a number of base sixty? -/
def isSixtieth : List Char → Bool
  | [d] => d.isDigit
  | [t, d] => '0' ≤ t && t ≤ '5' && d.isDigit
  | _ => false

/-- Is the text a digit of a class with digits and underscores behind it? -/
def isLead (p : Char → Bool) : List Char → Bool
  | [] => false
  | c :: rest => p c && rest.all isDigitOrMark

/-- Has the text, without its sign, the shape of a fraction of base sixty? -/
def isSexagesimalFloat (s : List Char) : Bool :=
  let whole := s.takeWhile fun c => c != '.'
  match s.drop whole.length, Text.splitBy (fun c => c == ':') whole with
  | '.' :: places, lead :: sixtieths =>
    places.all isDigitOrMark && isLead Char.isDigit lead && !sixtieths.isEmpty &&
      sixtieths.all isSixtieth
  | _, _ => false

/-- Has the text, without its sign, the shape of an integer of base sixty? -/
def isSexagesimalInt (s : List Char) : Bool :=
  match Text.splitBy (fun c => c == ':') s with
  | lead :: sixtieths =>
    isLead (fun c => '1' ≤ c && c ≤ '9') lead && !sixtieths.isEmpty && sixtieths.all isSixtieth
  | [] => false

/-- Has the text, without its sign, the shape of a number with a point or an exponent? -/
def isFloatBody : List Char → Bool
  | [] => false
  | '.' :: rest =>
    let digits := rest.takeWhile isDigitOrMark
    let tail := rest.dropWhile isDigitOrMark
    !digits.isEmpty && (tail.isEmpty || isExponent true tail)
  | c :: rest =>
    c.isDigit && match rest.dropWhile isDigitOrMark with
      | '.' :: places =>
        let tail := places.dropWhile isDigitOrMark
        tail.isEmpty || isExponent false tail
      | tail => isExponent false tail

/-- The names of the infinity. -/
def infinityNames : List (List Char) := [".inf", ".Inf", ".INF"].map String.toList

/-- The names of the number that is none. -/
def nanNames : List (List Char) := [".nan", ".NaN", ".NAN"].map String.toList

/-- Has the text the shape of a binary64 number? In the older version a number that starts with a
point has no sign, and there are fractions of base sixty. -/
def isFloat (version : Version) (s : List Char) : Bool :=
  let body := dropSign s
  infinityNames.contains body || nanNames.contains s ||
    match version with
    | .v11 =>
      (isFloatBody body && !(body.head? == some '.' && body != s)) || isSexagesimalFloat body
    | .v12 => isFloatBody body

/-- Is the character a hexadecimal digit? -/
def isHexDigit (c : Char) : Bool :=
  c.isDigit || ('a' ≤ c && c ≤ 'f') || ('A' ≤ c && c ≤ 'F')

/-- Has the text, without its sign, the shape of an integer with the mark of a base? -/
def isMarkedInt (version : Version) (s : List Char) : Bool :=
  match s with
  | '0' :: 'b' :: rest => isRun (fun c => c == '0' || c == '1' || c == '_') rest
  | '0' :: 'o' :: rest => version == .v12 && isRun (fun c => ('0' ≤ c && c ≤ '7') || c == '_') rest
  | '0' :: 'x' :: rest => isRun (fun c => isHexDigit c || c == '_') rest
  | _ => false

/-- Has the text, without its sign, the shape of an integer? In the older version a zero in front
marks the base eight, and there are integers of base sixty. -/
def isIntBody (version : Version) (s : List Char) : Bool :=
  isMarkedInt version s ||
    match version with
    | .v11 =>
      isRun (fun c => ('0' ≤ c && c ≤ '7') || c == '_') s ||
        isLead (fun c => '1' ≤ c && c ≤ '9') s || isSexagesimalInt s
    | .v12 => isRun isDigitOrMark s

/-- Has the text the shape of an integer? -/
def isInt (version : Version) (s : List Char) : Bool :=
  match s with
  | [] => false
  | c :: _ => (c.isDigit || c == '-' || c == '+') && isIntBody version (dropSign s)

/-! ## Dates -/

/-- The digits at the front of a text, at least one and at most `most`, and the rest. -/
def takeNumber (most : Nat) (s : List Char) : Option (Nat × List Char) :=
  let digits := (s.take most).takeWhile Char.isDigit
  if digits.isEmpty then none
  else some (digits.foldl (fun n d => n * 10 + (d.toNat - 48)) 0, s.drop digits.length)

/-- Exactly `width` digits at the front of a text, and the rest. -/
def takeDigits (width : Nat) (s : List Char) : Option (Nat × List Char) :=
  if (s.take width).all Char.isDigit && width ≤ s.length then takeNumber width s else none

/-- Splits off a character. -/
def takeChar (c : Char) : List Char → Option (List Char)
  | [] => none
  | d :: rest => if d = c then some rest else none

/-- Drops the spaces and tabs at the front. -/
def dropSpaces (s : List Char) : List Char := s.dropWhile isSpaceOrTab

/-- The distance from universal time that makes up a text, if any is written. -/
def readOffset (s : List Char) : Option (Option ZoneOffset) :=
  match dropSpaces s with
  | [] => if s.isEmpty then some none else none
  | ['Z'] => some (some ⟨0, "Z"⟩)
  | sign :: rest => do
    if sign ≠ '+' ∧ sign ≠ '-' then none
    let (hours, rest) ← takeNumber 2 rest
    let (minutes, rest) ← match rest with
      | ':' :: rest => takeDigits 2 rest
      | rest => some (0, rest)
    if !rest.isEmpty then none
    let total : Int := hours * 60 + minutes
    return some ⟨if sign = '-' then -total else total, String.ofList (dropSpaces s)⟩

/-- The millionths that the digits of a fraction give, rounded at the seventh digit. -/
def microOf (digits : List Char) : Nat :=
  let padded := digits.take 6 ++ List.replicate (6 - digits.length) '0'
  let n := padded.foldl (fun n d => n * 10 + (d.toNat - 48)) 0
  if (digits[6]?).any (fun d => '5' ≤ d) then n + 1 else n

/-- The time of day that makes up a text. The fraction may round up to a whole second. -/
def readClock (s : List Char) : Option Clock := do
  let (hour, rest) ← takeNumber 2 s
  let (minute, rest) ← takeDigits 2 (← takeChar ':' rest)
  let (second, rest) ← takeDigits 2 (← takeChar ':' rest)
  let (fraction, rest) := match rest with
    | '.' :: rest => (rest.takeWhile Char.isDigit, rest.dropWhile Char.isDigit)
    | rest => ([], rest)
  return { hour, minute, second, micro := microOf fraction, offset := ← readOffset rest }

/-- The date or time that makes up a text. -/
def readMoment (s : List Char) : Option Moment := do
  let (year, rest) ← takeDigits 4 s
  let (month, rest) ← takeNumber 2 (← takeChar '-' rest)
  let (day, rest) ← takeNumber 2 (← takeChar '-' rest)
  match rest with
  | [] => return { year, month, day, clock := none }
  | c :: more =>
    if c = 'T' ∨ c = 't' then return { year, month, day, clock := some (← readClock more) }
    else if isSpaceOrTab c then
      return { year, month, day, clock := some (← readClock (dropSpaces more)) }
    else none

/-- Has the text the shape of a date or a time? A date on its own has all its digits. -/
def isMoment (s : List Char) : Bool :=
  (readMoment s).any fun m => m.clock.isSome || s.length == 10

/-- The date or time that a scalar writes. A whole second in the fraction is carried over. -/
def momentValue (s : List Char) : Except Fault Moment :=
  match readMoment s with
  | none => .error .malformed
  | some m =>
    let carries := m.clock.any fun c => 1000000 ≤ c.micro
    let m := if carries then { m with clock := m.clock.map fun c => { c with micro := 0 } } else m
    if !m.isValid then .error .badValue
    else if carries then m.nextSecond?.elim (.error .outOfRange) .ok
    else .ok m

/-! ## Kinds by shape -/

/-- The names of true and false. -/
def truthNames : Version → List (List Char)
  | .v11 => ["y", "Y", "yes", "Yes", "YES", "n", "N", "no", "No", "NO", "true", "True", "TRUE",
      "false", "False", "FALSE", "on", "On", "ON", "off", "Off", "OFF"].map String.toList
  | .v12 => ["true", "True", "TRUE", "false", "False", "FALSE"].map String.toList

/-- The names of nothing. -/
def nullNames : List (List Char) := ["", "~", "null", "Null", "NULL"].map String.toList

/-- The text without a line feed at its end. -/
def dropFinalBreak (s : List Char) : List Char := if s.getLast? = some '\n' then s.dropLast else s

/-- The kind of a plain scalar. A lone line feed is a text. -/
def plainKind (version : Version) (s : List Char) : Kind :=
  let shape := dropFinalBreak s
  if shape.isEmpty then (if s.isEmpty then .null else .text)
  else if (truthNames version).contains shape then .bool
  else if isFloat version shape then .float
  else if isInt version shape then .int
  else if shape = "<<".toList then .merge
  else if nullNames.contains shape then .null
  else if isMoment shape then .timestamp
  else if shape = ['='] then .value
  else if [['!'], ['&'], ['*']].contains shape then .unknown
  else .text

/-! ## Values -/

/-- Splits off a sign of a number, which has to have a character; the flag says whether it is a
minus. -/
def takeNumberSign : List Char → Except Fault (Bool × List Char)
  | [] => .error .emptyNumber
  | '-' :: rest => .ok (true, rest)
  | '+' :: rest => .ok (false, rest)
  | s => .ok (false, s)

/-- The value, or the report that there is none. -/
def orBadValue {α : Type} (value? : Option α) : Except Fault α := value?.elim (.error .badValue) .ok

/-- The parts of a number of base sixty, each with the power of sixty it counts, from the last. -/
def sexagesimalParts (s : List Char) : List (Nat × List Char) :=
  let parts := (Text.splitBy (fun c => c == ':') s).reverse
  parts.zipIdx.map fun part => (Nat.pow 60 part.2, part.1)

/-- The integer that digits of base sixty write. -/
def sexagesimalInt (s : List Char) : Except Fault Int :=
  (sexagesimalParts s).foldlM (fun sum part => do
    return sum + (← orBadValue (Number.readInt? 10 part.2)) * (part.1 : Int)) 0

/-- The integer that a scalar without a sign writes. -/
def unsignedInt (version : Version) (s : List Char) : Except Fault Int :=
  match s with
  | ['0'] => .ok 0
  | '0' :: 'b' :: rest => orBadValue (Number.readInt? 2 rest)
  | '0' :: 'x' :: rest => orBadValue (Number.readInt? 16 rest)
  | '0' :: 'o' :: rest => orBadValue (Number.readInt? 8 rest)
  | s =>
    match version, s with
    | .v11, [] => .error .emptyNumber
    | .v11, '0' :: _ => orBadValue (Number.readInt? 8 s)
    | .v11, s => if s.contains ':' then sexagesimalInt s else orBadValue (Number.readInt? 10 s)
    | .v12, s => orBadValue (Number.readInt? 10 s)

/-- The integer that a scalar writes. -/
def intValue (version : Version) (s : List Char) : Except Fault Int := do
  let (negative, body) ← takeNumberSign (s.filter (· ≠ '_'))
  let n ← unsignedInt version body
  return if negative then -n else n

/-- The number that digits of base sixty write. -/
def sexagesimalFloat (s : List Char) : Except Fault Binary64 := do
  let parts ← (sexagesimalParts s).mapM fun part => do
    return (part.1, ← orBadValue (readWritten? part.2))
  parts.foldlM (fun sum part =>
    if fitsBinary64 part.1 then .ok (sum.add (part.2.multiply (.ofInt part.1)))
    else .error .outOfRange) (Binary64.ofInt 0)

/-- The number that a scalar without a sign writes. -/
def unsignedFloat (version : Version) (s : List Char) : Except Fault Binary64 :=
  if s = ".inf".toList then .ok (.infinite false)
  else if s = ".nan".toList then .ok .nan
  else if version = .v11 ∧ s.contains ':' then sexagesimalFloat s
  else orBadValue (readWritten? s)

/-- The binary64 number that a scalar writes. -/
def floatValue (version : Version) (s : List Char) : Except Fault Binary64 := do
  let (negative, body) ← takeNumberSign (Text.lowercase (s.filter (· ≠ '_')))
  let x ← unsignedFloat version body
  return if negative then x.negate else x

/-- The truth value of a word. -/
def truthValue (s : List Char) : Except Fault Bool :=
  let word := String.ofList (Text.lowercase s)
  if ["true", "yes", "y", "on"].contains word then .ok true
  else if ["false", "no", "n", "off"].contains word then .ok false
  else .error (.noTruthValue word)

/-! ## Bytes -/

/-- The six bits that a digit of base 64 stands for. -/
def sixBits? (c : Char) : Option Nat :=
  if 'A' ≤ c ∧ c ≤ 'Z' then some (c.toNat - 65)
  else if 'a' ≤ c ∧ c ≤ 'z' then some (c.toNat - 71)
  else if c.isDigit then some (c.toNat + 4)
  else if c = '+' then some 62
  else if c = '/' then some 63
  else none

/-- The bytes that digits of base 64 write from a place in a group of four on, behind a digit and a
number of marks of the end. What is neither a digit nor a mark is skipped, and so is a mark where a
group cannot end; a group that is filled up with marks ends the bytes. -/
def bytesFrom : (place left marks : Nat) → List Char → Option (List UInt8)
  | place, _, _, [] => if place = 0 then some [] else none
  | place, left, marks, c :: rest =>
    if c = '=' then
      if place < 2 then bytesFrom place left marks rest
      else if 4 ≤ place + marks + 1 then some []
      else bytesFrom place left (marks + 1) rest
    else match sixBits? c with
      | none => bytesFrom place left marks rest
      | some bits =>
        let more := bytesFrom ((place + 1) % 4) bits 0 rest
        if place = 0 then more
        else more.map fun content =>
          UInt8.ofNat (left * 4 ^ place + bits / 4 ^ (3 - place)) :: content

/-- The bytes that a scalar writes. -/
def bytesValue (s : List Char) : Except Fault (List UInt8) :=
  if s.all fun c => c.toNat < 0x80 then (bytesFrom 0 0 0 s).elim (.error .malformed) .ok
  else .error .malformed

/-- The value of a scalar of a kind. -/
def scalarValue (version : Version) (kind : Kind) (s : List Char) : Except Fault Scalar :=
  match kind with
  | .null => .ok .null
  | .text => .ok (.text (String.ofList s))
  | .bool => (truthValue s).map .bool
  | .int => (intValue version s).map .int
  | .float => (floatValue version s).map .float
  | .timestamp => (momentValue (dropFinalBreak s)).map .moment
  | .binary => (bytesValue s).map .bytes
  | _ => .error .malformed

end Pagewright.Yaml
