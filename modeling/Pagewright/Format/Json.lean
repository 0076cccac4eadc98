import Pagewright.Number.Reading
import Pagewright.Value.Basic

/-!
# JSON

The reader takes the bytes of one JSON text and nothing else: no comments, no trailing commas, no
leading zeros, no raw control characters in strings, no half of a surrogate pair. Integers keep
every digit, numbers with a point or an exponent are binary64 numbers and have to be in its range.
Of equal keys of an object the last value counts.
-/

namespace Pagewright.Json

open Pagewright.Number

/-- Why bytes are not a JSON text. -/
inductive Fault where
  | malformed
  | notUtf8
  | outOfRange
deriving DecidableEq

/-- What remains of the input. -/
abbrev Rest := List UInt8

/-- The bytes of ASCII text. -/
def ascii (s : String) : List UInt8 := s.toList.map fun c => UInt8.ofNat c.toNat

/-- Drops what may stand between tokens. -/
def skipSpace (s : Rest) : Rest :=
  s.dropWhile fun b => b == 0x20 || b == 0x09 || b == 0x0A || b == 0x0D

/-- Is the byte a decimal digit? -/
def isDigit (b : UInt8) : Bool := 0x30 ≤ b && b ≤ 0x39

/-- The digits at the front of the input, and the rest. -/
def takeDigits (s : Rest) : List Nat × Rest :=
  ((s.takeWhile isDigit).map fun b => b.toNat - 0x30, s.dropWhile isDigit)

/-- The value of a hexadecimal digit. -/
def hexValue? (b : UInt8) : Option Nat :=
  if 0x30 ≤ b ∧ b ≤ 0x39 then some (b.toNat - 0x30)
  else if 0x41 ≤ b ∧ b ≤ 0x46 then some (b.toNat - 0x37)
  else if 0x61 ≤ b ∧ b ≤ 0x66 then some (b.toNat - 0x57)
  else none

/-- The character that an escape by letter writes. -/
def letterEscape? (b : UInt8) : Option Char :=
  if b = 0x22 then some '"'
  else if b = 0x5C then some '\\'
  else if b = 0x2F then some '/'
  else if b = 0x62 then some '\x08'
  else if b = 0x66 then some '\x0c'
  else if b = 0x6E then some '\n'
  else if b = 0x72 then some '\r'
  else if b = 0x74 then some '\t'
  else none

/-- The bytes of a character. -/
def utf8 (c : Char) : List UInt8 := c.toString.toUTF8.toList

/-- Where the reader of a string stands. An escape by number has some digits left, and the second
half of a surrogate pair has to follow the first. -/
inductive StringState where
  | plain
  | escape
  | digits (left number : Nat) (first : Option Nat)
  | pairStart (first : Nat)
  | pairLetter (first : Nat)

/-- What a complete escape by number leads to: a character, or the wait for the second half of a
surrogate pair. -/
def escaped? (n : Nat) (first : Option Nat) : Option (Char ⊕ Nat) :=
  match first with
  | none =>
    if n < 0xD800 ∨ 0xDFFF < n then some (.inl (Char.ofNat n))
    else if n < 0xDC00 then some (.inr n)
    else none
  | some h =>
    if 0xDC00 ≤ n ∧ n ≤ 0xDFFF then
      some (.inl (Char.ofNat (0x10000 + (h - 0xD800) * 0x400 + (n - 0xDC00))))
    else none

/-- The bytes that the inside of a string stands for, in reverse, and the rest behind its closing
quote. -/
def stringBytes? : StringState → List UInt8 → Rest → Option (List UInt8 × Rest)
  | _, _, [] => none
  | .plain, read, b :: rest =>
    if b = 0x22 then some (read, rest)
    else if b = 0x5C then stringBytes? .escape read rest
    else if b < 0x20 then none
    else stringBytes? .plain (b :: read) rest
  | .escape, read, b :: rest =>
    if b = 0x75 then stringBytes? (.digits 4 0 none) read rest
    else match letterEscape? b with
      | some c => stringBytes? .plain ((utf8 c).reverse ++ read) rest
      | none => none
  | .digits left n first, read, b :: rest =>
    match hexValue? b with
    | none => none
    | some d =>
      if 1 < left then stringBytes? (.digits (left - 1) (n * 16 + d) first) read rest
      else match escaped? (n * 16 + d) first with
        | some (.inl c) => stringBytes? .plain ((utf8 c).reverse ++ read) rest
        | some (.inr h) => stringBytes? (.pairStart h) read rest
        | none => none
  | .pairStart h, read, b :: rest =>
    if b = 0x5C then stringBytes? (.pairLetter h) read rest else none
  | .pairLetter h, read, b :: rest =>
    if b = 0x75 then stringBytes? (.digits 4 0 (some h)) read rest else none

/-- The text of a string behind its opening quote. -/
def readString (s : Rest) : Except Fault (String × Rest) :=
  match stringBytes? .plain [] s with
  | none => .error .malformed
  | some (bytes, rest) =>
    match String.fromUTF8? ⟨bytes.reverse.toArray⟩ with
    | some text => .ok (text, rest)
    | none => .error .notUtf8

/-- The exponent of a number, if one is written. -/
def readExponent (s : Rest) : Except Fault (Option Int × Rest) :=
  match s with
  | [] => .ok (none, [])
  | b :: rest =>
    if b = 0x65 ∨ b = 0x45 then
      let (negative, rest) := match rest with
        | 0x2D :: rest => (true, rest)
        | 0x2B :: rest => (false, rest)
        | rest => (false, rest)
      match takeDigits rest with
      | ([], _) => .error .malformed
      | (digits, rest) =>
        let n : Int := ofDigits digits
        .ok (some (if negative then -n else n), rest)
    else .ok (none, s)

/-- The number at the front of the input, its sign aside. -/
def readNumber (negative : Bool) (s : Rest) : Except Fault (Value × Rest) := do
  let (whole, rest) := takeDigits s
  match whole with
  | [] => throw .malformed
  | 0 :: _ :: _ => throw .malformed
  | _ => pure ()
  let (places, rest) ← match rest with
    | 0x2E :: rest =>
      match takeDigits rest with
      | ([], _) => .error .malformed
      | (digits, rest) => .ok (digits, rest)
    | rest => .ok ([], rest)
  let (exponent, rest) ← readExponent rest
  if places.isEmpty && exponent.isNone then
    let n : Int := ofDigits whole
    return (.int (if negative then -n else n), rest)
  match Binary64.ofDecimal negative (ofDigits (whole ++ places))
      (exponent.getD 0 - places.length) with
  | .finite x => return (.float (.finite x), rest)
  | _ => throw .outOfRange

/-- A word of the language at the front of the input. -/
def readWord (word : String) (value : Value) (s : Rest) : Except Fault (Value × Rest) :=
  if (ascii word).isPrefixOf s then .ok (value, s.drop word.length) else .error .malformed

mutual

/-- The value at the front of the input. The fuel is the length of the whole input, which no
nesting exceeds. -/
def readValue : (fuel : Nat) → Rest → Except Fault (Value × Rest)
  | 0, _ => .error .malformed
  | fuel + 1, s =>
    match skipSpace s with
    | [] => .error .malformed
    | b :: rest =>
      if b = 0x22 then do
        let (text, rest) ← readString rest
        return (.text text, rest)
      else if b = 0x7B then do
        let (entries, rest) ← match skipSpace rest with
          | 0x7D :: rest => .ok ([], rest)
          | rest => readEntries fuel [] rest
        return (.map entries, rest)
      else if b = 0x5B then do
        let (items, rest) ← match skipSpace rest with
          | 0x5D :: rest => .ok ([], rest)
          | rest => readItems fuel rest
        return (.list items, rest)
      else if b = 0x2D then readNumber true rest
      else if isDigit b then readNumber false (b :: rest)
      else if b = 0x74 then readWord "true" (.bool true) (b :: rest)
      else if b = 0x66 then readWord "false" (.bool false) (b :: rest)
      else if b = 0x6E then readWord "null" .null (b :: rest)
      else .error .malformed

/-- The items of an array up to its closing bracket. -/
def readItems : (fuel : Nat) → Rest → Except Fault (List Value × Rest)
  | 0, _ => .error .malformed
  | fuel + 1, s => do
    let (item, rest) ← readValue fuel s
    match skipSpace rest with
    | 0x2C :: rest =>
      let (items, rest) ← readItems fuel rest
      return (item :: items, rest)
    | 0x5D :: rest => return ([item], rest)
    | _ => throw .malformed

/-- The entries of an object up to its closing brace, behind those that are read. -/
def readEntries : (fuel : Nat) → Props → Rest → Except Fault (Props × Rest)
  | 0, _, _ => .error .malformed
  | fuel + 1, read, s =>
    match skipSpace s with
    | 0x22 :: rest => do
      let (key, rest) ← readString rest
      match skipSpace rest with
      | 0x3A :: rest =>
        let (value, rest) ← readValue fuel rest
        let read := read.put key value
        match skipSpace rest with
        | 0x2C :: rest => readEntries fuel read rest
        | 0x7D :: rest => return (read, rest)
        | _ => throw .malformed
      | _ => throw .malformed
    | _ => .error .malformed

end

/-- The value of a JSON text. -/
def read (bytes : List UInt8) : Except Fault Value := do
  let (value, rest) ← readValue (bytes.length + 1) bytes
  if (skipSpace rest).isEmpty then return value else throw .malformed

end Pagewright.Json
