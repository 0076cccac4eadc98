import Pagewright.Number.Binary64
import Pagewright.Text.Blank
import Pagewright.Text.DecimalDigit

/-!
# Reading a number from text

A written number is a sign, digits with at most one point, and an exponent; the sign, the digits
on one side of the point and the exponent may be absent. Digits of every script count, and a
single underscore may stand between two digits. The words for the infinity and for the number
that is none are read in any case. Blanks around the number do not matter.

An integer is a sign and digits of a base, possibly behind the mark of the base. Integers, and
numbers that are read as they are written, may stand between blanks, too, but not between the
separators of ASCII that only information interchange knows. An integer of too many decimal digits
is not read.
-/

namespace Pagewright.Number

open Pagewright.Text

/-- Does the text start with a digit? -/
def startsWithDigit (digit? : Char → Option Nat) : List Char → Bool
  | [] => false
  | c :: _ => (digit? c).isSome

/-- The digits at the front of a text, as values, and the rest. An underscore is passed over only
between two digits; the flag says whether a digit stands before the text. -/
def takeDigitsFrom (digit? : Char → Option Nat) :
    (afterDigit : Bool) → List Char → List Nat × List Char
  | _, [] => ([], [])
  | afterDigit, c :: rest =>
    match digit? c with
    | some d =>
      let (ds, after) := takeDigitsFrom digit? true rest
      (d :: ds, after)
    | none =>
      if c == '_' && afterDigit && startsWithDigit digit? rest then
        takeDigitsFrom digit? false rest
      else ([], c :: rest)

/-- The decimal digits at the front of a text, as values, and the rest. -/
def takeDigits (s : List Char) : List Nat × List Char := takeDigitsFrom digitValue? false s

/-- The natural number written by digits of a base. -/
def ofDigitsIn (base : Nat) (digits : List Nat) : Nat :=
  digits.foldl (fun n d => base * n + d) 0

/-- The natural number written by decimal digits. -/
def ofDigits (digits : List Nat) : Nat := ofDigitsIn 10 digits

/-- Splits off a sign; the flag says whether it is a minus. -/
def takeSign : List Char → Bool × List Char
  | '-' :: rest => (true, rest)
  | '+' :: rest => (false, rest)
  | rest => (false, rest)

/-- The exponent that makes up the whole rest of a text; an empty rest is the exponent zero. -/
def readExponent? : List Char → Option Int
  | [] => some 0
  | c :: rest =>
    if c = 'e' ∨ c = 'E' then
      let (negative, rest) := takeSign rest
      match takeDigits rest with
      | (d :: ds, []) =>
        let n : Int := ofDigits (d :: ds)
        some (if negative then -n else n)
      | _ => none
    else none

/-- A number without its sign. -/
def readUnsigned? (negative : Bool) (s : List Char) : Option Binary64 :=
  let lower := s.map Char.toLower
  if lower = "inf".toList ∨ lower = "infinity".toList then some (.infinite negative)
  else if lower = "nan".toList then some .nan
  else
    let (whole, rest) := takeDigits s
    let (places, rest) := match rest with
      | '.' :: more => takeDigits more
      | _ => ([], rest)
    if whole.isEmpty && places.isEmpty then none
    else (readExponent? rest).map fun e =>
      .ofDecimal negative (ofDigits (whole ++ places)) (e - places.length)

/-- The number that a text writes, blanks around it aside. -/
def read? (s : List Char) : Option Binary64 :=
  let (negative, rest) := takeSign (trim s)
  readUnsigned? negative rest

/-- May the character stand around a number that is read as it is written? -/
def isMargin (c : Char) : Bool :=
  c == ' ' || ('\t' ≤ c && c ≤ '\r') || ('\x80' ≤ c && isBlank c)

/-- The number that a text writes as it is. -/
def readWritten? (s : List Char) : Option Binary64 :=
  let (negative, rest) := takeSign (trimBy isMargin s)
  readUnsigned? negative rest

/-! ## Integers -/

/-- The value of a digit of a base up to sixteen. -/
def baseDigit? (base : Nat) (c : Char) : Option Nat :=
  let value := match digitValue? c with
    | some d => some d
    | none =>
      if 'a' ≤ c ∧ c ≤ 'f' then some (c.toNat - 87)
      else if 'A' ≤ c ∧ c ≤ 'F' then some (c.toNat - 55)
      else none
  value.filter fun d => d < base

/-- Is the character, behind a zero, the mark of a base? -/
def isBaseMark (base : Nat) (c : Char) : Bool :=
  (base == 2 && (c == 'b' || c == 'B')) || (base == 8 && (c == 'o' || c == 'O')) ||
    (base == 16 && (c == 'x' || c == 'X'))

/-- Drops the mark of a base with the underscore behind it. -/
def dropBaseMark (base : Nat) (s : List Char) : List Char :=
  match s with
  | '0' :: c :: '_' :: rest => if isBaseMark base c then rest else s
  | '0' :: c :: rest => if isBaseMark base c then rest else s
  | _ => s

/-- The greatest number of decimal digits of an integer that is read. -/
def decimalDigitLimit : Nat := 4300

/-- The integer that a text writes in a base. -/
def readInt? (base : Nat) (s : List Char) : Option Int :=
  let (negative, rest) := takeSign (trimBy isMargin s)
  match takeDigitsFrom (baseDigit? base) false (dropBaseMark base rest) with
  | (d :: ds, []) =>
    if base = 10 ∧ decimalDigitLimit < (d :: ds).length then none
    else
      let n : Int := ofDigitsIn base (d :: ds)
      some (if negative then -n else n)
  | _ => none

end Pagewright.Number
