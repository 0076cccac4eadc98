import Pagewright.Number.Layout
import Pagewright.Number.Reading
import Pagewright.Value.Basic

/-!
# Numbers in prop values

A number field, a length and a percentage all read a value in the same way: an integer in the
range of binary64 and a finite binary64 number are themselves, a text is the number it writes, and
everything else, truth values among it, is no number. A number field turns a text that writes a
whole number into an integer (`Value.numberOr`). A numeral is written without that step
(`Value.numeral`), and a percentage is made from the numeral.
-/

namespace Pagewright

open Pagewright.Number

/-! ## Number fields -/

/-- A finite number: an integer, or a binary64 number. -/
inductive Amount where
  | whole (n : Int)
  | real (x : Finite64)
deriving DecidableEq

namespace Amount

/-- The number as a prop value. -/
def toValue : Amount → Value
  | .whole n => .int n
  | .real x => .float (.finite x)

/-- Cuts off the fraction. -/
def truncate : Amount → Int
  | .whole n => n
  | .real x => x.truncate

end Amount

/-- The number that a binary64 number read from text stands for. -/
def Amount.ofBinary64? : Binary64 → Option Amount
  | .finite x => some (if x.isWhole then .whole x.truncate else .real x)
  | _ => none

/-- The number that a value stands for. -/
def Value.amount? : Value → Option Amount
  | .int n => if fitsBinary64 n then some (.whole n) else none
  | .float (.finite x) => some (.real x)
  | .text s => (read? s.toList).bind Amount.ofBinary64?
  | _ => none

/-- The number that a value stands for, as a value; one that is no number is replaced. -/
def Value.numberOr (v fallback : Value) : Value := (v.amount?.map Amount.toValue).getD fallback

/-! ## Numerals -/

/-- The numeral of a number in generated code: a whole number is written by its integer digits, any
other by its shortest decimal. -/
def Number.Finite64.numeral (x : Finite64) : List Char :=
  if x.isWhole then intDigits x.truncate else x.text

/-- The numeral of a value in generated code. An integer becomes a binary64 number for the tests of
its range and of its fraction alone, so no digit of it is lost. -/
def Value.numeral? : Value → Option (List Char)
  | .int n => match Binary64.ofInt n with
    | .finite x => some (if x.isWhole then intDigits n else x.text)
    | _ => none
  | .float (.finite x) => some x.numeral
  | .text s => match read? s.toList with
    | some (.finite x) => some x.numeral
    | _ => none
  | _ => none

/-- The numeral of a value; one that is no number counts as zero. -/
def Value.numeral (v : Value) : List Char := v.numeral?.getD ['0']

/-- The length of a value in pixels. -/
def Value.pixels (v : Value) : List Char := v.numeral ++ ['p', 'x']

/-! ## Percentages -/

namespace Number

/-- One hundred. -/
def Finite64.hundred : Finite64 := ⟨false, 100 * twoPow 46, -46, by decide⟩

/-- Is the number less than one hundred? -/
def Binary64.isBelowHundred : Binary64 → Bool
  | .nan => false
  | .infinite negative => negative
  | .finite x => x.negative || x.numerator < 100 * x.denominator

/-- The number, or the nearer bound of the range from zero to one hundred. -/
def Binary64.clampPercent (x : Binary64) : Binary64 :=
  let capped := if x.isBelowHundred then x else .finite .hundred
  if capped.isPositive then capped else .finite (.zero false)

end Number

/-- The numeral of a value as a percentage. It is made from the numeral of the value, if that is
read as a number. -/
def Value.percent? (v : Value) : Option (List Char) :=
  (read? v.numeral).map fun x => (Value.float x.clampPercent).numeral

/-- The numeral of a value as a percentage. -/
def Value.percent (v : Value) : List Char := v.percent?.getD []

/-! ## Substitutes -/

/-- Why a numeral cannot be written with a substitute for values that are no numbers. -/
inductive NumeralFault where
  | notANumber
  | outOfRange
  | notANumeral
deriving DecidableEq

/-- The numeral of a substitute. A truth value counts as zero or one, and the numbers outside the
finite range are written by their names. -/
def substituteNumeral : Value → Except NumeralFault (List Char)
  | .bool b => .ok (if b then ['1'] else ['0'])
  | .int n => if fitsBinary64 n then .ok (intDigits n) else .error .outOfRange
  | .float (.finite x) => .ok x.numeral
  | .float x => .ok x.text
  | _ => .error .notANumber

/-- The numeral of a text that stands in for a number outside the finite range. A whole number has
to be written as an integer. -/
def textNumeral (s : List Char) : Except NumeralFault (List Char) :=
  match readWritten? s with
  | none => .error .notANumeral
  | some (.finite x) =>
    if x.isWhole then (readInt? 10 s).elim (.error .notANumeral) fun n => .ok (intDigits n)
    else .ok x.text
  | some x => .ok x.text

/-- Is the value a number outside the finite range? -/
def Value.isUnbounded : Value → Bool
  | .int n => !fitsBinary64 n
  | .float (.finite _) => false
  | .float _ => true
  | .text s => match read? s.toList with
    | some (.finite _) => false
    | some _ => true
    | none => false
  | _ => false

/-- The numeral of a value, with a substitute for values that are no finite numbers. A text is a
substitute only for a number outside the finite range. -/
def Value.numeralOr (v substitute : Value) : Except NumeralFault (List Char) :=
  match v.numeral? with
  | some numeral => .ok numeral
  | none => match substitute with
    | .text s => if v.isUnbounded then textNumeral s.toList else .error .notANumber
    | substitute => substituteNumeral substitute

end Pagewright
