import Pagewright.Number.Shortest

/-!
# The text of a number

A binary64 number is written by its shortest decimal: positionally, with at least one place, when
its leading digit stands for a power of ten from 10^-4 to 10^15, and with an exponent of a sign
and at least two digits otherwise. An integer is written by its digits alone.
-/

namespace Pagewright.Number

/-- The decimal digits of a natural number. -/
def natDigits (n : Nat) : List Char := Nat.toDigits 10 n

/-- The decimal digits of an integer, behind a minus sign if it is negative. -/
def intDigits (n : Int) : List Char :=
  if n < 0 then '-' :: natDigits n.natAbs else natDigits n.natAbs

/-- The digits without the zeros at the end. A text of zeros alone becomes empty. -/
def dropEndZeros (digits : List Char) : List Char :=
  (digits.reverse.dropWhile (fun c => c == '0')).reverse

/-- The exponent part of a number. -/
def exponentText (e : Int) : List Char :=
  let digits := natDigits e.natAbs
  let padded := if digits.length < 2 then '0' :: digits else digits
  'e' :: (if e < 0 then '-' else '+') :: padded

/-- Writes digits whose first one stands for `10^e`. -/
def layoutDigits (digits : List Char) (e : Int) : List Char :=
  if e < -4 ∨ 16 ≤ e then
    match digits with
    | [] => []
    | [d] => d :: exponentText e
    | d :: rest => d :: '.' :: rest ++ exponentText e
  else if e < 0 then
    '0' :: '.' :: List.replicate (e.natAbs - 1) '0' ++ digits
  else
    let width := e.toNat + 1
    let whole := digits.take width ++ List.replicate (width - digits.length) '0'
    let places := digits.drop width
    whole ++ '.' :: (if places.isEmpty then ['0'] else places)

/-- The text of a positive decimal. -/
def Decimal.text (d : Decimal) : List Char :=
  let digits := natDigits d.digits
  layoutDigits (dropEndZeros digits) (d.exponent + digits.length - 1)

/-- The text of a finite number. -/
def Finite64.text (x : Finite64) : List Char :=
  let body := if x.mantissa = 0 then "0.0".toList else x.shortest.text
  if x.negative then '-' :: body else body

/-- The text of a number. -/
def Binary64.text : Binary64 → List Char
  | .nan => "nan".toList
  | .infinite negative => (if negative then "-inf" else "inf").toList
  | .finite x => x.text

end Pagewright.Number
