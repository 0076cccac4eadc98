import Pagewright.Number.Binary64

/-!
# The shortest decimal of a number

The text of a number is the decimal with the fewest digits that reads back as the number. The
reals that read back as `m · 2^q` form an interval around it, with its ends when `m` is even. For
one digit, two digits and so on, the two neighbours of the number on the grid of decimals with
that many digits are tested against the interval in exact arithmetic; seventeen digits always
suffice.
-/

namespace Pagewright.Number

/-- A positive decimal `digits · 10^exponent`. -/
structure Decimal where
  digits : Nat
  exponent : Int
deriving DecidableEq

/-- The exponent `e` with `10^e ≤ num / den < 10^(e + 1)`, for a positive quotient. -/
def decimalExponent (num den : Nat) : Int :=
  if den ≤ num then ((Nat.toDigits 10 (num / den)).length : Int) - 1
  else
    let j := (Nat.toDigits 10 (den / num)).length
    if num * tenPow (j - 1) = den then -((j : Int) - 1) else -(j : Int)

/-- Does the decimal read back as the number? In quarters of the last binary place the number is
`4m`, and the interval reaches two quarters up and two down, or one down where the spacing below
is half as wide. -/
def Finite64.readsBack (x : Finite64) (d : Decimal) : Bool :=
  let below := if x.mantissa = twoPow 52 ∧ -1074 < x.exponent then 1 else 2
  let q := x.exponent - 2
  let value := d.digits * tenPow d.exponent.toNat * twoPow (-q).toNat
  let unit := tenPow (-d.exponent).toNat * twoPow q.toNat
  let low := (4 * x.mantissa - below) * unit
  let high := (4 * x.mantissa + 2) * unit
  if x.mantissa % 2 = 0 then low ≤ value && value ≤ high else low < value && value < high

/-- The better of the two neighbours of the number on the grid `10^p`, if one reads back. -/
def Finite64.onGrid? (x : Finite64) (p : Int) : Option Decimal :=
  let num := x.numerator * tenPow (-p).toNat
  let den := x.denominator * tenPow p.toNat
  let down : Decimal := ⟨num / den, p⟩
  let up : Decimal := ⟨num / den + 1, p⟩
  match x.readsBack down, x.readsBack up with
  | true, true => some (if roundHalfEven num den = num / den then down else up)
  | true, false => some down
  | false, true => some up
  | false, false => none

/-- The first grid with a hit, from coarse to fine. -/
def Finite64.firstHit (x : Finite64) : (tries : Nat) → (p : Int) → Decimal
  | 0, p => ⟨x.numerator * tenPow (-p).toNat / (x.denominator * tenPow p.toNat), p⟩
  | tries + 1, p => (x.onGrid? p).getD (x.firstHit tries (p - 1))

/-- The shortest decimal that reads back as the absolute value of a number other than zero. -/
def Finite64.shortest (x : Finite64) : Decimal :=
  x.firstHit 17 (decimalExponent x.numerator x.denominator)

end Pagewright.Number
