import Pagewright.Number.Power

/-!
# Binary64 numbers

A finite number of the binary64 format is `± m · 2^q` with a mantissa of at most 53 bits and an
exponent between -1074 and 971. Each finite number has one written form: the mantissa has all 53
bits unless the exponent is the least. All arithmetic is on natural numbers, so nothing here
rounds except where it says so.
-/

namespace Pagewright.Number

/-- The mantissas and exponents of the format. -/
abbrev Admissible (m : Nat) (q : Int) : Prop :=
  m < twoPow 53 ∧ -1074 ≤ q ∧ q ≤ 971 ∧ (twoPow 52 ≤ m ∨ q = -1074)

/-- A finite number `± mantissa · 2^exponent`. -/
structure Finite64 where
  negative : Bool
  mantissa : Nat
  exponent : Int
  admissible : Admissible mantissa exponent
deriving DecidableEq

/-- A number of the binary64 format. -/
inductive Binary64 where
  | nan
  | infinite (negative : Bool)
  | finite (x : Finite64)
deriving DecidableEq

namespace Finite64

/-- The zero of a sign. -/
def zero (negative : Bool) : Finite64 := ⟨negative, 0, -1074, by decide⟩

instance : Inhabited Finite64 := ⟨zero false⟩

/-- The numerator of the absolute value as a fraction of natural numbers. -/
def numerator (x : Finite64) : Nat := x.mantissa * twoPow x.exponent.toNat

/-- The denominator of the absolute value as a fraction of natural numbers. -/
def denominator (x : Finite64) : Nat := twoPow (-x.exponent).toNat

/-- Does the number equal an integer? -/
def isWhole (x : Finite64) : Bool := x.numerator % x.denominator == 0

/-- Cuts off the fraction. -/
def truncate (x : Finite64) : Int :=
  let n : Int := (x.numerator / x.denominator : Nat)
  if x.negative then -n else n

/-- Is the number greater than zero? -/
def isPositive (x : Finite64) : Bool := !x.negative && x.mantissa != 0

end Finite64

/-- A quotient rounded to the nearest integer; a half goes to the even neighbour. -/
def roundHalfEven (num den : Nat) : Nat :=
  let floor := num / den
  let twice := 2 * (num % den)
  if twice < den then floor
  else if den < twice then floor + 1
  else if floor % 2 = 0 then floor else floor + 1

/-- The exponent `e` with `2^e ≤ num / den < 2^(e + 1)`, for a positive quotient. -/
def binaryExponent (num den : Nat) : Int :=
  let e : Int := (num.log2 : Int) - (den.log2 : Int)
  if den * twoPow e.toNat ≤ num * twoPow (-e).toNat then e else e - 1

namespace Binary64

/-- The number with the given parts, or an infinity when they are outside the format. -/
def ofParts (negative : Bool) (m : Nat) (q : Int) : Binary64 :=
  if h : Admissible m q then .finite ⟨negative, m, q, h⟩ else .infinite negative

/-- The number nearest to `± num / den`; what rounds past the greatest finite number is an
infinity. -/
def ofRatio (negative : Bool) (num den : Nat) : Binary64 :=
  if num = 0 then .finite (.zero negative)
  else
    let q := max (-1074) (binaryExponent num den - 52)
    let m := roundHalfEven (num * twoPow (-q).toNat) (den * twoPow q.toNat)
    if m = twoPow 53 then ofParts negative (twoPow 52) (q + 1) else ofParts negative m q

/-- The number nearest to `± digits · 10^exponent`. A value beyond 10^309 or below 10^-330 is
decided by its magnitude alone. -/
def ofDecimal (negative : Bool) (digits : Nat) (exponent : Int) : Binary64 :=
  let magnitude : Int := (Nat.toDigits 10 digits).length + exponent
  if digits = 0 then .finite (.zero negative)
  else if 310 < magnitude then .infinite negative
  else if magnitude < -330 then .finite (.zero negative)
  else ofRatio negative (digits * tenPow exponent.toNat) (tenPow (-exponent).toNat)

/-- Is the number greater than zero? -/
def isPositive : Binary64 → Bool
  | .nan => false
  | .infinite negative => !negative
  | .finite x => x.isPositive

/-- The number nearest to an integer. -/
def ofInt (n : Int) : Binary64 := ofRatio (decide (n < 0)) n.natAbs 1

/-- The number with the other sign. -/
def negate : Binary64 → Binary64
  | .nan => .nan
  | .infinite negative => .infinite !negative
  | .finite x => .finite ⟨!x.negative, x.mantissa, x.exponent, x.admissible⟩

/-- The sum of two numbers, rounded; a sum of zero is positive unless both parts are negative. -/
def add : Binary64 → Binary64 → Binary64
  | .nan, _ => .nan
  | _, .nan => .nan
  | .infinite a, .infinite b => if a = b then .infinite a else .nan
  | .infinite a, .finite _ => .infinite a
  | .finite _, .infinite b => .infinite b
  | .finite x, .finite y =>
    let signed (z : Finite64) (n : Nat) : Int := if z.negative then -(n : Int) else n
    let sum := signed x (x.numerator * y.denominator) + signed y (y.numerator * x.denominator)
    let negative := if sum = 0 then x.negative && y.negative else decide (sum < 0)
    ofRatio negative sum.natAbs (x.denominator * y.denominator)

/-- The product of two numbers, rounded. -/
def multiply : Binary64 → Binary64 → Binary64
  | .nan, _ => .nan
  | _, .nan => .nan
  | .infinite a, .infinite b => .infinite (a != b)
  | .infinite a, .finite y => if y.mantissa = 0 then .nan else .infinite (a != y.negative)
  | .finite x, .infinite b => if x.mantissa = 0 then .nan else .infinite (x.negative != b)
  | .finite x, .finite y =>
    ofRatio (x.negative != y.negative) (x.numerator * y.numerator) (x.denominator * y.denominator)

end Binary64

/-- The least natural number that rounds past the greatest finite number. -/
def overflowBound : Nat := twoPow 1024 - twoPow 970

/-- Has the integer a finite nearest number? -/
def fitsBinary64 (n : Int) : Bool := n.natAbs < overflowBound

end Pagewright.Number
