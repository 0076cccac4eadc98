/-!
# Powers of two and of ten

The two bases of written and stored numbers.
-/

namespace Pagewright.Number

/-- The power `2^k`. -/
def twoPow (k : Nat) : Nat := Nat.pow 2 k

/-- The power `10^k`. -/
def tenPow (k : Nat) : Nat := Nat.pow 10 k

theorem twoPow_pos (k : Nat) : 0 < twoPow k := Nat.pow_pos (by decide)

theorem tenPow_pos (k : Nat) : 0 < tenPow k := Nat.pow_pos (by decide)

theorem twoPow_mono {j k : Nat} (h : j ≤ k) : twoPow j ≤ twoPow k :=
  Nat.pow_le_pow_right Nat.two_pos h

end Pagewright.Number
