import Mathlib.Algebra.Order.Field.Power
import Mathlib.Data.Int.Log
import Mathlib.Data.Rat.Floor
import Mathlib.Tactic.Linarith
import Mathlib.Tactic.Positivity
import Pagewright.Number.Binary64

/-!
# Rounding to binary64

The number nearest to a quotient depends on the rational number `r` that the quotient is, and on
nothing else: `r` lies in one binade, which fixes the spacing of the numbers around it, and it is
rounded to a multiple of the spacing (`ofRatio_eq_packed`). Everything that is said about reading
rests on this. What lies nearer to a finite number than to its neighbours is rounded to it
(`Finite64.Around.ofRatio_eq`), what lies below half a unit above the greatest finite number is
rounded to a finite number, and all else to an infinity (`ofRatio_finite`, `ofRatio_infinite`).

The halves that are tied go to the even neighbour. The spacing below a power of two is half of that
above, so the numbers around a power of two reach down by a quarter of the spacing only.
-/

namespace Pagewright.Number

/-! ## Powers -/

@[simp]
theorem cast_twoPow (k : ℕ) : ((twoPow k : ℕ) : ℚ) = 2 ^ k := Nat.cast_pow 2 k

@[simp]
theorem cast_tenPow (k : ℕ) : ((tenPow k : ℕ) : ℚ) = 10 ^ k := Nat.cast_pow 10 k

/-- A power is the quotient of two powers, one of which is one. -/
theorem zpow_eq_div {b : ℚ} (hb : b ≠ 0) (e : ℤ) : b ^ e = b ^ e.toNat / b ^ (-e).toNat := by
  rw [eq_div_iff (pow_ne_zero _ hb), ← zpow_natCast, ← zpow_natCast, ← zpow_add₀ hb]
  congr 1
  omega

/-- Scaling a quotient by a power, one factor on each side of the bar. -/
theorem mul_pow_div_mul_pow {b : ℚ} (hb : b ≠ 0) (num den : ℚ) (e : ℤ) :
    num * b ^ (-e).toNat / (den * b ^ e.toNat) = num / den / b ^ e := by
  rw [zpow_eq_div hb, div_div_eq_mul_div, div_mul_eq_mul_div, div_div]

/-- A comparison with a multiple of a power is made between natural numbers. -/
theorem mul_twoPow_le_iff (a c : ℕ) (e : ℤ) :
    a * twoPow e.toNat ≤ c * twoPow (-e).toNat ↔ (a : ℚ) * 2 ^ e ≤ c := by
  rw [zpow_eq_div two_ne_zero, mul_div_assoc', div_le_iff₀ (by positivity), ← cast_twoPow,
    ← cast_twoPow]
  exact_mod_cast Iff.rfl

theorem two_zpow_pos (e : ℤ) : (0 : ℚ) < 2 ^ e := zpow_pos two_pos e

theorem two_zpow_le_iff {r : ℚ} (hr : 0 < r) {e : ℤ} : 2 ^ e ≤ r ↔ e ≤ Int.log 2 r := by
  rw [← Int.zpow_le_iff_le_log one_lt_two hr, Nat.cast_ofNat]

theorem lt_two_zpow_iff {r : ℚ} (hr : 0 < r) {e : ℤ} : r < 2 ^ e ↔ Int.log 2 r < e := by
  rw [← Int.lt_zpow_iff_log_lt one_lt_two hr, Nat.cast_ofNat]

namespace Finite64

/-- The absolute value of a number. -/
def magnitude (x : Finite64) : ℚ := x.mantissa * 2 ^ x.exponent

/-- The rational number that a finite number is. -/
def toRat (x : Finite64) : ℚ := if x.negative then -x.magnitude else x.magnitude

theorem magnitude_eq_div (x : Finite64) : x.magnitude = x.numerator / x.denominator := by
  rw [magnitude, zpow_eq_div two_ne_zero, numerator, denominator, Nat.cast_mul, cast_twoPow,
    cast_twoPow, mul_div_assoc]

theorem denominator_pos (x : Finite64) : 0 < x.denominator := twoPow_pos _

theorem magnitude_nonneg (x : Finite64) : 0 ≤ x.magnitude :=
  mul_nonneg (Nat.cast_nonneg _) (two_zpow_pos _).le

theorem magnitude_eq_zero_iff {x : Finite64} : x.magnitude = 0 ↔ x.mantissa = 0 := by
  rw [magnitude, mul_eq_zero_iff_right (two_zpow_pos _).ne', Nat.cast_eq_zero]

end Finite64

/-! ## Nearest integers -/

/-- The integer nearest to a rational number; of two, the even one. -/
structure RoundsTo (r : ℚ) (k : ℕ) : Prop where
  low : k - 1 / 2 ≤ r
  high : r ≤ k + 1 / 2
  tie : r = k - 1 / 2 ∨ r = k + 1 / 2 → k % 2 = 0

theorem RoundsTo.unique {r : ℚ} {j k : ℕ} (hj : RoundsTo r j) (hk : RoundsTo r k) : j = k := by
  -- two different integers that are both nearest to one number are neighbours, and both are even
  have hlt : ∀ {j k : ℕ}, RoundsTo r j → RoundsTo r k → ¬j < k := by
    intro j k hj hk hjk
    have hstep : (j : ℚ) + 1 ≤ k := by exact_mod_cast hjk
    have hupper : r = j + 1 / 2 := by linarith [hj.high, hk.low]
    have hlower : r = k - 1 / 2 := by linarith [hj.high, hk.low]
    have hnext : k = j + 1 := by
      have : (k : ℚ) = (j + 1 : ℕ) := by push_cast; linarith
      exact_mod_cast this
    have := hj.tie (Or.inr hupper)
    have := hk.tie (Or.inl hlower)
    omega
  have := hlt hj hk
  have := hlt hk hj
  omega

theorem roundsTo_natCast (k : ℕ) : RoundsTo k k where
  low := by linarith
  high := by linarith
  tie := by rintro (h | h) <;> linarith

/-- An integer below a number is no nearer to it than its nearest integer. -/
theorem RoundsTo.le_of_le {r : ℚ} {j k : ℕ} (h : RoundsTo r k) (hj : (j : ℚ) ≤ r) : j ≤ k := by
  have : (j : ℚ) < (k + 1 : ℕ) := by push_cast; linarith [h.high]
  exact Nat.lt_succ_iff.1 (by exact_mod_cast this)

theorem RoundsTo.le_of_ge {r : ℚ} {j k : ℕ} (h : RoundsTo r k) (hj : r ≤ j) : k ≤ j := by
  have : (k : ℚ) < (j + 1 : ℕ) := by push_cast; linarith [h.low]
  exact Nat.lt_succ_iff.1 (by exact_mod_cast this)

theorem roundHalfEven_roundsTo (num : ℕ) {den : ℕ} (hden : 0 < den) :
    RoundsTo (num / den) (roundHalfEven num den) := by
  have hd : (0 : ℚ) < den := by exact_mod_cast hden
  have hwhole : (num : ℚ) = den * (num / den : ℕ) + (num % den : ℕ) := by
    exact_mod_cast (Nat.div_add_mod num den).symm
  have hsplit : (num : ℚ) / den = (num / den : ℕ) + (num % den : ℕ) / den := by
    rw [hwhole, add_div, mul_div_cancel_left₀ _ hd.ne']
  rw [hsplit, roundHalfEven]
  have hrest : (0 : ℚ) ≤ (num % den : ℕ) / den := by positivity
  have hbelow : ((num % den : ℕ) : ℚ) / den < 1 := by
    rw [div_lt_one hd]
    exact_mod_cast Nat.mod_lt num hden
  have hless : 2 * (num % den) < den ↔ ((num % den : ℕ) : ℚ) / den < 1 / 2 := by
    rw [div_lt_div_iff₀ hd two_pos, one_mul, mul_comm]
    exact_mod_cast Iff.rfl
  have hmore : den < 2 * (num % den) ↔ 1 / 2 < ((num % den : ℕ) : ℚ) / den := by
    rw [div_lt_div_iff₀ two_pos hd, one_mul, mul_comm (_ : ℚ) 2]
    exact_mod_cast Iff.rfl
  generalize num / den = floor at *
  generalize ((num % den : ℕ) : ℚ) / den = rest at *
  split
  · next h =>
    have := hless.1 h
    exact ⟨by linarith, by linarith, by rintro (h | h) <;> linarith⟩
  · next h =>
    have hge := le_of_not_gt (mt hless.2 h)
    split
    · next h =>
      have := hmore.1 h
      refine ⟨?_, ?_, ?_⟩ <;> push_cast
      · linarith
      · linarith
      · rintro (h | h) <;> linarith
    · next h =>
      have hhalf : rest = 1 / 2 := le_antisymm (le_of_not_gt (mt hmore.2 h)) hge
      split
      · next heven => exact ⟨by linarith, by linarith, fun _ => heven⟩
      · next hodd =>
        refine ⟨?_, ?_, fun _ => by omega⟩ <;> push_cast <;> linarith

/-! ## Binades -/

/-- The exponent that `binaryExponent` finds is that of the binade of the quotient. -/
theorem binaryExponent_eq {num den : ℕ} (hnum : 0 < num) (hden : 0 < den) :
    binaryExponent num den = Int.log 2 (num / den : ℚ) := by
  have hn : (0 : ℚ) < num := by exact_mod_cast hnum
  have hd : (0 : ℚ) < den := by exact_mod_cast hden
  have hr : (0 : ℚ) < num / den := div_pos hn hd
  have hnlow : (2 : ℚ) ^ num.log2 ≤ num := by exact_mod_cast Nat.log2_self_le hnum.ne'
  have hnhigh : (num : ℚ) < 2 ^ (num.log2 + 1) := by exact_mod_cast Nat.lt_log2_self
  have hdlow : (2 : ℚ) ^ den.log2 ≤ den := by exact_mod_cast Nat.log2_self_le hden.ne'
  have hdhigh : (den : ℚ) < 2 ^ (den.log2 + 1) := by exact_mod_cast Nat.lt_log2_self
  have hlow : (2 : ℚ) ^ ((num.log2 : ℤ) - den.log2 - 1) ≤ num / den := by
    rw [le_div_iff₀ hd]
    calc (2 : ℚ) ^ ((num.log2 : ℤ) - den.log2 - 1) * den
        ≤ 2 ^ ((num.log2 : ℤ) - den.log2 - 1) * 2 ^ (den.log2 + 1) := by gcongr
      _ = 2 ^ num.log2 := by
        rw [← zpow_natCast, ← zpow_natCast, ← zpow_add₀ two_ne_zero]
        congr 1
        push_cast
        ring
      _ ≤ num := hnlow
  have hhigh : (num : ℚ) / den < 2 ^ ((num.log2 : ℤ) - den.log2 + 1) := by
    rw [div_lt_iff₀ hd]
    calc (num : ℚ) < 2 ^ (num.log2 + 1) := hnhigh
      _ = 2 ^ ((num.log2 : ℤ) - den.log2 + 1) * 2 ^ den.log2 := by
        rw [← zpow_natCast, ← zpow_natCast, ← zpow_add₀ two_ne_zero]
        congr 1
        push_cast
        ring
      _ ≤ 2 ^ ((num.log2 : ℤ) - den.log2 + 1) * den := by gcongr
  -- the logarithms alone give the exponent or one more, and the test tells which
  rw [two_zpow_le_iff hr] at hlow
  rw [lt_two_zpow_iff hr] at hhigh
  rw [binaryExponent]
  generalize hguess : ((num.log2 : ℤ) - den.log2) = guess at *
  have htest : den * twoPow guess.toNat ≤ num * twoPow (-guess).toNat ↔
      guess ≤ Int.log 2 (num / den : ℚ) := by
    rw [mul_twoPow_le_iff, ← two_zpow_le_iff hr, le_div_iff₀ hd, mul_comm]
  split
  · next h =>
    have := htest.1 h
    omega
  · next h =>
    have := mt htest.2 h
    omega

/-- The exponent of the spacing of the finite numbers around a positive rational number. -/
def spacing (r : ℚ) : ℤ := max (-1074) (Int.log 2 r - 52)

theorem div_zpow_lt_iff {r : ℚ} {q : ℤ} (n : ℤ) : r / 2 ^ q < 2 ^ n ↔ r < 2 ^ (q + n) := by
  rw [div_lt_iff₀ (two_zpow_pos q), ← zpow_add₀ two_ne_zero, add_comm]

theorem le_div_zpow_iff {r : ℚ} {q : ℤ} (n : ℤ) : 2 ^ n ≤ r / 2 ^ q ↔ 2 ^ (q + n) ≤ r := by
  rw [le_div_iff₀ (two_zpow_pos q), ← zpow_add₀ two_ne_zero, add_comm]

/-- **In units of the spacing a number has 53 bits before its point**, or fewer if the spacing is
the least one. -/
theorem spacing_eq_iff {r : ℚ} (hr : 0 < r) {q : ℤ} :
    spacing r = q ↔
      -1074 ≤ q ∧ r / 2 ^ q < 2 ^ 53 ∧ (q = -1074 ∨ 2 ^ 52 ≤ r / 2 ^ q) := by
  have hhigh : r / 2 ^ q < 2 ^ 53 ↔ Int.log 2 r < q + 53 := by
    rw [← lt_two_zpow_iff hr]
    exact_mod_cast div_zpow_lt_iff 53
  have hlow : 2 ^ 52 ≤ r / 2 ^ q ↔ q + 52 ≤ Int.log 2 r := by
    rw [← two_zpow_le_iff hr]
    exact_mod_cast le_div_zpow_iff 52
  rw [hhigh, hlow, spacing]
  omega

/-- A number of at most 53 bits, or the next power of two, times a power of two. -/
def packed (negative : Bool) (m : ℕ) (q : ℤ) : Binary64 :=
  if m = twoPow 53 then .ofParts negative (twoPow 52) (q + 1) else .ofParts negative m q

section Quotients

variable {num den : ℕ} {r : ℚ}

/-- **What a quotient is rounded to depends on its value alone.** -/
theorem ofRatio_eq_packed (hden : 0 < den) (hr : (num : ℚ) / den = r) (hpos : 0 < r) {q : ℤ}
    (hq : spacing r = q) {m : ℕ} (hm : RoundsTo (r / 2 ^ q) m) (negative : Bool) :
    Binary64.ofRatio negative num den = packed negative m q := by
  have hnum : 0 < num := by
    rcases Nat.eq_zero_or_pos num with rfl | hnum
    · simp [← hr] at hpos
    · exact hnum
  have hround : roundHalfEven (num * twoPow (-q).toNat) (den * twoPow q.toNat) = m := by
    refine (roundHalfEven_roundsTo _ (Nat.mul_pos hden (twoPow_pos _))).unique ?_
    rw [Nat.cast_mul, Nat.cast_mul, cast_twoPow, cast_twoPow, mul_pow_div_mul_pow two_ne_zero, hr]
    exact hm
  rw [spacing] at hq
  rw [Binary64.ofRatio, if_neg hnum.ne', binaryExponent_eq hnum hden, hr, hq]
  dsimp only
  rw [hround]
  rfl

/-- A positive quotient is rounded to a multiple of its spacing. -/
theorem exists_packed (hden : 0 < den) (hr : (num : ℚ) / den = r) (hpos : 0 < r)
    (negative : Bool) :
    ∃ m, RoundsTo (r / 2 ^ spacing r) m ∧ m ≤ twoPow 53 ∧
      (spacing r = -1074 ∨ twoPow 52 ≤ m) ∧
      Binary64.ofRatio negative num den = packed negative m (spacing r) := by
  obtain ⟨_, hhigh, hlow⟩ := (spacing_eq_iff hpos).1 rfl
  have hm : RoundsTo (r / 2 ^ spacing r) (roundHalfEven (num * twoPow (-spacing r).toNat)
      (den * twoPow (spacing r).toNat)) := by
    have := roundHalfEven_roundsTo (num * twoPow (-spacing r).toNat)
      (Nat.mul_pos hden (twoPow_pos (spacing r).toNat))
    rwa [Nat.cast_mul, Nat.cast_mul, cast_twoPow, cast_twoPow, mul_pow_div_mul_pow two_ne_zero,
      hr] at this
  refine ⟨_, hm, hm.le_of_ge ?_, hlow.imp_right fun h => hm.le_of_le ?_,
    ofRatio_eq_packed hden hr hpos rfl hm negative⟩
  · rw [cast_twoPow]
    exact hhigh.le
  · rwa [cast_twoPow]

/-- Equal quotients are rounded alike. -/
theorem ofRatio_congr {num' den' : ℕ} (hden : 0 < den) (hden' : 0 < den')
    (h : (num : ℚ) / den = num' / den') (negative : Bool) :
    Binary64.ofRatio negative num den = Binary64.ofRatio negative num' den' := by
  rcases Nat.eq_zero_or_pos num with rfl | hnum
  · have hzero : num' = 0 := by
      have : (num' : ℚ) / den' = 0 := by rw [← h, Nat.cast_zero, zero_div]
      exact_mod_cast (div_eq_zero_iff.1 this).resolve_right (by exact_mod_cast hden'.ne')
    rw [hzero, Binary64.ofRatio, Binary64.ofRatio, if_pos rfl, if_pos rfl]
  · have hpos : (0 : ℚ) < num / den := by positivity
    obtain ⟨m, hm, _, _, hpacked⟩ := exists_packed hden rfl hpos negative
    rw [hpacked, ofRatio_eq_packed hden' h.symm hpos rfl hm]

end Quotients

/-! ## What is rounded to a finite number -/

namespace Finite64

/-- How far below a number the numbers are nearest to it, in units of its spacing. -/
def reach (x : Finite64) : ℚ := if x.mantissa = twoPow 52 ∧ -1074 < x.exponent then 1 / 4 else 1 / 2

theorem reach_pos (x : Finite64) : 0 < x.reach := by
  rw [reach]
  split <;> norm_num

theorem reach_le (x : Finite64) : x.reach ≤ 1 / 2 := by
  rw [reach]
  split <;> norm_num

/-- Is a rational number as near to the absolute value of a finite one as to its neighbours? Halfway
to a neighbour it belongs to the one with an even mantissa. -/
structure Around (x : Finite64) (r : ℚ) : Prop where
  low : x.mantissa - x.reach ≤ r / 2 ^ x.exponent
  high : r / 2 ^ x.exponent ≤ x.mantissa + 1 / 2
  tie : r / 2 ^ x.exponent = x.mantissa - x.reach ∨ r / 2 ^ x.exponent = x.mantissa + 1 / 2 →
    x.mantissa % 2 = 0

theorem packed_mantissa (x : Finite64) : packed x.negative x.mantissa x.exponent = .finite x := by
  rw [packed, if_neg x.admissible.1.ne, Binary64.ofParts, dif_pos x.admissible]

section Around

variable {x : Finite64} {r : ℚ} (h : x.Around r) (hm : 0 < x.mantissa)
include h hm

theorem Around.pos : 0 < r := by
  have hone : (1 : ℚ) ≤ x.mantissa := by exact_mod_cast hm
  have : 0 < r / 2 ^ x.exponent := by linarith [h.low, x.reach_le]
  exact (div_pos_iff_of_pos_right (two_zpow_pos _)).1 this

omit hm in
theorem Around.div_lt : r / 2 ^ x.exponent < 2 ^ 53 := by
  have hbits : (x.mantissa : ℚ) + 1 ≤ 2 ^ 53 := by
    rw [← cast_twoPow]
    exact_mod_cast x.admissible.1
  linarith [h.high]

/-- What is around a number, but not below it if it is a power of two, is rounded at its own
spacing. -/
theorem Around.ofRatio_of_reach {num den : ℕ} (hden : 0 < den) (hr : (num : ℚ) / den = r)
    (hreach : x.reach = 1 / 2 ∨ (x.mantissa : ℚ) ≤ r / 2 ^ x.exponent)
    (hlow : x.exponent = -1074 ∨ 2 ^ 52 ≤ r / 2 ^ x.exponent) :
    Binary64.ofRatio x.negative num den = .finite x := by
  have hspacing : spacing r = x.exponent :=
    (spacing_eq_iff (h.pos hm)).2 ⟨x.admissible.2.1, h.div_lt, hlow⟩
  have hround : RoundsTo (r / 2 ^ x.exponent) x.mantissa := by
    rcases hreach with hreach | hreach
    · exact ⟨hreach ▸ h.low, h.high, hreach ▸ h.tie⟩
    · exact ⟨by linarith, h.high, fun htie => h.tie (htie.imp_left fun heq => by linarith)⟩
  rw [ofRatio_eq_packed hden hr (h.pos hm) hspacing hround, packed_mantissa]

/-- **What is around a number is rounded to it.** -/
theorem Around.ofRatio_eq {num den : ℕ} (hden : 0 < den) (hr : (num : ℚ) / den = r) :
    Binary64.ofRatio x.negative num den = .finite x := by
  by_cases hpower : x.mantissa = twoPow 52 ∧ -1074 < x.exponent
  · have hreach : x.reach = 1 / 4 := if_pos hpower
    have hmantissa : (x.mantissa : ℚ) = 2 ^ 52 := by rw [hpower.1, cast_twoPow]
    have hlow := h.low
    rw [hreach, hmantissa] at hlow
    rcases le_or_gt ((2 : ℚ) ^ 52) (r / 2 ^ x.exponent) with hge | hlt
    · exact h.ofRatio_of_reach hm hden hr (Or.inr (hmantissa ▸ hge)) (Or.inr hge)
    · -- below a power of two the spacing is halved, and the number is carried to from there
      have hhalf : r / 2 ^ (x.exponent - 1) = 2 * (r / 2 ^ x.exponent) := by
        rw [zpow_sub_one₀ two_ne_zero, ← div_eq_mul_inv, div_div_eq_mul_div, mul_comm,
          mul_div_assoc]
      have hspacing : spacing r = x.exponent - 1 := by
        refine (spacing_eq_iff (h.pos hm)).2 ⟨by omega, ?_, Or.inr ?_⟩ <;> rw [hhalf] <;> linarith
      have hround : RoundsTo (r / 2 ^ (x.exponent - 1)) (twoPow 53) := by
        have hcarry : ((twoPow 53 : ℕ) : ℚ) = 2 * 2 ^ 52 := by rw [cast_twoPow]; norm_num
        rw [hhalf]
        exact ⟨by linarith, by linarith, fun _ => by decide⟩
      have hsame := x.packed_mantissa
      rw [packed, if_neg x.admissible.1.ne, hpower.1] at hsame
      rw [ofRatio_eq_packed hden hr (h.pos hm) hspacing hround, packed, if_pos rfl,
        sub_add_cancel, hsame]
  · have hreach : x.reach = 1 / 2 := if_neg hpower
    refine h.ofRatio_of_reach hm hden hr (Or.inl hreach) ?_
    obtain ⟨_, _, _, hcanonical⟩ := x.admissible
    refine (eq_or_ne x.exponent (-1074)).imp_right fun hne => ?_
    have hmore : twoPow 52 + 1 ≤ x.mantissa := by
      have := x.admissible.2.1
      omega
    have hmore' : (2 : ℚ) ^ 52 + 1 ≤ x.mantissa := by
      rw [← cast_twoPow]
      exact_mod_cast hmore
    have := h.low
    rw [hreach] at this
    linarith

end Around

/-- A number is around itself. -/
theorem around_magnitude (x : Finite64) : x.Around x.magnitude := by
  have hself : x.magnitude / 2 ^ x.exponent = x.mantissa :=
    mul_div_cancel_right₀ _ (two_zpow_pos _).ne'
  have hreach := x.reach_pos
  exact ⟨by linarith, by linarith, by rintro (h | h) <;> linarith⟩

end Finite64

/-! ## The range of the finite numbers -/

/-- What lies half a unit below a power of two, in units of `2^(k + 1)`. -/
theorem cast_twoPow_sub (j k : ℕ) :
    ((twoPow (j + (k + 1)) - twoPow k : ℕ) : ℚ) = (2 ^ j - 1 / 2) * 2 ^ ((k : ℤ) + 1) := by
  rw [Nat.cast_sub (twoPow_mono (by omega)), cast_twoPow, cast_twoPow, zpow_add_one₀ two_ne_zero,
    zpow_natCast]
  ring

/-- The bound of the range is half a unit above the greatest finite number. -/
theorem overflowBound_le_iff {r : ℚ} :
    (overflowBound : ℚ) ≤ r ↔ 2 ^ 53 - 1 / 2 ≤ r / 2 ^ (971 : ℤ) := by
  have hbound : (overflowBound : ℚ) = (2 ^ 53 - 1 / 2) * 2 ^ (971 : ℤ) := by
    rw [overflowBound, show 1024 = 53 + (970 + 1) from rfl, cast_twoPow_sub]
    rfl
  rw [hbound, le_div_iff₀ (two_zpow_pos _)]

section Packing

variable {m : ℕ} {q : ℤ}

theorem packed_finite (hm : m ≤ twoPow 53) (hq : -1074 ≤ q) (hlow : q = -1074 ∨ twoPow 52 ≤ m)
    (hfits : q ≤ 970 ∨ q = 971 ∧ m ≠ twoPow 53) (negative : Bool) :
    ∃ x : Finite64, packed negative m q = .finite x ∧ x.negative = negative ∧
      x.magnitude = m * 2 ^ q := by
  rw [packed]
  split
  · next hcarry =>
    have hadmissible : Admissible (twoPow 52) (q + 1) :=
      ⟨by decide, by omega, by omega, Or.inl le_rfl⟩
    rw [Binary64.ofParts, dif_pos hadmissible]
    refine ⟨_, rfl, rfl, ?_⟩
    rw [Finite64.magnitude, hcarry, cast_twoPow, cast_twoPow, zpow_add_one₀ two_ne_zero]
    ring
  · next hplain =>
    have hadmissible : Admissible m q :=
      ⟨lt_of_le_of_ne hm hplain, hq, by omega, hlow.symm⟩
    rw [Binary64.ofParts, dif_pos hadmissible]
    exact ⟨_, rfl, rfl, rfl⟩

theorem packed_infinite (hbeyond : ¬(q ≤ 970 ∨ q = 971 ∧ m ≠ twoPow 53)) (negative : Bool) :
    packed negative m q = .infinite negative := by
  rw [packed]
  split
  · exact dif_neg fun h => by have := h.2.2.1; omega
  · exact dif_neg fun h => by have := h.2.2.1; omega

end Packing

section Quotients

variable {num den : ℕ} {r : ℚ} (hden : 0 < den) (hr : (num : ℚ) / den = r) (hpos : 0 < r)
  (negative : Bool)
include hden hr hpos

/-- **What is below the bound is rounded to a finite number.** -/
theorem ofRatio_finite (hbound : r < overflowBound) :
    ∃ (x : Finite64) (m : ℕ), Binary64.ofRatio negative num den = .finite x ∧
      x.negative = negative ∧ RoundsTo (r / 2 ^ spacing r) m ∧
      x.magnitude = m * 2 ^ spacing r := by
  obtain ⟨hleast, _, hlow⟩ := (spacing_eq_iff hpos).1 rfl
  obtain ⟨m, hm, hbits, hcanonical, hpacked⟩ := exists_packed hden hr hpos negative
  have hfits : spacing r ≤ 970 ∨ spacing r = 971 ∧ m ≠ twoPow 53 := by
    rw [← not_le, overflowBound_le_iff, not_le] at hbound
    by_contra hnot
    rw [not_or, not_and_not_right] at hnot
    have hmore : 971 ≤ spacing r := by
      have := hnot.1
      omega
    -- at the greatest spacing only the carry is too large, beyond it everything is
    rcases hmore.eq_or_lt with htop | htop
    · have hcarry := hm.low
      rw [hnot.2 htop.symm, cast_twoPow, ← htop] at hcarry
      exact hcarry.not_gt hbound
    · have hbig : (2 : ℚ) ^ (53 : ℤ) ≤ r / 2 ^ (971 : ℤ) := by
        rw [le_div_zpow_iff]
        have hexponents : (971 : ℤ) + 53 ≤ spacing r + 52 := by omega
        refine (zpow_le_zpow_right₀ one_le_two hexponents).trans ((le_div_zpow_iff 52).1 ?_)
        exact_mod_cast hlow.resolve_left (show spacing r ≠ -1074 by omega)
      have : (2 : ℚ) ^ 53 ≤ r / 2 ^ (971 : ℤ) := by exact_mod_cast hbig
      linarith
  obtain ⟨x, hx, hsign, hmagnitude⟩ := packed_finite hbits hleast hcanonical hfits negative
  exact ⟨x, m, hpacked.trans hx, hsign, hm, hmagnitude⟩

/-- **What is not below the bound is rounded to an infinity.** -/
theorem ofRatio_infinite (hbound : overflowBound ≤ r) :
    Binary64.ofRatio negative num den = .infinite negative := by
  obtain ⟨_, hhigh, _⟩ := (spacing_eq_iff hpos).1 rfl
  obtain ⟨m, hm, _, _, hpacked⟩ := exists_packed hden hr hpos negative
  rw [hpacked]
  refine packed_infinite (fun hfits => ?_) negative
  rw [overflowBound_le_iff] at hbound
  rcases hfits with hless | ⟨htop, hplain⟩
  · have hsmall : r / 2 ^ (971 : ℤ) < (2 : ℚ) ^ (52 : ℤ) := by
      rw [div_zpow_lt_iff]
      refine ((div_zpow_lt_iff 53).1 (by exact_mod_cast hhigh)).trans_le ?_
      exact zpow_le_zpow_right₀ one_le_two (show spacing r + 53 ≤ 971 + 52 by omega)
    have : r / 2 ^ (971 : ℤ) < (2 : ℚ) ^ 52 := by exact_mod_cast hsmall
    linarith
  · rw [htop] at hm
    -- the last multiple before the carry is odd, so the bound itself is rounded up to the carry
    have hlast : m = twoPow 53 - 1 := by
      have : (twoPow 53 : ℚ) ≤ (m + 1 : ℕ) := by
        rw [cast_twoPow]
        push_cast
        linarith [hm.high]
      have : twoPow 53 ≤ m + 1 := by exact_mod_cast this
      omega
    have hvalue : (m : ℚ) = 2 ^ 53 - 1 := by
      rw [hlast, Nat.cast_sub (twoPow_pos 53), cast_twoPow, Nat.cast_one]
    have heven := hm.tie (Or.inr (le_antisymm hm.high (by linarith)))
    rw [hlast] at heven
    exact absurd heven (by decide)

end Quotients

end Pagewright.Number
