import Mathlib.Algebra.Order.Floor.Semifield
import Mathlib.Data.Nat.Cast.Order.Field
import Mathlib.Tactic.NormNum
import Pagewright.Number.Shortest
import Pagewright.Proofs.Rounding

/-!
# The shortest decimal reads back

The decimal that a number is written by is found by a search over grids, which tests whether a
decimal lies in the interval that is rounded to the number (`readsBack_iff`). The search ends with a
hit: on the grid of seventeen digits the points are closer to each other than the interval is wide,
since `10^16` is more than `2^53`, so the nearer of the two neighbours of the number lies inside
(`exists_on_grid`). What is found is therefore read as the number (`ofDecimal_shortest`).

Reading a decimal is rounding the quotient that it is: the bounds beyond which its magnitude decides
are so wide that they change nothing (`ofDecimal_eq_ofRatio`).
-/

namespace Pagewright.Number

theorem ten_zpow_pos (e : ℤ) : (0 : ℚ) < 10 ^ e := zpow_pos (by norm_num) e

/-! ## Lengths of numerals -/

/-- A positive number has as many digits as its power of ten says. -/
theorem toDigits_bounds {n : ℕ} (hn : 0 < n) :
    (10 : ℚ) ^ (((Nat.toDigits 10 n).length : ℤ) - 1) ≤ n ∧
      (n : ℚ) < 10 ^ ((Nat.toDigits 10 n).length : ℤ) := by
  have hlength : 0 < (Nat.toDigits 10 n).length := List.length_pos_iff.2 Nat.toDigits_ne_nil
  generalize hl : (Nat.toDigits 10 n).length = l at hlength
  obtain ⟨k, rfl⟩ : ∃ k, l = k + 1 := ⟨l - 1, by omega⟩
  have hhigh : n < 10 ^ (k + 1) :=
    (Nat.length_toDigits_le_iff (by decide) (Nat.succ_pos k)).1 hl.le
  have hlow : 10 ^ k ≤ n := by
    rcases Nat.eq_zero_or_pos k with rfl | hk
    · exact hn
    · refine Nat.le_of_not_lt fun hlt => ?_
      have := (Nat.length_toDigits_le_iff (by decide) hk).2 hlt
      omega
  rw [Nat.cast_succ, add_sub_cancel_right, zpow_natCast, ← Nat.cast_succ, zpow_natCast]
  exact ⟨by exact_mod_cast hlow, by exact_mod_cast hhigh⟩

/-! ## Decimals are quotients -/

/-- The rational number that a decimal is. -/
def Decimal.value (d : Decimal) : ℚ := d.digits * 10 ^ d.exponent

theorem Decimal.value_eq_div (d : Decimal) :
    d.value = (d.digits * tenPow d.exponent.toNat : ℕ) / (tenPow (-d.exponent).toNat : ℕ) := by
  rw [value, zpow_eq_div (by norm_num), Nat.cast_mul, cast_tenPow, cast_tenPow, mul_div_assoc]

/-- What is less than half the least positive number is rounded to zero. -/
theorem ofRatio_zero {num den : ℕ} {r : ℚ} (hden : 0 < den) (hr : (num : ℚ) / den = r)
    (hpos : 0 < r) (hless : r / 2 ^ (-1074 : ℤ) ≤ 1 / 2) (negative : Bool) :
    Binary64.ofRatio negative num den = .finite (.zero negative) := by
  have hspacing : spacing r = -1074 :=
    (spacing_eq_iff hpos).2 ⟨le_rfl, hless.trans_lt (by norm_num), Or.inl rfl⟩
  have hunit : 0 < r / 2 ^ (-1074 : ℤ) := div_pos hpos (two_zpow_pos _)
  have hround : RoundsTo (r / 2 ^ (-1074 : ℤ)) 0 :=
    ⟨by rw [Nat.cast_zero]; linarith, by rw [Nat.cast_zero]; linarith, fun _ => rfl⟩
  rw [ofRatio_eq_packed hden hr hpos hspacing hround]
  rfl

/-- **A decimal is read as the number nearest to it**, however large or small it is. -/
theorem ofDecimal_eq_ofRatio (negative : Bool) (digits : ℕ) (e : ℤ) :
    Binary64.ofDecimal negative digits e =
      Binary64.ofRatio negative (digits * tenPow e.toNat) (tenPow (-e).toNat) := by
  rcases Nat.eq_zero_or_pos digits with rfl | hdigits
  · rw [Nat.zero_mul]
    rfl
  obtain ⟨hlow, hhigh⟩ := toDigits_bounds hdigits
  have hvalue := (Decimal.value_eq_div ⟨digits, e⟩).symm
  have hpos : 0 < Decimal.value ⟨digits, e⟩ :=
    mul_pos (by exact_mod_cast hdigits) (ten_zpow_pos e)
  have hden := tenPow_pos (-e).toNat
  rw [Binary64.ofDecimal, if_neg hdigits.ne']
  generalize ((Nat.toDigits 10 digits).length : ℤ) = l at hlow hhigh ⊢
  split
  · next hlarge =>
    refine (ofRatio_infinite hden hvalue hpos negative ?_).symm
    calc (overflowBound : ℚ) ≤ (tenPow 310 : ℕ) := by
          exact_mod_cast (by decide +kernel : overflowBound ≤ tenPow 310)
      _ = 10 ^ (310 : ℤ) := (cast_tenPow 310).trans (zpow_natCast 10 310).symm
      _ ≤ 10 ^ (l - 1 + e) := zpow_le_zpow_right₀ (by norm_num) (by omega)
      _ = 10 ^ (l - 1) * 10 ^ e := zpow_add₀ (by norm_num) _ _
      _ ≤ digits * 10 ^ e := by gcongr
  · split
    · next hsmall =>
      refine (ofRatio_zero hden hvalue hpos ?_ negative).symm
      have hscale : (2 : ℚ) ^ (1075 : ℤ) ≤ 10 ^ (331 : ℤ) := by
        have : ((twoPow 1075 : ℕ) : ℚ) ≤ (tenPow 331 : ℕ) := by
          exact_mod_cast (by decide +kernel : twoPow 1075 ≤ tenPow 331)
        rwa [cast_twoPow, cast_tenPow, ← zpow_natCast, ← zpow_natCast] at this
      have hless : Decimal.value ⟨digits, e⟩ ≤ 2 ^ (-1075 : ℤ) :=
        calc Decimal.value ⟨digits, e⟩ ≤ 10 ^ l * 10 ^ e := by
              rw [Decimal.value]
              gcongr
          _ = 10 ^ (l + e) := (zpow_add₀ (by norm_num) _ _).symm
          _ ≤ 10 ^ (-331 : ℤ) := zpow_le_zpow_right₀ (by norm_num) (by omega)
          _ ≤ 2 ^ (-1075 : ℤ) := by
              rw [zpow_neg, zpow_neg]
              exact inv_anti₀ (two_zpow_pos _) hscale
      rw [div_le_iff₀ (two_zpow_pos _)]
      rwa [show (-1075 : ℤ) = -1074 - 1 from rfl, zpow_sub_one₀ two_ne_zero, mul_comm,
        ← one_div] at hless
    · rfl

/-! ## The interval of a number -/

namespace Finite64

variable {x : Finite64} {d : Decimal}

/-- The test of a decimal compares in quarters of the spacing. -/
theorem value_eq_quarters (x : Finite64) (d : Decimal) :
    ((d.digits * tenPow d.exponent.toNat * twoPow (-(x.exponent - 2)).toNat : ℕ) : ℚ) =
      4 * (d.value / 2 ^ x.exponent) *
        (tenPow (-d.exponent).toNat * twoPow (x.exponent - 2).toNat : ℕ) := by
  have hunit : (tenPow (-d.exponent).toNat : ℚ) * 2 ^ (x.exponent - 2).toNat ≠ 0 :=
    mul_ne_zero (by exact_mod_cast (tenPow_pos _).ne') (by positivity)
  rw [Nat.cast_mul _ (twoPow _), Nat.cast_mul _ (twoPow _), cast_twoPow, cast_twoPow,
    ← div_eq_iff hunit, mul_pow_div_mul_pow two_ne_zero, ← Decimal.value_eq_div,
    zpow_sub₀ two_ne_zero, div_div_eq_mul_div, mul_comm, mul_div_assoc]
  norm_num

/-- **The test holds of what is around the number.** -/
theorem readsBack_iff (hm : 0 < x.mantissa) : x.readsBack d = true ↔ x.Around d.value := by
  have hvalue := value_eq_quarters x d
  have hunit : (0 : ℚ) < (tenPow (-d.exponent).toNat * twoPow (x.exponent - 2).toNat : ℕ) := by
    exact_mod_cast Nat.mul_pos (tenPow_pos _) (twoPow_pos _)
  rw [readsBack]
  generalize d.digits * tenPow d.exponent.toNat * twoPow (-(x.exponent - 2)).toNat = value at *
  generalize tenPow (-d.exponent).toNat * twoPow (x.exponent - 2).toNat = unit at *
  generalize hbelow : (if x.mantissa = twoPow 52 ∧ -1074 < x.exponent then 1 else 2) = below
  have hreach : (below : ℚ) = 4 * x.reach := by
    rw [← hbelow, reach]
    split <;> norm_num
  have hlow : ((4 * x.mantissa - below : ℕ) : ℚ) = 4 * (x.mantissa - x.reach) := by
    have : below ≤ 4 * x.mantissa := by
      have : below ≤ 2 := by rw [← hbelow]; split <;> decide
      omega
    rw [Nat.cast_sub this, hreach]
    push_cast
    ring
  have hle (n : ℕ) : n * unit ≤ value ↔ (n : ℚ) ≤ 4 * (d.value / 2 ^ x.exponent) := by
    rw [← Nat.cast_le (α := ℚ), Nat.cast_mul, hvalue, mul_le_mul_iff_left₀ hunit]
  have hge (n : ℕ) : value ≤ n * unit ↔ 4 * (d.value / 2 ^ x.exponent) ≤ (n : ℚ) := by
    rw [← Nat.cast_le (α := ℚ), Nat.cast_mul, hvalue, mul_le_mul_iff_left₀ hunit]
  have hhigh : ((4 * x.mantissa + 2 : ℕ) : ℚ) = 4 * (x.mantissa + 1 / 2) := by
    push_cast
    ring
  have hfour : (0 : ℚ) < 4 := by norm_num
  split
  · next heven =>
    rw [Bool.and_eq_true, decide_eq_true_iff, decide_eq_true_iff, hle, hge, hlow, hhigh,
      mul_le_mul_iff_right₀ hfour, mul_le_mul_iff_right₀ hfour]
    exact ⟨fun h => ⟨h.1, h.2, fun _ => heven⟩, fun h => ⟨h.low, h.high⟩⟩
  · next hodd =>
    rw [Bool.and_eq_true, decide_eq_true_iff, decide_eq_true_iff, ← not_le, ← not_le, hge, hle,
      hlow, hhigh, mul_le_mul_iff_right₀ hfour, mul_le_mul_iff_right₀ hfour, not_le, not_le]
    constructor
    · exact fun h => ⟨h.1.le, h.2.le,
        fun htie => absurd htie (not_or.2 ⟨h.1.ne', h.2.ne⟩)⟩
    · exact fun h => ⟨lt_of_le_of_ne h.low fun heq => hodd (h.tie (Or.inl heq.symm)),
        lt_of_le_of_ne h.high fun heq => hodd (h.tie (Or.inr heq))⟩

/-! ## The search -/

/-- Seventeen digits leave less than twice the reach of a number between them. -/
theorem grid_lt_reach {x : Finite64} {p : ℤ} (hp : 10 ^ p * 10 ^ 16 ≤ x.magnitude) :
    10 ^ p / 2 ^ x.exponent / 2 < x.reach := by
  have hunits : 10 ^ p / 2 ^ x.exponent * 10 ^ 16 ≤ (x.mantissa : ℚ) := by
    rw [div_mul_eq_mul_div, div_le_iff₀ (two_zpow_pos _)]
    exact hp
  rw [reach]
  split
  · next hpower =>
    rw [hpower.1, cast_twoPow] at hunits
    linarith
  · have hbits : (x.mantissa : ℚ) ≤ 2 ^ 53 := by
      rw [← cast_twoPow]
      exact_mod_cast x.admissible.1.le
    linarith

/-- **The nearer neighbour of a number on a grid of seventeen digits is around it.** -/
theorem exists_on_grid {x : Finite64} {p : ℤ} (hp : 10 ^ p * 10 ^ 16 ≤ x.magnitude) {n : ℕ}
    (hlow : n ≤ x.magnitude / 10 ^ p) (hhigh : x.magnitude / 10 ^ p < n + 1) :
    x.Around (Decimal.value ⟨n, p⟩) ∨ x.Around (Decimal.value ⟨n + 1, p⟩) := by
  have hgrid := grid_lt_reach hp
  have hreach : x.reach ≤ 1 / 2 := x.reach_le
  have hself : x.magnitude / 2 ^ x.exponent = x.mantissa :=
    mul_div_cancel_right₀ _ (two_zpow_pos _).ne'
  have hdown : Decimal.value ⟨n, p⟩ / 2 ^ x.exponent ≤ x.mantissa := by
    rw [← hself]
    exact div_le_div_of_nonneg_right ((le_div_iff₀ (ten_zpow_pos p)).1 hlow) (two_zpow_pos _).le
  have hup : (x.mantissa : ℚ) < Decimal.value ⟨n + 1, p⟩ / 2 ^ x.exponent := by
    rw [← hself, Decimal.value, Nat.cast_succ]
    exact div_lt_div_of_pos_right ((div_lt_iff₀ (ten_zpow_pos p)).1 hhigh) (two_zpow_pos _)
  have hstep : Decimal.value ⟨n + 1, p⟩ / 2 ^ x.exponent =
      Decimal.value ⟨n, p⟩ / 2 ^ x.exponent + 10 ^ p / 2 ^ x.exponent := by
    rw [Decimal.value, Decimal.value, Nat.cast_succ, add_mul, one_mul, add_div]
  -- one of the two is no farther away than half a step of the grid
  rcases le_or_gt (x.mantissa - Decimal.value ⟨n, p⟩ / 2 ^ x.exponent)
    (10 ^ p / 2 ^ x.exponent / 2) with hnear | hfar
  · exact Or.inl ⟨by linarith, by linarith, by rintro (h | h) <;> linarith⟩
  · exact Or.inr ⟨by linarith, by linarith, by rintro (h | h) <;> linarith⟩

/-- A grid of seventeen digits has a hit. -/
theorem onGrid?_isSome (hm : 0 < x.mantissa) {p : ℤ} (hp : 10 ^ p * 10 ^ 16 ≤ x.magnitude) :
    (x.onGrid? p).isSome := by
  have hquotient : (x.numerator * tenPow (-p).toNat : ℕ) / (x.denominator * tenPow p.toNat : ℕ) =
      x.magnitude / 10 ^ p := by
    rw [Nat.cast_mul, Nat.cast_mul, cast_tenPow, cast_tenPow, mul_pow_div_mul_pow (by norm_num),
      magnitude_eq_div]
  have hhit := exists_on_grid hp (hquotient ▸ Nat.cast_div_le)
    (by rw [← hquotient, ← Nat.floor_div_eq_div (K := ℚ)]; exact Nat.lt_floor_add_one _)
  rw [← readsBack_iff hm, ← readsBack_iff hm] at hhit
  rw [onGrid?]
  split
  · rfl
  · rfl
  · rfl
  · next hdown hup =>
    exact absurd hhit (not_or.2 ⟨ne_true_of_eq_false hdown, ne_true_of_eq_false hup⟩)

/-- What is found on a grid reads back. -/
theorem readsBack_of_onGrid? {p : ℤ} (h : x.onGrid? p = some d) : x.readsBack d = true := by
  rw [onGrid?] at h
  split at h
  · next hdown hup =>
    rw [← Option.some.inj h]
    split
    · exact hdown
    · exact hup
  · next hdown _ => exact Option.some.inj h ▸ hdown
  · next _ hup => exact Option.some.inj h ▸ hup
  · cases h

/-- The first hit reads back, if there is one. -/
theorem readsBack_firstHit {tries : ℕ} {p : ℤ}
    (h : ∃ k < tries, (x.onGrid? (p - k)).isSome) : x.readsBack (x.firstHit tries p) = true := by
  induction tries generalizing p with
  | zero =>
    obtain ⟨k, hk, _⟩ := h
    exact absurd hk (Nat.not_lt_zero k)
  | succ tries ih =>
    rw [firstHit]
    cases hhit : x.onGrid? p with
    | some d => exact readsBack_of_onGrid? hhit
    | none =>
      obtain ⟨k, hk, hsome⟩ := h
      cases k with
      | zero =>
        rw [Nat.cast_zero, sub_zero, hhit] at hsome
        cases hsome
      | succ k =>
        refine ih ⟨k, by omega, ?_⟩
        rwa [Nat.cast_succ, add_comm, ← sub_sub] at hsome

end Finite64

/-- The exponent that `decimalExponent` finds is not too large. -/
theorem decimalExponent_le {num den : ℕ} (hnum : 0 < num) (hden : 0 < den) :
    (10 : ℚ) ^ decimalExponent num den ≤ num / den := by
  have hn : (0 : ℚ) < num := by exact_mod_cast hnum
  have hd : (0 : ℚ) < den := by exact_mod_cast hden
  rw [decimalExponent]
  split
  · next hle => exact (toDigits_bounds (Nat.div_pos hle hden)).1.trans Nat.cast_div_le
  · next hlt =>
    have hless : (den : ℚ) / num < 10 ^ ((Nat.toDigits 10 (den / num)).length : ℤ) := by
      refine (Nat.lt_floor_add_one _).trans_le ?_
      have := (toDigits_bounds (Nat.div_pos (Nat.le_of_not_le hlt) hnum)).2
      rw [Nat.floor_div_eq_div]
      rw [zpow_natCast] at this ⊢
      exact_mod_cast this
    have hlength : 0 < (Nat.toDigits 10 (den / num)).length :=
      List.length_pos_iff.2 Nat.toDigits_ne_nil
    generalize (Nat.toDigits 10 (den / num)).length = j at hless hlength
    dsimp only
    split
    · next hpower =>
      have hsame : (num : ℚ) * 10 ^ ((j : ℤ) - 1) = den := by
        rw [← Nat.cast_pred hlength, zpow_natCast, ← cast_tenPow]
        exact_mod_cast hpower
      rw [zpow_neg, ← hsame, div_mul_cancel_left₀ hn.ne']
    · rw [zpow_neg, inv_le_comm₀ (ten_zpow_pos _) (div_pos hn hd), inv_div]
      exact hless.le

namespace Finite64

/-- **The shortest decimal of a number is read as the number.** -/
theorem ofDecimal_shortest (x : Finite64) (hm : 0 < x.mantissa) :
    Binary64.ofDecimal x.negative x.shortest.digits x.shortest.exponent = .finite x := by
  have hnum : 0 < x.numerator := Nat.mul_pos hm (twoPow_pos _)
  have hstart := decimalExponent_le hnum x.denominator_pos
  rw [← magnitude_eq_div] at hstart
  -- the last try is the grid on which the number has seventeen digits
  have hgrid : ∃ k : ℕ, k < 17 ∧
      (x.onGrid? (decimalExponent x.numerator x.denominator - k)).isSome := by
    refine ⟨16, by decide, onGrid?_isSome hm (le_of_eq_of_le ?_ hstart)⟩
    rw [← zpow_natCast, ← zpow_add₀ (by norm_num)]
    congr 1
    exact sub_add_cancel _ _
  have haround := (readsBack_iff hm).1 (readsBack_firstHit hgrid)
  rw [ofDecimal_eq_ofRatio]
  exact haround.ofRatio_eq hm (tenPow_pos _) (Decimal.value_eq_div _).symm

end Finite64

end Pagewright.Number
