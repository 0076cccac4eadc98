import Mathlib.Data.Nat.Cast.Field
import Pagewright.Proofs.Conforming
import Pagewright.Proofs.Numerals
import Pagewright.Value.Number

/-!
# Numerals and number fields agree

A number field and the generated code read a value by case analyses of their own. The field tests
the range of an integer against a bound and turns a text into an integer when it can; the code asks
for the binary64 number nearest to the integer, and leaves the text the number that it writes. The
bound is where the nearest number stops being finite (`fitsBinary64_iff`), and a numeral depends on
nothing but the rational number that it stands for (`Amount.numeral_congr`), so the two come to the
same numeral (`Value.numeral_eq`).

A percentage is made from the numeral, read back as a binary64 number. An integer of more than 53
bits may be rounded there, but it stays beyond 53 bits and keeps its sign (`ofInt_finite`), so that
it is on the same side of the range from zero to one hundred.
-/

namespace Pagewright

open Pagewright.Number

namespace Number

namespace Finite64

theorem toRat_zero (negative : Bool) : (zero negative).toRat = 0 := by
  have : (zero negative).magnitude = 0 := magnitude_eq_zero_iff.2 rfl
  rw [toRat, this, neg_zero, ite_self]

end Finite64

/-! ## The number nearest to an integer -/

/-- **An integer below `2^53` is a number**, and another one is rounded to an integer that is not
below `2^53` either. -/
theorem ofRatio_natCast {n : ℕ} (hpos : 0 < n) (hbound : n < overflowBound) (negative : Bool) :
    ∃ (x : Finite64) (k : ℕ), Binary64.ofRatio negative n 1 = .finite x ∧ x.negative = negative ∧
      x.magnitude = k ∧ (k = n ∨ 2 ^ 53 ≤ n ∧ 2 ^ 53 ≤ k) := by
  have hr : (n : ℚ) / (1 : ℕ) = n := by rw [Nat.cast_one, div_one]
  have hn : (0 : ℚ) < n := by exact_mod_cast hpos
  obtain ⟨x, m, hx, hsign, hm, hmagnitude⟩ :=
    ofRatio_finite one_pos hr hn negative (by exact_mod_cast hbound)
  obtain ⟨_, _, hlow⟩ := (spacing_eq_iff hn).1 rfl
  generalize spacing (n : ℚ) = q at hm hmagnitude hlow
  rcases le_or_gt q 0 with hfine | hcoarse
  · -- a spacing of at most one leaves the integer where it is
    obtain ⟨s, rfl⟩ : ∃ s : ℕ, q = -s := ⟨q.natAbs, by omega⟩
    have hunits : (n : ℚ) / 2 ^ (-s : ℤ) = (n * 2 ^ s : ℕ) := by
      rw [zpow_neg, div_inv_eq_mul, zpow_natCast]
      push_cast
      rfl
    rw [hunits] at hm
    refine ⟨x, n, hx, hsign, ?_, Or.inl rfl⟩
    rw [hmagnitude, hm.unique (roundsTo_natCast _), ← hunits,
      div_mul_cancel₀ _ (two_zpow_pos _).ne']
  · obtain ⟨s, rfl⟩ : ∃ s : ℕ, q = (s + 1 : ℕ) := ⟨q.natAbs - 1, by omega⟩
    have hunits : (2 : ℚ) ^ 52 ≤ n / 2 ^ ((s + 1 : ℕ) : ℤ) := hlow.resolve_left (by omega)
    have hbits : 2 ^ 52 ≤ m := hm.le_of_le (by exact_mod_cast hunits)
    have hscale : 2 ^ 53 ≤ 2 ^ 52 * 2 ^ (s + 1) := by
      rw [← pow_add]
      exact Nat.pow_le_pow_right two_pos (by omega)
    refine ⟨x, m * 2 ^ (s + 1), hx, hsign, by rw [hmagnitude]; push_cast; rfl,
      Or.inr ⟨hscale.trans ?_, hscale.trans (Nat.mul_le_mul_right _ hbits)⟩⟩
    rw [le_div_iff₀ (two_zpow_pos _), zpow_natCast] at hunits
    exact_mod_cast hunits

/-- **An integer in the range is rounded to an integer**, which is the same one or far away from
zero on the same side. -/
theorem ofInt_finite {n : ℤ} (h : fitsBinary64 n = true) :
    ∃ (x : Finite64) (k : ℤ), Binary64.ofInt n = .finite x ∧ x.toRat = k ∧
      (k = n ∨ 2 ^ 53 ≤ n ∧ 2 ^ 53 ≤ k ∨ n ≤ -2 ^ 53 ∧ k ≤ -2 ^ 53) := by
  rcases eq_or_ne n 0 with rfl | hne
  · exact ⟨.zero false, 0, rfl, Finite64.toRat_zero false, Or.inl rfl⟩
  obtain ⟨x, k, hx, hsign, hmagnitude, hk⟩ := ofRatio_natCast (Int.natAbs_pos.2 hne)
    (of_decide_eq_true h) (decide (n < 0))
  by_cases hneg : n < 0
  · refine ⟨x, -k, hx, ?_, by omega⟩
    rw [Finite64.toRat, hsign, decide_eq_true hneg, if_pos rfl, hmagnitude]
    push_cast
    rfl
  · refine ⟨x, k, hx, ?_, by omega⟩
    rw [Finite64.toRat, hsign, decide_eq_false hneg, if_neg Bool.false_ne_true, hmagnitude]
    rfl

theorem fitsBinary64_zero : fitsBinary64 0 = true := by decide +kernel

/-- **The range is that of the integers with a finite nearest number.** -/
theorem fitsBinary64_iff {n : ℤ} : fitsBinary64 n = true ↔ ∃ x, Binary64.ofInt n = .finite x := by
  constructor
  · intro h
    obtain ⟨x, _, hx, _⟩ := ofInt_finite h
    exact ⟨x, hx⟩
  · rintro ⟨x, hx⟩
    by_contra hbeyond
    have hbound : overflowBound ≤ n.natAbs := by
      rw [fitsBinary64, decide_eq_true_iff] at hbeyond
      omega
    have hpos : 0 < n.natAbs := lt_of_lt_of_le (by decide +kernel) hbound
    have hr : (n.natAbs : ℚ) / (1 : ℕ) = n.natAbs := by rw [Nat.cast_one, div_one]
    have hinfinite := ofRatio_infinite one_pos hr (by exact_mod_cast hpos) (decide (n < 0))
      (by exact_mod_cast hbound)
    cases hx.symm.trans hinfinite

/-! ## Whole numbers -/

namespace Finite64

variable {x y : Finite64}

theorem abs_toRat (x : Finite64) : |x.toRat| = x.magnitude := by
  rw [toRat]
  split
  · rw [abs_neg, abs_of_nonneg x.magnitude_nonneg]
  · rw [abs_of_nonneg x.magnitude_nonneg]

/-- A whole number loses nothing when its fraction is cut off. -/
theorem toRat_truncate (h : x.isWhole = true) : x.toRat = x.truncate := by
  have hdvd : x.denominator ∣ x.numerator := Nat.dvd_of_mod_eq_zero (eq_of_beq h)
  have hmagnitude : x.magnitude = (x.numerator / x.denominator : ℕ) := by
    rw [magnitude_eq_div, Nat.cast_div hdvd (by exact_mod_cast x.denominator_pos.ne')]
  rw [toRat, truncate, hmagnitude]
  split <;> push_cast <;> rfl

theorem isWhole_of_toRat {n : ℤ} (h : x.toRat = n) : x.isWhole = true := by
  have hmagnitude : x.magnitude = n.natAbs := by
    rw [← abs_toRat, h, Nat.cast_natAbs, Int.cast_abs]
  rw [magnitude_eq_div, div_eq_iff (by exact_mod_cast x.denominator_pos.ne')] at hmagnitude
  have hproduct : x.numerator = n.natAbs * x.denominator := by exact_mod_cast hmagnitude
  rw [isWhole, hproduct, Nat.mul_mod_left]
  rfl

/-- The numeral of an integer is the same for the number that it is. -/
theorem numeral_of_toRat {n : ℤ} (h : x.toRat = n) : x.numeral = intDigits n := by
  have hwhole := isWhole_of_toRat h
  rw [toRat_truncate hwhole] at h
  rw [numeral, if_pos hwhole, Int.cast_inj.1 h]

/-- A number is rounded to itself. -/
theorem ofRatio_self (h : x.toRat ≠ 0) :
    Binary64.ofRatio x.negative x.numerator x.denominator = .finite x := by
  have hm : 0 < x.mantissa := by
    refine Nat.pos_of_ne_zero fun hzero => h ?_
    rw [eq_zero hzero, toRat_zero]
  exact x.around_magnitude.ofRatio_eq hm x.denominator_pos x.magnitude_eq_div.symm

theorem negative_iff (h : x.toRat ≠ 0) : x.negative = true ↔ x.toRat < 0 := by
  have hpos : 0 < x.magnitude := by
    rw [← abs_toRat]
    exact abs_pos.2 h
  rw [toRat]
  split
  · next hneg => exact ⟨fun _ => neg_neg_of_pos hpos, fun _ => hneg⟩
  · next hneg => exact ⟨fun h => absurd h hneg, fun h => absurd h hpos.le.not_gt⟩

/-- **Two numbers other than zero that stand for the same rational number are the same.** -/
theorem eq_of_toRat (h : x.toRat = y.toRat) (hne : x.toRat ≠ 0) : x = y := by
  have hsign : x.negative = y.negative := by
    rw [Bool.eq_iff_iff, negative_iff hne, negative_iff (h ▸ hne), h]
  have hquotient : (x.numerator : ℚ) / x.denominator = y.numerator / y.denominator := by
    rw [← magnitude_eq_div, ← magnitude_eq_div, ← abs_toRat, ← abs_toRat, h]
  -- both are what their common quotient is rounded to
  have hx := ofRatio_self hne
  rw [hsign, ofRatio_congr x.denominator_pos y.denominator_pos hquotient,
    ofRatio_self (h ▸ hne)] at hx
  exact (Binary64.finite.inj hx).symm

/-- The number nearest to a whole number is the number, but for the sign of zero. -/
theorem ofInt_truncate (hwhole : x.isWhole = true) :
    ∃ y, Binary64.ofInt x.truncate = .finite y ∧ y.toRat = x.toRat := by
  have h := toRat_truncate hwhole
  rcases eq_or_ne x.truncate 0 with hzero | hne
  · exact ⟨zero false, by rw [hzero]; rfl, by rw [toRat_zero, h, hzero, Int.cast_zero]⟩
  · have hx : x.toRat ≠ 0 := h ▸ Int.cast_ne_zero.2 hne
    have hsign : decide (x.truncate < 0) = x.negative := by
      rw [Bool.eq_iff_iff, decide_eq_true_iff, negative_iff hx, h, Int.cast_lt_zero]
    have hquotient : (x.truncate.natAbs : ℚ) / (1 : ℕ) = x.numerator / x.denominator := by
      rw [← magnitude_eq_div, ← abs_toRat, h, Nat.cast_one, div_one, Nat.cast_natAbs,
        Int.cast_abs]
    refine ⟨x, ?_, rfl⟩
    rw [Binary64.ofInt, hsign, ofRatio_congr one_pos x.denominator_pos hquotient, ofRatio_self hx]

/-- **The numeral of a finite number is read as the number**, but for the sign of zero. -/
theorem read?_numeral (x : Finite64) :
    ∃ y, read? x.numeral = some (.finite y) ∧ y.toRat = x.toRat := by
  rw [numeral]
  split
  · next hwhole =>
    obtain ⟨y, hy, hsame⟩ := ofInt_truncate hwhole
    exact ⟨y, by rw [read?_intDigits, hy], hsame⟩
  · exact ⟨x, x.read?_text, rfl⟩

end Finite64

/-! ## The range of percentages -/

theorem clamp_of_ge {r : ℚ} (h : 100 ≤ r) : max 0 (min 100 r) = 100 := by
  rw [min_eq_left h, max_eq_right (by norm_num)]

theorem clamp_of_le {r : ℚ} (h : r ≤ 0) : max 0 (min 100 r) = 0 := by
  rw [min_eq_right (h.trans (by norm_num)), max_eq_left h]

namespace Finite64

variable {x : Finite64}

theorem isBelowHundred_iff : (Binary64.finite x).isBelowHundred = true ↔ x.toRat < 100 := by
  have hden : (0 : ℚ) < x.denominator := by exact_mod_cast x.denominator_pos
  have hcompare : x.numerator < 100 * x.denominator ↔ x.magnitude < 100 := by
    rw [magnitude_eq_div, div_lt_iff₀ hden]
    exact_mod_cast Iff.rfl
  have hnonneg := x.magnitude_nonneg
  rw [Binary64.isBelowHundred, Bool.or_eq_true, decide_eq_true_iff, hcompare, toRat]
  split
  · next hneg => exact ⟨fun _ => by linarith, fun _ => Or.inl hneg⟩
  · next hneg => exact or_iff_right hneg

theorem isPositive_iff : x.isPositive = true ↔ 0 < x.toRat := by
  have hzero : x.mantissa != 0 ↔ 0 < x.magnitude := by
    rw [bne_iff_ne, x.magnitude_nonneg.lt_iff_ne', Ne, Ne, magnitude_eq_zero_iff]
  have hnonneg := x.magnitude_nonneg
  rw [isPositive, Bool.and_eq_true, hzero, Bool.not_eq_true', toRat]
  split
  · next hneg => exact ⟨fun h => absurd (hneg.symm.trans h.1) (by decide), fun h => by linarith⟩
  · next hneg => exact and_iff_right (Bool.not_eq_true _ ▸ hneg)

theorem toRat_hundred : hundred.toRat = 100 := by
  rw [toRat_truncate (by decide)]
  exact congrArg Int.cast (by decide : hundred.truncate = 100)

/-- **A finite number is clamped as the rational number that it is.** -/
theorem clampPercent_finite (x : Finite64) :
    ∃ z, (Binary64.finite x).clampPercent = .finite z ∧ z.toRat = max 0 (min 100 x.toRat) := by
  obtain ⟨capped, hcapped, hmin⟩ : ∃ y, (if (Binary64.finite x).isBelowHundred then .finite x
      else .finite hundred) = Binary64.finite y ∧ y.toRat = min 100 x.toRat := by
    split
    · next h => exact ⟨x, rfl, (min_eq_right (isBelowHundred_iff.1 h).le).symm⟩
    · next h =>
      refine ⟨hundred, rfl, ?_⟩
      rw [toRat_hundred, min_eq_left (not_lt.1 (isBelowHundred_iff.not.1 h))]
  rw [Binary64.clampPercent, hcapped, ← hmin]
  by_cases h : capped.isPositive = true
  · exact ⟨capped, if_pos h, (max_eq_right (isPositive_iff.1 h).le).symm⟩
  · refine ⟨zero false, if_neg h, ?_⟩
    rw [toRat_zero, max_eq_left (not_lt.1 (isPositive_iff.not.1 h))]

end Finite64

end Number

/-! ## Numerals of numbers -/

/-- The digits of an integer are its decimal. -/
theorem intDigits_eq (n : ℤ) : intDigits n = (toString n).toList := by
  cases n with
  | ofNat n =>
    rw [Int.ofNat_eq_natCast, intDigits, if_neg (Int.not_lt.2 (Int.natCast_nonneg n))]
    exact String.toList_ofList.symm
  | negSucc n =>
    rw [intDigits, if_pos (Int.negSucc_lt_zero n)]
    have htext : toString (Int.negSucc n) = "-" ++ toString (n + 1) := rfl
    rw [htext, String.toList_append]
    exact congrArg ('-' :: ·) String.toList_ofList.symm

namespace Amount

/-- The rational number that a number is. -/
def toRat : Amount → ℚ
  | .whole n => n
  | .real x => x.toRat

/-- The binary64 number nearest to a number. -/
def nearest : Amount → Binary64
  | .whole n => .ofInt n
  | .real x => .finite x

/-- The numeral of a number. -/
def numeral : Amount → List Char
  | .whole n => intDigits n
  | .real x => x.numeral

/-- **The numeral depends on the rational number alone.** -/
theorem numeral_congr {a b : Amount} (h : a.toRat = b.toRat) : a.numeral = b.numeral := by
  cases a with
  | whole n =>
    cases b with
    | whole k => exact congrArg intDigits (Int.cast_inj.1 h)
    | real y => exact (Finite64.numeral_of_toRat h.symm).symm
  | real x =>
    cases b with
    | whole k => exact Finite64.numeral_of_toRat h
    | real y =>
      by_cases hwhole : x.isWhole = true
      · have hx := Finite64.toRat_truncate hwhole
        exact (Finite64.numeral_of_toRat hx).trans
          (Finite64.numeral_of_toRat (h.symm.trans hx)).symm
      · -- a fraction is not zero, so one number alone stands for it
        have hne : x.toRat ≠ 0 := fun hzero =>
          hwhole (Finite64.isWhole_of_toRat (hzero.trans Int.cast_zero.symm))
        exact congrArg Finite64.numeral (Finite64.eq_of_toRat h hne)

/-- **The numeral of a clamped number** is that of a bound, or that of the number. -/
theorem numeral_clamped {a : Amount} {z : Finite64} (h : z.toRat = max 0 (min 100 a.toRat)) :
    z.numeral =
      if a.toRat < 0 then ['0'] else if 100 < a.toRat then ['1', '0', '0'] else a.numeral := by
  split
  · next hlow =>
    have hzero : z.toRat = (0 : ℤ) := by rw [h, clamp_of_le hlow.le, Int.cast_zero]
    exact (Finite64.numeral_of_toRat hzero).trans (by decide)
  · next hlow =>
    split
    · next hhigh =>
      have hhundred : z.toRat = (100 : ℤ) := by rw [h, clamp_of_ge hhigh.le, Int.cast_ofNat]
      exact (Finite64.numeral_of_toRat hhundred).trans (by decide)
    · next hhigh =>
      have hsame : (Amount.real z).toRat = a.toRat := by
        rw [toRat, h, min_eq_right (not_lt.1 hhigh), max_eq_right (not_lt.1 hlow)]
      exact numeral_congr hsame

/-- **The numeral of a number is read as the nearest number**, but for the sign of zero. -/
theorem read?_numeral {a : Amount} {x : Finite64} (h : a.nearest = .finite x) :
    ∃ y, read? a.numeral = some (.finite y) ∧ y.toRat = x.toRat := by
  cases a with
  | whole n => exact ⟨x, (read?_intDigits n).trans (congrArg some h), rfl⟩
  | real x' =>
    obtain rfl : x' = x := Binary64.finite.inj h
    exact x'.read?_numeral

/-- **The nearest number is finite and on the same side of the range of percentages**; in the range
it is the number itself. -/
theorem nearest_finite {a : Amount} (h : a.toValue.amount? = some a) :
    ∃ x, a.nearest = .finite x ∧ max 0 (min 100 x.toRat) = max 0 (min 100 a.toRat) := by
  cases a with
  | real x => exact ⟨x, rfl, rfl⟩
  | whole n =>
    have hfits : fitsBinary64 n = true := by
      by_contra hbeyond
      rw [toValue, Value.amount?, if_neg hbeyond] at h
      cases h
    obtain ⟨x, k, hx, hk, hside⟩ := ofInt_finite hfits
    refine ⟨x, hx, ?_⟩
    rw [hk, toRat]
    -- what is rounded is far outside of the range, and stays there
    rcases hside with rfl | ⟨hn, hk⟩ | ⟨hn, hk⟩
    · rfl
    · have hlarge : ∀ j : ℤ, 2 ^ 53 ≤ j → (100 : ℚ) ≤ j := fun j hj => by
        exact_mod_cast (by omega : (100 : ℤ) ≤ j)
      rw [clamp_of_ge (hlarge n hn), clamp_of_ge (hlarge k hk)]
    · have hsmall : ∀ j : ℤ, j ≤ -2 ^ 53 → (j : ℚ) ≤ 0 := fun j hj => by
        exact_mod_cast (by omega : j ≤ 0)
      rw [clamp_of_le (hsmall n hn), clamp_of_le (hsmall k hk)]

end Amount

/-! ## Numerals of values -/

namespace Value

theorem numeral?_int (n : ℤ) : (int n).numeral? = (int n).amount?.map Amount.numeral := by
  rw [numeral?, amount?]
  by_cases hfits : fitsBinary64 n = true
  · -- the nearest number is an integer too, so the digits are written
    obtain ⟨x, k, hx, hk, _⟩ := ofInt_finite hfits
    rw [hx, if_pos hfits]
    dsimp only
    rw [if_pos (Finite64.isWhole_of_toRat hk)]
    rfl
  · rw [if_neg hfits]
    split
    · next x hx => exact absurd (fitsBinary64_iff.2 ⟨x, hx⟩) hfits
    · rfl

theorem numeral?_text (s : String) : (text s).numeral? = (text s).amount?.map Amount.numeral := by
  rw [numeral?, amount?]
  cases read? s.toList with
  | none => rfl
  | some x =>
    cases x with
    | finite x =>
      rw [Option.bind_some, Amount.ofBinary64?, Option.map_some]
      by_cases hwhole : x.isWhole = true
      · rw [if_pos hwhole]
        exact congrArg some (if_pos hwhole)
      · rw [if_neg hwhole]
        rfl
    | nan => rfl
    | infinite negative => rfl

/-- The two case analyses come to the same numeral. -/
theorem numeral?_eq (v : Value) : v.numeral? = v.amount?.map Amount.numeral := by
  cases v with
  | scalar s =>
    cases s with
    | int n => exact numeral?_int n
    | text s => exact numeral?_text s
    | float x => cases x <;> rfl
    | _ => rfl
  | _ => rfl

/-- The number that a number field with the default zero takes a value for. -/
def coerced (v : Value) : Amount := v.amount?.getD (.whole 0)

theorem numberOr_zero (v : Value) : v.numberOr (.int 0) = v.coerced.toValue := by
  rw [numberOr, coerced]
  cases v.amount? <;> rfl

theorem amount?_coerced (v : Value) : v.coerced.toValue.amount? = some v.coerced := by
  rw [coerced]
  cases h : v.amount? with
  | none =>
    rw [Option.getD_none, Amount.toValue, amount?, if_pos fitsBinary64_zero]
  | some a => exact amount?_toValue h

theorem coerced_toValue (v : Value) : v.coerced.toValue.coerced = v.coerced := by
  rw [coerced, amount?_coerced, Option.getD_some]

/-- **The numeral of a value is that of the number that the field takes it for.** -/
theorem numeral_eq (v : Value) : v.numeral = v.coerced.numeral := by
  rw [numeral, numeral?_eq, coerced]
  cases v.amount? <;> rfl

/-- **A percentage is the numeral of the number that the field takes the value for, clamped.** -/
theorem percent?_eq (v : Value) :
    ∃ z : Finite64, v.percent? = some z.numeral ∧ z.toRat = max 0 (min 100 v.coerced.toRat) := by
  obtain ⟨x, hx, hside⟩ := Amount.nearest_finite v.amount?_coerced
  obtain ⟨y, hy, hsame⟩ := Amount.read?_numeral hx
  obtain ⟨z, hz, hclamped⟩ := y.clampPercent_finite
  refine ⟨z, ?_, hclamped.trans (hsame ▸ hside)⟩
  rw [percent?, numeral_eq, hy, Option.map_some, hz]
  rfl

/-- Zero is a substitute for every value. -/
theorem numeralOr_zero (v : Value) : v.numeralOr (.int 0) = .ok v.numeral := by
  have hzero : substituteNumeral (.int 0) = .ok ['0'] := by
    rw [substituteNumeral, if_pos fitsBinary64_zero]
    rfl
  unfold numeralOr numeral
  cases v.numeral? with
  | none => exact hzero
  | some numeral => rfl

/-! ## What a value is taken for -/

/-- The binary64 number nearest to what a value writes. Truth values are no numbers. -/
def binary64? : Value → Option Binary64
  | .int n => some (.ofInt n)
  | .float x => some x
  | .text s => read? s.toList
  | _ => none

/-- What a field takes for a number writes a finite number, and the field holds that one. -/
theorem binary64?_of_amount? {v : Value} {a : Amount} (h : v.amount? = some a) :
    ∃ x y, v.binary64? = some (.finite x) ∧ a.nearest = .finite y ∧ y.toRat = x.toRat := by
  unfold amount? at h
  split at h
  · next n =>
    split at h
    · next hfits =>
      obtain ⟨x, hx⟩ := fitsBinary64_iff.1 hfits
      rw [← Option.some.inj h]
      exact ⟨x, x, congrArg some hx, hx, rfl⟩
    · cases h
  · next x =>
    rw [← Option.some.inj h]
    exact ⟨x, x, rfl, rfl, rfl⟩
  · next s =>
    obtain ⟨x, hx, ha⟩ := Option.bind_eq_some_iff.1 h
    cases x with
    | finite x =>
      rw [← Option.some.inj ha]
      split
      · next hwhole =>
        obtain ⟨y, hy, hsame⟩ := Finite64.ofInt_truncate hwhole
        exact ⟨x, y, hx, hy, hsame⟩
      · exact ⟨x, x, hx, rfl, rfl⟩
    | nan => cases ha
    | infinite negative => cases ha
  · cases h

/-- A field takes every value that writes a finite number for a number. -/
theorem amount?_of_binary64? {v : Value} {x : Finite64} (h : v.binary64? = some (.finite x)) :
    ∃ a, v.amount? = some a := by
  unfold binary64? at h
  split at h
  · next n => exact ⟨.whole n, by rw [amount?, if_pos (fitsBinary64_iff.2 ⟨x, Option.some.inj h⟩)]⟩
  · rw [Option.some.inj h]
    exact ⟨.real x, rfl⟩
  · rw [amount?, h]
    exact ⟨_, rfl⟩
  · cases h

/-- What the number field and the generated code come to, when a value is taken for a number. -/
structure Coerced (v : Value) (a : Amount) : Prop where
  /-- The number field holds the number. -/
  field : v.numberOr (.int 0) = a.toValue
  /-- The number is the one that the value writes. -/
  number : ∀ x, v.binary64? = some (.finite x) → ∃ y, a.nearest = .finite y ∧ y.toRat = x.toRat
  /-- A value that writes no finite number counts as zero. -/
  zero : (∀ x, v.binary64? ≠ some (.finite x)) → a = .whole 0
  /-- There is a numeral for the value. -/
  total : v.numeralOr (.int 0) = .ok v.numeral
  /-- The numeral is the same for the value and for what the number field holds. -/
  agree : v.numeral = (v.numberOr (.int 0)).numeral
  /-- The number is in the range of binary64, and the numeral is read as the finite number nearest
  to it. -/
  finite : ∃ x y, a.nearest = .finite x ∧ read? v.numeral = some (.finite y) ∧ y.toRat = x.toRat
  /-- The numeral of an integer in the range of binary64 is its decimal, every digit of it. -/
  exact : ∀ n x, v = .int n → Binary64.ofInt n = .finite x → v.numeral = (toString n).toList
  /-- There is a percentage. -/
  percent : v.percent? = some v.percent
  /-- The percentage writes the number, or the nearer bound of the range from zero to one
  hundred. -/
  clamped : ∃ x, read? v.percent = some (.finite x) ∧ x.toRat = max 0 (min 100 a.toRat)
  /-- The percentage is the numeral of the value when the number is in the range, and that of the
  nearer bound otherwise. -/
  bounded : v.percent =
    if a.toRat < 0 then ['0'] else if 100 < a.toRat then ['1', '0', '0'] else v.numeral

/-- **The number field and the generated code agree on every value**, and neither leaves the finite
range. -/
theorem numerals_agree (v : Value) : v.Coerced v.coerced where
  field := v.numberOr_zero
  number x hx := by
    obtain ⟨a, ha⟩ := amount?_of_binary64? hx
    obtain ⟨x', y, hx', hy, hsame⟩ := binary64?_of_amount? ha
    obtain rfl : x = x' := Binary64.finite.inj (Option.some.inj (hx.symm.trans hx'))
    exact ⟨y, by rw [coerced, ha, Option.getD_some, hy], hsame⟩
  zero hnone := by
    rw [coerced]
    cases ha : v.amount? with
    | none => rfl
    | some a =>
      obtain ⟨x, _, hx, _⟩ := binary64?_of_amount? ha
      exact absurd hx (hnone x)
  total := v.numeralOr_zero
  agree := by rw [numberOr_zero, numeral_eq, numeral_eq v.coerced.toValue, coerced_toValue]
  finite := by
    obtain ⟨x, hx, _⟩ := Amount.nearest_finite v.amount?_coerced
    obtain ⟨y, hy, hsame⟩ := Amount.read?_numeral hx
    exact ⟨x, y, hx, v.numeral_eq ▸ hy, hsame⟩
  exact := by
    rintro n x rfl hx
    rw [numeral_eq, coerced, amount?, if_pos (fitsBinary64_iff.2 ⟨x, hx⟩)]
    exact intDigits_eq n
  percent := by
    obtain ⟨z, hz, _⟩ := v.percent?_eq
    rw [percent, hz, Option.getD_some]
  clamped := by
    obtain ⟨z, hz, hclamped⟩ := v.percent?_eq
    obtain ⟨y, hy, hsame⟩ := z.read?_numeral
    exact ⟨y, by rw [percent, hz, Option.getD_some, hy], hsame.trans hclamped⟩
  bounded := by
    obtain ⟨z, hz, hclamped⟩ := v.percent?_eq
    rw [percent, hz, Option.getD_some, numeral_eq]
    exact Amount.numeral_clamped hclamped

example : (Value.int (2 ^ 53 + 1)).numeral = "9007199254740993".toList := by decide

example : (Value.text " 250e-1").percent = ['2', '5'] := by decide

end Value

end Pagewright
