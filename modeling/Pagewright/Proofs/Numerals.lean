import Mathlib.Data.List.DropRight
import Pagewright.Number.Layout
import Pagewright.Number.Reading
import Pagewright.Proofs.Shortest
import Pagewright.Proofs.Words

/-!
# Numerals are read as what they write

The text of a number has digits, perhaps a point with digits behind it, and perhaps an exponent
(`written`). Reading such a text gives the number nearest to the decimal that it spells
(`readUnsigned?_written`). How the digits of a decimal are laid out, with zeros in front of them,
behind them or left out, does not change what is spelled (`writes_layoutDigits`), so the text of a
decimal is read as the number nearest to it, and the text of a number, which spells the shortest
decimal, as the number itself (`Binary64.read?_text`).
-/

namespace Pagewright.Number

open Pagewright.Text

/-! ## Digits -/

/-- Is the text made of the ten digits? -/
def AllDigits (s : List Char) : Prop := ∀ c ∈ s, c.isDigit = true

/-- The number that digits spell. -/
def spelled (s : List Char) : ℕ := Nat.ofDigitChars 10 s 0

/-- Do digits end in front of the text? -/
def EndsDigits (rest : List Char) : Prop := ∀ c ∈ rest.head?, digitValue? c = none ∧ c ≠ '_'

theorem isDigit_bounds {c : Char} (h : c.isDigit = true) : 48 ≤ c.toNat ∧ c.toNat ≤ 57 := by
  rw [Char.isDigit, Bool.and_eq_true, decide_eq_true_iff, decide_eq_true_iff] at h
  exact h

theorem isBlank_of_isDigit {c : Char} (h : c.isDigit = true) : isBlank c = false := by
  have := isDigit_bounds h
  simp [isBlank, Ranges.has, blankRanges]
  omega

theorem digitValue?_of_isDigit {c : Char} (h : c.isDigit = true) :
    digitValue? c = some (c.toNat - '0'.toNat) := by
  obtain ⟨hlow, hhigh⟩ := isDigit_bounds h
  rw [digitValue?, digitZeros, List.find?_cons_of_pos (by simp; omega)]
  rfl

theorem takeDigitsFrom_append {s rest : List Char} (hs : AllDigits s) (hrest : EndsDigits rest)
    (afterDigit : Bool) :
    takeDigitsFrom digitValue? afterDigit (s ++ rest) =
      (s.map fun c => c.toNat - '0'.toNat, rest) := by
  induction s generalizing afterDigit with
  | nil =>
    cases rest with
    | nil => rfl
    | cons c more =>
      obtain ⟨hdigit, hmark⟩ := hrest c rfl
      rw [List.nil_append, takeDigitsFrom]
      simp [hdigit, hmark]
  | cons c more ih =>
    rw [List.cons_append, takeDigitsFrom, digitValue?_of_isDigit (hs c (List.mem_cons_self ..)),
      ih fun d hd => hs d (List.mem_cons_of_mem c hd)]
    rfl

theorem takeDigits_append {s rest : List Char} (hs : AllDigits s) (hrest : EndsDigits rest) :
    takeDigits (s ++ rest) = (s.map fun c => c.toNat - '0'.toNat, rest) :=
  takeDigitsFrom_append hs hrest false

theorem ofDigits_map (s : List Char) : ofDigits (s.map fun c => c.toNat - '0'.toNat) = spelled s :=
  List.foldl_map

theorem allDigits_natDigits (n : ℕ) : AllDigits (natDigits n) := fun _ hc =>
  Nat.isDigit_of_mem_toDigits (by decide) (by decide) hc

theorem spelled_natDigits (n : ℕ) : spelled (natDigits n) = n := Nat.ofDigitChars_ten_toDigits

theorem spelled_append (s t : List Char) :
    spelled (s ++ t) = spelled s * 10 ^ t.length + spelled t := by
  rw [spelled, Nat.ofDigitChars_append, Nat.ofDigitChars_eq_ofDigitChars_zero, mul_comm]
  rfl

theorem spelled_zeros (k : ℕ) : spelled (List.replicate k '0') = 0 :=
  Nat.ofDigitChars_replicate_zero

theorem spelled_zeros_append (k : ℕ) (s : List Char) :
    spelled (List.replicate k '0' ++ s) = spelled s := by
  rw [spelled_append, spelled_zeros, Nat.zero_mul, Nat.zero_add]

theorem allDigits_zeros (k : ℕ) : AllDigits (List.replicate k '0') := fun c hc => by
  rw [List.eq_of_mem_replicate hc]
  rfl

theorem AllDigits.append {s t : List Char} (hs : AllDigits s) (ht : AllDigits t) :
    AllDigits (s ++ t) := fun c hc => (List.mem_append.1 hc).elim (hs c) (ht c)

/-! ## Written numbers -/

/-- A number written by digits, a point with digits behind it, and an exponent. -/
def written (whole : List Char) (places : Option (List Char)) (e : Option ℤ) : List Char :=
  whole ++ (places.elim [] ('.' :: ·) ++ e.elim [] exponentText)

/-- An exponent is a sign with digits behind it; a zero may have been put in front of them. -/
theorem exponentText_eq (e : ℤ) :
    ∃ padded, exponentText e = 'e' :: (if e < 0 then '-' else '+') :: padded ∧
      padded ≠ [] ∧ AllDigits padded ∧ spelled padded = e.natAbs := by
  have hdigits := allDigits_natDigits e.natAbs
  have hspelled := spelled_natDigits e.natAbs
  refine ⟨_, rfl, ?_⟩
  split
  · exact ⟨List.cons_ne_nil _ _, (allDigits_zeros 1).append hdigits,
      (spelled_zeros_append 1 _).trans hspelled⟩
  · exact ⟨Nat.toDigits_ne_nil, hdigits, hspelled⟩

theorem readExponent?_exponentText (e : ℤ) : readExponent? (exponentText e) = some e := by
  obtain ⟨padded, htext, hne, hdigits, hspelled⟩ := exponentText_eq e
  have htake := takeDigits_append hdigits (show EndsDigits [] from nofun)
  have hmap := ofDigits_map padded
  obtain ⟨c, more, rfl⟩ := List.exists_cons_of_ne_nil hne
  rw [List.map_cons] at htake hmap
  rw [List.append_nil] at htake
  have hsign : takeSign ((if e < 0 then '-' else '+') :: c :: more) =
      (decide (e < 0), c :: more) := by
    split
    · next hneg => rw [decide_eq_true hneg]; rfl
    · next hneg => rw [decide_eq_false hneg]; rfl
  rw [htext, readExponent?, if_pos (Or.inl rfl), hsign]
  dsimp only
  rw [htake]
  dsimp only
  rw [hmap, hspelled]
  congr 1
  simp only [decide_eq_true_eq]
  split <;> omega

theorem readExponent?_exponent (e : Option ℤ) :
    readExponent? (e.elim [] exponentText) = some (e.getD 0) := by
  cases e with
  | none => rfl
  | some e => exact readExponent?_exponentText e

/-- An exponent starts with no digit, and with no point. -/
theorem ends_exponent (e : Option ℤ) :
    EndsDigits (e.elim [] exponentText) ∧ ∀ more, e.elim [] exponentText ≠ '.' :: more := by
  cases e with
  | none => exact ⟨nofun, nofun⟩
  | some e =>
    refine ⟨fun c hc => ?_, fun more h => absurd (List.cons.inj h).1 (by decide)⟩
    obtain rfl : 'e' = c := Option.some.inj hc
    exact ⟨by decide, by decide⟩

theorem toLower_of_isDigit {c : Char} (h : c.isDigit = true) : c.toLower = c := by
  have hhigh : c.toNat ≤ 57 := (isDigit_bounds h).2
  refine dif_neg fun hupper => ?_
  have : 65 ≤ c.toNat := UInt32.le_iff_toNat_le.1 hupper.1
  omega

/-- **What is written is read as the nearest number.** -/
theorem readUnsigned?_written (negative : Bool) {whole : List Char} (hne : whole ≠ [])
    (hwhole : AllDigits whole) {places : Option (List Char)} (hplaces : AllDigits (places.getD []))
    (e : Option ℤ) :
    readUnsigned? negative (written whole places e) =
      some (.ofDecimal negative (spelled (whole ++ places.getD []))
        (e.getD 0 - (places.getD []).length)) := by
  obtain ⟨c, more, rfl⟩ := List.exists_cons_of_ne_nil hne
  -- the words for the infinity and for the number that is none start with a letter
  have hword : ∀ word : List Char, word.head?.any Char.isDigit = false →
      (written (c :: more) places e).map Char.toLower ≠ word := by
    rintro word hletter rfl
    have hc := hwhole c (List.mem_cons_self ..)
    have hlower : c.toLower.isDigit = false := hletter
    rw [toLower_of_isDigit hc, hc] at hlower
    cases hlower
  obtain ⟨hends, hpoint⟩ := ends_exponent e
  rw [readUnsigned?]
  dsimp only
  rw [if_neg (not_or.2 ⟨hword _ (by decide), hword _ (by decide)⟩), if_neg (hword _ (by decide)),
    written]
  cases places with
  | none =>
    rw [Option.elim_none, List.nil_append, takeDigits_append hwhole hends]
    -- no point follows the digits, so there are no places
    simp only [Option.getD_none, List.append_nil, List.length_nil]
    rw [readExponent?_exponent, ofDigits_map]
    rfl
  | some ps =>
    have hdot : EndsDigits ('.' :: ps ++ e.elim [] exponentText) := by
      intro c hc
      obtain rfl : '.' = c := Option.some.inj hc
      exact ⟨by decide, by decide⟩
    rw [Option.getD_some] at hplaces ⊢
    rw [Option.elim_some, takeDigits_append hwhole hdot, List.cons_append]
    simp only [takeDigits_append hplaces hends]
    rw [readExponent?_exponent, ← List.map_append, ofDigits_map, List.length_map]
    rfl

/-- Decimals of one value are read alike. -/
theorem ofDecimal_congr {d d' : Decimal} (h : d.value = d'.value) (negative : Bool) :
    Binary64.ofDecimal negative d.digits d.exponent =
      Binary64.ofDecimal negative d'.digits d'.exponent := by
  rw [ofDecimal_eq_ofRatio, ofDecimal_eq_ofRatio]
  rw [Decimal.value_eq_div, Decimal.value_eq_div] at h
  exact ofRatio_congr (tenPow_pos _) (tenPow_pos _) h negative

/-- A text that writes a number. -/
inductive Writes : List Char → ℚ → Prop
  | intro {whole : List Char} {places : Option (List Char)} {e : Option ℤ} {v : ℚ}
    (hne : whole ≠ []) (hwhole : AllDigits whole) (hplaces : AllDigits (places.getD []))
    (hvalue : Decimal.value ⟨spelled (whole ++ places.getD []),
      e.getD 0 - (places.getD []).length⟩ = v) : Writes (written whole places e) v

namespace Writes

variable {s : List Char} {v : ℚ}

theorem head_isDigit (h : Writes s v) : ∃ c more, s = c :: more ∧ c.isDigit = true := by
  obtain ⟨hne, hwhole, _, _⟩ := h
  obtain ⟨c, more, rfl⟩ := List.exists_cons_of_ne_nil hne
  exact ⟨c, _, rfl, hwhole c (List.mem_cons_self ..)⟩

theorem not_isBlank (h : Writes s v) : ∀ c ∈ s, isBlank c = false := by
  obtain @⟨_, places, e, _, _, hwhole, hplaces, _⟩ := h
  intro c hc
  rw [written, List.mem_append, List.mem_append] at hc
  rcases hc with hc | hc | hc
  · exact isBlank_of_isDigit (hwhole c hc)
  · cases places with
    | none => cases hc
    | some ps =>
      rcases List.mem_cons.1 hc with rfl | hc
      · decide
      · exact isBlank_of_isDigit (hplaces c hc)
  · cases e with
    | none => cases hc
    | some e =>
      obtain ⟨padded, htext, _, hdigits, _⟩ := exponentText_eq e
      rw [Option.elim_some, htext, List.mem_cons, List.mem_cons] at hc
      rcases hc with rfl | rfl | hc
      · decide
      · split <;> decide
      · exact isBlank_of_isDigit (hdigits c hc)

/-- **A text that writes a decimal is read as the number nearest to it**, behind a sign. -/
theorem read? {d : Decimal} (h : Writes s d.value) (negative : Bool) :
    read? (if negative then '-' :: s else s) =
      some (.ofDecimal negative d.digits d.exponent) := by
  have hblank := h.not_isBlank
  obtain ⟨c, more, hhead, hdigit⟩ := h.head_isDigit
  have hunsigned : readUnsigned? negative s = some (.ofDecimal negative d.digits d.exponent) := by
    generalize hv : d.value = v at h
    obtain ⟨hne, hwhole, hplaces, hvalue⟩ := h
    rw [readUnsigned?_written negative hne hwhole hplaces]
    exact congrArg some (ofDecimal_congr (hvalue.trans hv.symm) negative)
  have htrimmed : ∀ {t : List Char}, (∀ c ∈ t, isBlank c = false) → trim t = t := fun ht =>
    trim_eq_self ⟨fun c hc => ht c (List.mem_of_mem_head? hc),
      fun c hc => ht c (List.mem_of_mem_getLast? hc)⟩
  cases negative with
  | true =>
    rw [if_pos rfl, Number.read?, htrimmed (List.forall_mem_cons.2 ⟨by decide, hblank⟩)]
    exact hunsigned
  | false =>
    have hsign : takeSign s = (false, s) := by
      have := isDigit_bounds hdigit
      rw [hhead, takeSign]
      · rintro rest hrest
        obtain ⟨rfl, -⟩ := List.cons.inj hrest
        revert hdigit
        decide
      · rintro rest hrest
        obtain ⟨rfl, -⟩ := List.cons.inj hrest
        revert hdigit
        decide
    rw [if_neg Bool.false_ne_true, Number.read?, htrimmed hblank, hsign]
    exact hunsigned

end Writes

/-! ## The text of a decimal -/

theorem writes_natDigits (n : ℕ) : Writes (natDigits n) (Decimal.value ⟨n, 0⟩) := by
  have h : Writes (written (natDigits n) none none) (Decimal.value ⟨n, 0⟩) :=
    .intro Nat.toDigits_ne_nil (allDigits_natDigits n) nofun (by
      rw [Option.getD_none, List.append_nil, spelled_natDigits]
      rfl)
  rwa [written, Option.elim_none, Option.elim_none, List.append_nil, List.append_nil] at h

/-- Zeros behind the digits are the same as a greater exponent. -/
theorem value_zeros (s : List Char) (k : ℕ) (e : ℤ) :
    Decimal.value ⟨spelled (s ++ List.replicate k '0'), e⟩ =
      Decimal.value ⟨spelled s, e + k⟩ := by
  rw [Decimal.value, Decimal.value, spelled_append, spelled_zeros, List.length_replicate,
    zpow_add₀ (by norm_num), zpow_natCast]
  push_cast
  ring

/-- A number written with a point, and with no exponent. -/
theorem writes_point {whole places : List Char} {v : ℚ} (hne : whole ≠ [])
    (hwhole : AllDigits whole) (hplaces : AllDigits places)
    (hvalue : Decimal.value ⟨spelled (whole ++ places), -places.length⟩ = v) :
    Writes (whole ++ '.' :: places) v := by
  have h : Writes (written whole (some places) none) v :=
    .intro hne hwhole hplaces (by rwa [Option.getD_none, zero_sub])
  rwa [written, Option.elim_none, List.append_nil] at h

section Layout

variable {s : List Char} (hne : s ≠ []) (hs : AllDigits s)
include hs

theorem writes_fraction (k : ℕ) :
    Writes ('0' :: '.' :: List.replicate k '0' ++ s)
      (Decimal.value ⟨spelled s, -(k + s.length : ℕ)⟩) := by
  refine @writes_point ['0'] (List.replicate k '0' ++ s) _ (List.cons_ne_nil _ _)
    (allDigits_zeros 1) ((allDigits_zeros k).append hs) ?_
  rw [← List.append_assoc, List.singleton_append, ← List.replicate_succ, spelled_zeros_append,
    List.length_append, List.length_replicate]

include hne

theorem writes_whole (n : ℕ) :
    Writes (s.take (n + 1) ++ List.replicate (n + 1 - s.length) '0' ++
        '.' :: (if (s.drop (n + 1)).isEmpty then ['0'] else s.drop (n + 1)))
      (Decimal.value ⟨spelled s, n + 1 - s.length⟩) := by
  rcases le_or_gt s.length (n + 1) with hfew | hmany
  · rw [List.take_of_length_le hfew, List.drop_of_length_le hfew, List.isEmpty_nil, if_pos rfl]
    refine writes_point (List.append_ne_nil_of_left_ne_nil hne _) (hs.append (allDigits_zeros _))
      (allDigits_zeros 1) ?_
    -- the zeros that fill up the digits and the one behind the point stand together
    rw [List.append_assoc, ← List.replicate_succ', value_zeros, List.length_singleton]
    congr 2
    omega
  · have hplaces : s.drop (n + 1) ≠ [] := List.drop_eq_nil_iff.not.2 (by omega)
    rw [if_neg (by rwa [List.isEmpty_iff]), Nat.sub_eq_zero_of_le hmany.le, List.replicate_zero,
      List.append_nil]
    refine writes_point (mt (List.take_eq_nil_iff.1) (not_or.2 ⟨n.succ_ne_zero, hne⟩))
      (fun c hc => hs c (List.mem_of_mem_take hc)) (fun c hc => hs c (List.mem_of_mem_drop hc)) ?_
    rw [List.take_append_drop, List.length_drop]
    congr 2
    omega

/-- **Laying out digits keeps the number that they stand for.** -/
theorem writes_layoutDigits (e : ℤ) :
    Writes (layoutDigits s e) (Decimal.value ⟨spelled s, e + 1 - s.length⟩) := by
  unfold layoutDigits
  split
  · -- with an exponent, the first digit stands in front of the point
    cases s with
    | nil => exact absurd rfl hne
    | cons d rest =>
      obtain ⟨hd, hrest⟩ := List.forall_mem_cons.1 hs
      cases rest with
      | nil =>
        refine @Writes.intro [d] none (some e) _ hne hs nofun ?_
        rw [Option.getD_none, List.append_nil, List.length_singleton, Nat.cast_one,
          add_sub_cancel_right]
        exact congrArg _ (congrArg _ (sub_zero e))
      | cons d' rest =>
        refine @Writes.intro [d] (some (d' :: rest)) (some e) _ (List.cons_ne_nil _ _)
          (List.forall_mem_singleton.2 hd) hrest ?_
        rw [List.length_cons (a := d), Nat.cast_succ, add_sub_add_right_eq_sub]
        rfl
  · split
    · next hneg =>
      have h := writes_fraction hs (e.natAbs - 1)
      rwa [show -((e.natAbs - 1 + s.length : ℕ) : ℤ) = e + 1 - s.length by omega] at h
    · next hneg =>
      obtain ⟨n, rfl⟩ := Int.eq_ofNat_of_zero_le (le_of_not_gt hneg)
      exact writes_whole hne hs n

end Layout

theorem eq_dropEndZeros_append (s : List Char) :
    ∃ k, s = dropEndZeros s ++ List.replicate k '0' := by
  refine ⟨(s.rtakeWhile (· == '0')).length, ?_⟩
  have hzeros : ∀ c ∈ s.rtakeWhile (· == '0'), c = '0' := fun c hc =>
    eq_of_beq (List.mem_rtakeWhile_imp (p := (· == '0')) hc)
  rw [← List.eq_replicate_of_mem hzeros]
  exact List.rdropWhile_append_rtakeWhile.symm

/-- **The text of a decimal writes it.** -/
theorem writes_text {d : Decimal} (hd : 0 < d.digits) : Writes d.text d.value := by
  obtain ⟨k, hk⟩ := eq_dropEndZeros_append (natDigits d.digits)
  have hspelled := spelled_natDigits d.digits
  have hdigits := allDigits_natDigits d.digits
  rw [Decimal.text]
  generalize dropEndZeros (natDigits d.digits) = s at hk ⊢
  rw [hk] at hspelled hdigits ⊢
  -- a positive number does not consist of zeros
  have hne : s ≠ [] := by
    rintro rfl
    rw [List.nil_append, spelled_zeros] at hspelled
    exact hd.ne hspelled
  have h := writes_layoutDigits hne (fun c hc => hdigits c (List.mem_append_left _ hc))
    (d.exponent + (s ++ List.replicate k '0').length - 1)
  have hvalue : Decimal.value ⟨spelled s, d.exponent + k⟩ = d.value := by
    rw [← value_zeros, hspelled]
  rwa [show d.exponent + (s ++ List.replicate k '0').length - 1 + 1 - s.length = d.exponent + k by
    rw [List.length_append, List.length_replicate]
    omega, hvalue] at h

/-! ## Numbers are read as what they are -/

namespace Finite64

/-- The number without a mantissa is the zero of its sign. -/
theorem eq_zero {x : Finite64} (h : x.mantissa = 0) : x = zero x.negative := by
  obtain ⟨negative, mantissa, exponent, hadmissible⟩ := x
  obtain rfl : mantissa = 0 := h
  obtain rfl : exponent = -1074 := hadmissible.2.2.2.resolve_left (by decide)
  rfl

theorem shortest_digits_pos {x : Finite64} (hm : 0 < x.mantissa) : 0 < x.shortest.digits := by
  refine Nat.pos_of_ne_zero fun hzero => ?_
  have h := x.ofDecimal_shortest hm
  rw [hzero] at h
  exact hm.ne (congrArg mantissa (Binary64.finite.inj h))

/-- **The text of a finite number is read as the number.** -/
theorem read?_text (x : Finite64) : read? x.text = some (.finite x) := by
  rw [text]
  rcases Nat.eq_zero_or_pos x.mantissa with hzero | hpos
  · rw [if_pos hzero, eq_zero hzero]
    cases x.negative <;> decide
  · rw [if_neg hpos.ne', (writes_text (shortest_digits_pos hpos)).read?, x.ofDecimal_shortest hpos]

end Finite64

/-- **The text of a number is read as the number.** -/
theorem Binary64.read?_text (x : Binary64) : read? x.text = some x := by
  cases x with
  | nan => decide
  | infinite negative => cases negative <;> decide
  | finite x => exact x.read?_text

/-- **The digits of an integer are read as the number nearest to it.** -/
theorem read?_intDigits (n : ℤ) : read? (intDigits n) = some (.ofInt n) := by
  have h := (writes_natDigits n.natAbs).read? (decide (n < 0))
  rw [ofDecimal_eq_ofRatio] at h
  simp only [decide_eq_true_eq] at h
  rw [intDigits, h]
  exact congrArg _ (congrArg (Binary64.ofRatio _ · 1) (Nat.mul_one _))

end Pagewright.Number
