import Pagewright.Compilation.Identifier
import Pagewright.Markup.Escape
import Pagewright.Proofs.Words

/-!
# Identifiers of pages

Whatever a title is, its identifier is made of words of lower-case letters and digits with single
underscores between them, and it starts with a letter. Adding a number keeps that form, and the
number that is taken is the first one that makes a new identifier. So the identifiers of pages are
all different, although each is chosen with nothing but those before it in view.

Numbers are told apart by their digits, which is what makes the search for a free one end at the
first that is free: an identifier that was struck with a smaller number does not come back. The
search for a free component name is the same search with suffixes in place of numbers, which are
told apart by the length of the name.
-/

namespace Pagewright

open Pagewright.Text

/-! ## The form of an identifier -/

/-- Is the character a lower-case letter of ASCII? -/
def isLowerLetter (c : Char) : Bool := 'a' ≤ c && c ≤ 'z'

/-- A word that starts with a letter, and further words behind underscores. -/
inductive IsIdentifier : List Char → Prop where
  | word {c : Char} {rest : List Char} : isLowerLetter c = true →
      (∀ d ∈ rest, isIdentifierLetter d = true) → IsIdentifier (c :: rest)
  | more {name part : List Char} : IsIdentifier name → part ≠ [] →
      (∀ d ∈ part, isIdentifierLetter d = true) → IsIdentifier (name ++ '_' :: part)

/-- An identifier is made of letters, digits and underscores. -/
theorem IsIdentifier.chars {name : List Char} (h : IsIdentifier name) :
    ∀ c ∈ name, isIdentifierLetter c = true ∨ c = '_' := by
  induction h with
  | @word c rest hc hrest =>
    intro d hd
    rcases List.mem_cons.1 hd with rfl | hd
    · left
      rw [isIdentifierLetter, show ('a' ≤ d && d ≤ 'z') = true from hc, Bool.true_or]
    · exact Or.inl (hrest d hd)
  | more _ _ hpart ih =>
    intro d hd
    rcases List.mem_append.1 hd with hd | hd
    · exact ih d hd
    · rcases List.mem_cons.1 hd with rfl | hd
      · exact Or.inr rfl
      · exact Or.inl (hpart d hd)

/-! ## Identifiers of titles -/

/-- Words behind an identifier make an identifier. -/
theorem IsIdentifier.append {name : List Char} (h : IsIdentifier name) {parts : List (List Char)}
    (hparts : ∀ part ∈ parts, part ≠ [] ∧ ∀ d ∈ part, isIdentifierLetter d = true) :
    IsIdentifier (name ++ parts.flatMap ('_' :: ·)) := by
  induction parts generalizing name with
  | nil => rwa [List.flatMap_nil, List.append_nil]
  | cons part rest ih =>
    obtain ⟨hne, hchars⟩ := hparts part (by simp)
    have := ih (h.more hne hchars) fun other hother => hparts other (by simp [hother])
    rwa [List.flatMap_cons, List.cons_append, ← List.cons_append, ← List.append_assoc]

/-- A letter or digit that is no digit is a letter. -/
theorem isLowerLetter_of_not_digit {c : Char} {rest : List Char} (h : isIdentifierLetter c = true)
    (hd : startsWithNumber (c :: rest) = false) : isLowerLetter c = true := by
  have hd' : ('0' ≤ c && c ≤ '9') = false := hd
  rwa [isIdentifierLetter, hd', Bool.or_false] at h

/-- **Every title has an identifier.** -/
theorem isIdentifier_derive (title : List Char) : IsIdentifier (deriveIdentifier title) := by
  unfold deriveIdentifier
  dsimp only
  have hparts : ∀ part ∈ runsOf isIdentifierLetter ((foldAscii title).map Char.toLower),
      part ≠ [] ∧ ∀ d ∈ part, isIdentifierLetter d = true := fun part hpart => of_mem_runsOf hpart
  generalize runsOf isIdentifierLetter ((foldAscii title).map Char.toLower) = parts at hparts
  cases parts with
  | nil => exact .word (by decide) (forall_mem_of_all (by decide))
  | cons first more =>
    obtain ⟨hne, hfirst⟩ := hparts first (by simp)
    have hmore := fun part (hpart : part ∈ more) => hparts part (by simp [hpart])
    obtain ⟨c, rest, rfl⟩ := List.exists_cons_of_ne_nil hne
    rw [joinWith_cons, List.cons_append]
    dsimp only
    split
    · -- the digit stands behind a word now
      have hpage : IsIdentifier ("page".toList ++ '_' :: (c :: rest)) :=
        .more (.word (by decide) (forall_mem_of_all (by decide))) hne hfirst
      exact hpage.append hmore
    · next hdigit =>
      have hletter := isLowerLetter_of_not_digit (hfirst c (by simp)) (by simpa using hdigit)
      exact IsIdentifier.append (.word hletter fun d hd => hfirst d (by simp [hd])) hmore

theorem toNat_lt_of_isIdentifierLetter {c : Char} (h : isIdentifierLetter c = true) :
    c.toNat < 128 := by
  simp only [isIdentifierLetter, Bool.or_eq_true, Bool.and_eq_true, decide_eq_true_eq,
    Char.le_def, UInt32.le_iff_toNat_le] at h
  have hz : 'z'.val.toNat = 122 := rfl
  have h9 : '9'.val.toNat = 57 := rfl
  show c.val.toNat < 128
  omega

theorem toLower_of_isIdentifierLetter {c : Char} (h : isIdentifierLetter c = true) :
    c.toLower = c := by
  have hall : ∀ n < 128, isIdentifierLetter (Char.ofNat n) = true →
      (Char.ofNat n).toLower = Char.ofNat n := by decide
  have hchar := hall c.toNat (toNat_lt_of_isIdentifierLetter h)
  rw [Char.ofNat_toNat] at hchar
  exact hchar h

/-- A letter is no digit. -/
theorem startsWithNumber_of_isLowerLetter {c : Char} (h : isLowerLetter c = true)
    (rest : List Char) : startsWithNumber (c :: rest) = false := by
  simp only [isLowerLetter, Bool.and_eq_true, decide_eq_true_eq, Char.le_def,
    UInt32.le_iff_toNat_le] at h
  have ha : 'a'.val.toNat = 97 := rfl
  have h9 : '9'.val.toNat = 57 := rfl
  have hlarge : ¬ c ≤ '9' := by
    rw [Char.le_def, UInt32.le_iff_toNat_le]
    omega
  rw [startsWithNumber, decide_eq_false hlarge, Bool.and_false]

/-- An identifier starts with a letter. -/
theorem IsIdentifier.exists_letter {name : List Char} (h : IsIdentifier name) :
    ∃ c rest, name = c :: rest ∧ isLowerLetter c = true := by
  induction h with
  | @word c rest hc _ => exact ⟨c, rest, rfl, hc⟩
  | @more _ part _ _ _ ih =>
    obtain ⟨c, rest, rfl, hc⟩ := ih
    exact ⟨c, rest ++ '_' :: part, rfl, hc⟩

/-- An identifier is made of words that are joined by single underscores. -/
theorem IsIdentifier.exists_parts {name : List Char} (h : IsIdentifier name) :
    ∃ parts, (∀ part ∈ parts, part ≠ [] ∧ ∀ d ∈ part, isIdentifierLetter d = true) ∧
      joinWith ['_'] parts = name := by
  induction h with
  | @word c rest hc hrest =>
    refine ⟨[c :: rest], fun part hpart => ?_, rfl⟩
    rw [List.mem_singleton.1 hpart]
    refine ⟨List.cons_ne_nil _ _, fun d hd => ?_⟩
    rcases List.mem_cons.1 hd with rfl | hd
    · exact Bool.or_eq_true_iff.2 (Or.inl hc)
    · exact hrest d hd
  | @more name last hname hne hlast ih =>
    obtain ⟨parts, hparts, hjoin⟩ := ih
    obtain ⟨c, rest, rfl, _⟩ := hname.exists_letter
    cases parts with
    | nil => exact absurd hjoin (List.cons_ne_nil _ _).symm
    | cons first more =>
      refine ⟨first :: (more ++ [last]), fun part hpart => ?_, ?_⟩
      · rw [← List.cons_append] at hpart
        rcases List.mem_append.1 hpart with hpart | hpart
        · exact hparts part hpart
        · rw [List.mem_singleton.1 hpart]
          exact ⟨hne, hlast⟩
      · rw [← hjoin, joinWith_cons, joinWith_cons, List.flatMap_append, List.flatMap_singleton,
          List.append_assoc, List.singleton_append]

/-- **An identifier derives itself**: it is its own fold, and its words are read back. -/
theorem IsIdentifier.derive_eq {name : List Char} (h : IsIdentifier name) :
    deriveIdentifier name = name := by
  have hfold : foldAscii name = name := by
    refine foldAscii_of_ascii name fun c hc => ?_
    rcases h.chars c hc with hletter | rfl
    · exact toNat_lt_of_isIdentifierLetter hletter
    · decide
  have hlower : name.map Char.toLower = name := by
    refine (List.map_congr_left fun c hc => ?_).trans (List.map_id name)
    rcases h.chars c hc with hletter | rfl
    · exact toLower_of_isIdentifierLetter hletter
    · decide
  obtain ⟨parts, hparts, hjoin⟩ := h.exists_parts
  have hruns : runsOf isIdentifierLetter name = parts := by
    rw [← hjoin]
    exact runsOf_joinWith (List.cons_ne_nil _ _) (forall_mem_of_all (by decide)) hparts
  obtain ⟨c, rest, rfl, hc⟩ := h.exists_letter
  unfold deriveIdentifier
  dsimp only
  rw [hfold, hlower, hruns, hjoin]
  dsimp only
  rw [if_neg (by simp [startsWithNumber_of_isLowerLetter hc])]

/-! ## Free numbers -/

theorem natDigits_injective {m n : Nat} (h : Number.natDigits m = Number.natDigits n) : m = n := by
  have hread : ∀ k, Nat.ofDigitChars 10 (Number.natDigits k) 0 = k := fun k =>
    Nat.ofDigitChars_ten_toDigits
  rw [← hread m, h, hread n]

theorem numbered_injective {base : List Char} {m n : Nat} (h : numbered base m = numbered base n) :
    m = n :=
  natDigits_injective (List.cons.inj (List.append_cancel_left h)).2

/-- **The number that is taken is the first free one.** -/
theorem freeNumber_spec (base : List Char) (number : Nat) (taken : List (List Char)) :
    number ≤ freeNumber base number taken ∧
      numbered base (freeNumber base number taken) ∉ taken ∧
      ∀ k, number ≤ k → k < freeNumber base number taken → numbered base k ∈ taken := by
  induction taken using strike_induction generalizing number with
  | step taken ih =>
    rw [freeNumber]
    split
    · next hmem =>
      obtain ⟨hle, hfree, hfirst⟩ := ih _ hmem (number + 1)
      refine ⟨by omega, fun hin => hfree (mem_strike.2 ⟨hin, fun heq => ?_⟩), fun k hk hlt => ?_⟩
      · have := numbered_injective heq
        omega
      · rcases Nat.eq_or_lt_of_le hk with rfl | hk
        · exact hmem
        · exact (mem_strike.1 (hfirst k hk hlt)).1
    · next hfree => exact ⟨Nat.le_refl _, hfree, fun k hk hlt => absurd hk (by omega)⟩

theorem uniqueIdentifier_not_mem (base : List Char) (taken : List (List Char)) :
    uniqueIdentifier base taken ∉ taken := by
  unfold uniqueIdentifier
  split
  · exact (freeNumber_spec base 2 taken).2.1
  · next h => exact h

theorem isIdentifierLetter_natDigits {n : Nat} {c : Char} (h : c ∈ Number.natDigits n) :
    isIdentifierLetter c = true := by
  have hdigit : c.isDigit = true := Nat.isDigit_of_mem_toDigits (by decide) (by decide) h
  rw [isIdentifierLetter, show ('0' ≤ c && c ≤ '9') = true from hdigit, Bool.or_true]

/-- A number keeps the form of an identifier. -/
theorem IsIdentifier.unique {base : List Char} (h : IsIdentifier base)
    (taken : List (List Char)) : IsIdentifier (uniqueIdentifier base taken) := by
  unfold uniqueIdentifier
  split
  · exact h.more Nat.toDigits_ne_nil fun d hd => isIdentifierLetter_natDigits hd
  · exact h

/-! ## Component names -/

/-- A capital letter of ASCII, and letters and digits behind it. -/
def IsPascalName : List Char → Prop
  | [] => False
  | c :: rest => ('A' ≤ c && c ≤ 'Z') = true ∧ ∀ d ∈ rest, Markup.isPlain d = true

theorem IsPascalName.append {name more : List Char} (h : IsPascalName name)
    (hmore : ∀ d ∈ more, Markup.isPlain d = true) : IsPascalName (name ++ more) := by
  cases name with
  | nil => exact h.elim
  | cons c rest =>
    refine ⟨h.1, fun d hd => ?_⟩
    rcases List.mem_append.1 hd with hd | hd
    · exact h.2 d hd
    · exact hmore d hd

theorem isPlain_of_isIdentifierLetter {c : Char} (h : isIdentifierLetter c = true) :
    Markup.isPlain c = true := by
  rw [isIdentifierLetter, Bool.or_eq_true] at h
  rw [Markup.isPlain, Bool.or_eq_true, Bool.or_eq_true]
  exact h.elim (fun h => Or.inl (Or.inr h)) Or.inr

/-- The letters and digits of an identifier, and their capitals. -/
theorem upperChar_of_isIdentifierLetter {c : Char} (h : isIdentifierLetter c = true) :
    ∃ d, upperChar c = [d] ∧ Markup.isPlain d = true ∧
      (isLowerLetter c = true → ('A' ≤ d && d ≤ 'Z') = true) := by
  have hsmall : c.toNat < 128 := toNat_lt_of_isIdentifierLetter h
  have hall : ∀ n < 128, isIdentifierLetter (Char.ofNat n) = true →
      Markup.isPlain (Char.ofNat n).toUpper = true ∧ (isLowerLetter (Char.ofNat n) = true →
        ('A' ≤ (Char.ofNat n).toUpper && (Char.ofNat n).toUpper ≤ 'Z') = true) := by decide
  have hchar := hall c.toNat hsmall
  rw [Char.ofNat_toNat] at hchar
  obtain ⟨hplain, hupper⟩ := hchar h
  exact ⟨c.toUpper, if_pos hsmall, hplain, hupper⟩

/-- A part of an identifier with a capital first letter. -/
theorem isPlain_capitalize {part : List Char} (h : ∀ c ∈ part, isIdentifierLetter c = true) :
    ∀ d ∈ capitalize part, Markup.isPlain d = true := by
  cases part with
  | nil => exact nofun
  | cons c rest =>
    obtain ⟨upper, hupper, hplain, _⟩ := upperChar_of_isIdentifierLetter (h c (by simp))
    intro d hd
    rw [capitalize, hupper, List.singleton_append] at hd
    rcases List.mem_cons.1 hd with rfl | hd
    · exact hplain
    · exact isPlain_of_isIdentifierLetter (h d (by simp [hd]))

/-- **The component name of an identifier starts with a capital** and holds letters and digits
only. -/
theorem IsIdentifier.componentName {identifier : List Char} (h : IsIdentifier identifier) :
    IsPascalName (componentName identifier) := by
  have hword : ∀ {c : Char}, isIdentifierLetter c = true → (c == '_') = false := by
    intro c hc
    refine beq_eq_false_iff_ne.2 fun heq => ?_
    rw [heq] at hc
    exact absurd hc (by decide)
  induction h with
  | @word c rest hc hrest =>
    have hfirst : isIdentifierLetter c = true := by
      rw [isIdentifierLetter, show ('a' ≤ c && c ≤ 'z') = true from hc, Bool.true_or]
    have hall : ∀ d ∈ c :: rest, isIdentifierLetter d = true := by
      intro d hd
      rcases List.mem_cons.1 hd with rfl | hd
      · exact hfirst
      · exact hrest d hd
    obtain ⟨upper, hupper, _, hcapital⟩ := upperChar_of_isIdentifierLetter hfirst
    rw [Pagewright.componentName, splitBy_eq_singleton fun d hd => hword (hall d hd),
      List.flatMap_singleton, capitalize, hupper]
    exact ⟨hcapital hc, fun d hd => isPlain_of_isIdentifierLetter (hrest d hd)⟩
  | @more name part _ _ hpart ih =>
    -- the underscore is a cut, and the part behind it has no other
    rw [Pagewright.componentName, splitBy_append_cons (by decide), List.flatMap_append,
      splitBy_eq_singleton fun d hd => hword (hpart d hd), List.flatMap_singleton]
    exact ih.append (isPlain_capitalize hpart)

/-- A name with a number of suffixes. -/
def suffixed (name : List Char) : Nat → List Char
  | 0 => name
  | count + 1 => suffixed (name ++ pageSuffix) count

theorem length_suffixed (name : List Char) (count : Nat) :
    (suffixed name count).length = name.length + 4 * count := by
  induction count generalizing name with
  | zero => rfl
  | succ count ih =>
    have hsuffix : pageSuffix.length = 4 := by decide
    rw [suffixed, ih, List.length_append, hsuffix]
    omega

theorem IsPascalName.suffixed {name : List Char} (h : IsPascalName name) (count : Nat) :
    IsPascalName (suffixed name count) := by
  induction count generalizing name with
  | zero => exact h
  | succ count ih => exact ih (h.append (forall_mem_of_all (by decide)))

/-- **The name that is taken has the least number of suffixes** with which it is free. -/
theorem freeName_spec (name : List Char) (taken : List (List Char)) :
    ∃ count, freeName name taken = suffixed name count ∧ suffixed name count ∉ taken ∧
      ∀ k < count, suffixed name k ∈ taken := by
  induction taken using strike_induction generalizing name with
  | step taken ih =>
    rw [freeName]
    split
    · next hmem =>
      obtain ⟨count, heq, hfree, hleast⟩ := ih _ hmem (name ++ pageSuffix)
      refine ⟨count + 1, heq, fun hin => hfree (mem_strike.2 ⟨hin, fun hname => ?_⟩), ?_⟩
      · -- the struck name is shorter
        have hlength := congrArg List.length hname
        rw [← suffixed, length_suffixed] at hlength
        omega
      · intro k hk
        cases k with
        | zero => exact hmem
        | succ k => exact (mem_strike.1 (hleast k (Nat.lt_of_succ_lt_succ hk))).1
    · next hfree => exact ⟨0, rfl, hfree, nofun⟩

end Pagewright
