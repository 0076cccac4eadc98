import Mathlib.Data.List.Nodup
import Pagewright.Catalogue.Bundled
import Pagewright.Catalogue.Conform

/-!
# What conforming props hold

Conforming lays the given props over the defaults and then walks the fields, so what a conforming
mapping holds at a field is fixed by that field alone: `get?_conform` says which value it is. A
field takes its own values for what they are, if its default is such a value (`Field.Accepts`).

From there conforming twice is conforming once (`Schema.Steady.conform_conform`), entry by entry
and in the same order. The defaults give a conforming mapping its first keys (`keys_conform`), no
two of its entries have one key and none is absent, so laying it over the defaults again gives it
back, and every field finds a value of its own. The bundled schemas are steady, which is why the
zones of a component do not depend on how often its props were resolved.
-/

namespace Pagewright

open Pagewright.Number

/-! ## Keys and lookups -/

namespace Key

/-- Equal keys are told apart from no other key. -/
theorem same_congr_right {a b : Key} (h : a.same b = true) (k : Key) : k.same a = k.same b := by
  obtain ⟨f, ha, hb⟩ := same_eq_true_iff.1 h
  unfold same
  rw [ha, hb]

theorem same_congr_left {a b : Key} (h : a.same b = true) (k : Key) : a.same k = b.same k := by
  obtain ⟨f, ha, hb⟩ := same_eq_true_iff.1 h
  unfold same
  rw [ha, hb]

theorem same_self_of_same {a b : Key} (h : a.same b = true) : a.same a = true := by
  obtain ⟨f, ha, _⟩ := same_eq_true_iff.1 h
  exact same_eq_true_iff.2 ⟨f, ha, ha⟩

theorem same_text (s t : String) : (text s).same (text t) = decide (s = t) := by
  by_cases h : s = t
  · subst h
    simpa using same_eq_true_iff.2 ⟨_, form?_text s, form?_text s⟩
  · rw [decide_eq_false h, ← Bool.not_eq_true, same_eq_true_iff]
    rintro ⟨f, hs, ht⟩
    rw [form?_text] at hs ht
    rw [← hs] at ht
    exact h (by simpa using ht.symm)

end Key

namespace Props

theorem find?_congr {a b : Key} (h : a.same b = true) (props : Props) :
    props.find? a = props.find? b := by
  unfold Props.find?
  exact congrArg (Option.map Prod.snd) (congrArg (List.find? · props)
    (funext fun entry => Key.same_congr_right h entry.1))

theorem find?_insert (props : Props) {key target : Key} (value : Value) :
    (props.insert key value).find? target =
      if key.same target then some value else props.find? target := by
  split
  · rename_i h
    rw [← find?_congr h]
    exact find?_insert_self props (Key.same_self_of_same h) value
  · rename_i h
    exact find?_insert_of_ne props (by simpa using h) value

theorem get?_put_self (props : Props) (name : String) (value : Value) :
    (props.put name value).get? name = some value := by
  rw [get?, put, find?_insert, if_pos (by simp [Key.same_text])]

theorem get?_put_of_ne (props : Props) {name other : String} (h : name ≠ other) (value : Value) :
    (props.put name value).get? other = props.get? other := by
  rw [get?, put, find?_insert, if_neg (by simp [Key.same_text, h]), get?]

/-- No two entries have one key. -/
def Apart (props : Props) : Prop := props.Pairwise fun a b => a.1.same b.1 = false

instance (props : Props) : Decidable props.Apart :=
  inferInstanceAs (Decidable (List.Pairwise _ props))

/-- The key of an entry after an insertion is an old one or the new one. -/
theorem key_of_mem_insert {props : Props} {key : Key} {value : Value} {entry : Key × Value}
    (h : entry ∈ props.insert key value) : entry.1 = key ∨ ∃ old ∈ props, old.1 = entry.1 := by
  induction props with
  | nil => exact Or.inl (by simp [Props.insert] at h; simp [h])
  | cons first rest ih =>
    rw [Props.insert] at h
    split at h
    · rcases List.mem_cons.1 h with rfl | h
      · exact Or.inr ⟨first, by simp, rfl⟩
      · exact Or.inr ⟨entry, by simp [h], rfl⟩
    · rcases List.mem_cons.1 h with rfl | h
      · exact Or.inr ⟨_, by simp, rfl⟩
      · rcases ih h with h | ⟨old, hold, h⟩
        · exact Or.inl h
        · exact Or.inr ⟨old, by simp [hold], h⟩

theorem Apart.insert {props : Props} (h : props.Apart) (key : Key) (value : Value) :
    (Props.insert props key value).Apart := by
  induction props with
  | nil => exact List.pairwise_singleton _ _
  | cons first rest ih =>
    obtain ⟨hfirst, hrest⟩ := List.pairwise_cons.1 h
    rw [Props.insert]
    split
    · exact List.pairwise_cons.2 ⟨hfirst, hrest⟩
    · rename_i hne
      refine List.pairwise_cons.2 ⟨fun entry hentry => ?_, ih hrest⟩
      rcases key_of_mem_insert hentry with heq | ⟨old, hold, heq⟩
      · rw [heq]
        simpa using hne
      · rw [← heq]
        exact hfirst old hold

/-- An entry after an insertion is an old one or holds the new value. -/
theorem mem_insert {props : Props} {key : Key} {value : Value} {entry : Key × Value}
    (h : entry ∈ Props.insert props key value) : entry.2 = value ∨ entry ∈ props := by
  induction props with
  | nil => exact Or.inl (by rw [List.mem_singleton.1 h])
  | cons first rest ih =>
    rw [Props.insert] at h
    split at h
    · rcases List.mem_cons.1 h with rfl | h
      · exact Or.inl rfl
      · exact Or.inr (List.mem_cons_of_mem _ h)
    · rcases List.mem_cons.1 h with rfl | h
      · exact Or.inr (List.mem_cons_self ..)
      · exact (ih h).imp_right (List.mem_cons_of_mem _)

/-- An insertion leaves the entries of other keys. -/
theorem mem_insert_of_ne {props : Props} {key : Key} {entry : Key × Value} (h : entry ∈ props)
    (hne : entry.1.same key = false) (value : Value) : entry ∈ Props.insert props key value := by
  induction props with
  | nil => exact absurd h List.not_mem_nil
  | cons first rest ih =>
    rw [Props.insert]
    split
    · next hsame =>
      rcases List.mem_cons.1 h with rfl | h
      · rw [hne] at hsame
        exact absurd hsame Bool.false_ne_true
      · exact List.mem_cons_of_mem _ h
    · rcases List.mem_cons.1 h with rfl | h
      · exact List.mem_cons_self ..
      · exact List.mem_cons_of_mem _ (ih h)

/-- An insertion keeps the keys that are there, in their places. -/
theorem keys_insert (props : Props) (key : Key) (value : Value) :
    props.map Prod.fst <+: (Props.insert props key value).map Prod.fst := by
  induction props with
  | nil => exact List.nil_prefix
  | cons first rest ih =>
    rw [Props.insert]
    split
    · exact List.prefix_rfl
    · exact List.prefix_cons_inj _ |>.2 ih

/-- Giving a key the value that it has changes nothing. -/
theorem insert_of_find? {props : Props} {key : Key} {value : Value}
    (h : props.find? key = some value) : Props.insert props key value = props := by
  induction props with
  | nil => contradiction
  | cons first rest ih =>
    rw [Props.insert]
    by_cases hk : first.1.same key = true
    · have hv : first.2 = value := by simpa [find?, hk] using h
      rw [if_pos hk, ← hv]
    · rw [if_neg hk, ih (by simpa [find?, hk] using h)]

/-- A key that none of the first entries has is inserted behind them. -/
theorem insert_append {before : Props} {key : Key}
    (h : ∀ entry ∈ before, entry.1.same key = false) (after : Props) (value : Value) :
    Props.insert (before ++ after) key value = before ++ Props.insert after key value := by
  induction before with
  | nil => rfl
  | cons first rest ih =>
    have hfirst : ¬first.1.same key = true := by simp [h first (List.mem_cons_self ..)]
    rw [List.cons_append, Props.insert, if_neg hfirst,
      ih fun entry hentry => h entry (List.mem_cons_of_mem _ hentry), List.cons_append]

/-- **Entries laid over a mapping with their first keys take its place.** -/
theorem foldl_insert_of_keys (laid : Props) {base todo : Props} (hapart : Apart (laid ++ todo))
    (hkeys : base.map Prod.fst <+: todo.map Prod.fst)
    (hself : ∀ entry ∈ base, entry.1.same entry.1 = true) :
    todo.foldl (fun (props : Props) entry => Props.insert props entry.1 entry.2) (laid ++ base) =
      laid ++ todo := by
  induction todo generalizing laid base with
  | nil =>
    have hbase : base = [] := List.map_eq_nil_iff.1 (List.prefix_nil.1 hkeys)
    rw [hbase, List.foldl_nil]
  | cons entry rest ih =>
    have hmove : laid ++ entry :: rest = (laid ++ [entry]) ++ rest := by simp
    -- the key of the entry is none of those that were laid before
    have hbefore : ∀ old ∈ laid, old.1.same entry.1 = false := by
      intro old hold
      exact (List.pairwise_append.1 hapart).2.2 old hold entry (List.mem_cons_self ..)
    rw [List.foldl_cons, insert_append hbefore]
    cases base with
    | nil =>
      have hnext : laid ++ Props.insert [] entry.1 entry.2 = (laid ++ [entry]) ++ [] := by
        rw [Props.insert, List.append_nil]
      have hnone : ∀ old ∈ ([] : Props), old.1.same old.1 = true := fun _ h => absurd h (by simp)
      have hrest : ([] : Props).map Prod.fst <+: rest.map Prod.fst := List.nil_prefix
      rw [hnext, ih _ (hmove ▸ hapart) hrest hnone, ← hmove]
    | cons first others =>
      obtain ⟨hfirst, hothers⟩ := List.cons_prefix_cons.1 hkeys
      have hnext : laid ++ Props.insert (first :: others) entry.1 entry.2 =
          (laid ++ [entry]) ++ others := by
        have hsame : first.1.same entry.1 = true := by
          rw [← show first.1 = entry.1 from hfirst]
          exact hself first (List.mem_cons_self ..)
        have hentry : (first.1, entry.2) = entry := Prod.ext hfirst rfl
        rw [Props.insert, if_pos hsame, hentry, List.append_assoc, List.singleton_append]
      rw [hnext, ih _ (hmove ▸ hapart) hothers
        fun other hother => hself other (List.mem_cons_of_mem _ hother), ← hmove]

/-- An entry is found under its key. -/
theorem Apart.find?_of_mem {props : Props} (h : props.Apart) {entry : Key × Value}
    (hmem : entry ∈ props) (hself : entry.1.same entry.1 = true) :
    props.find? entry.1 = some entry.2 := by
  induction props with
  | nil => exact absurd hmem List.not_mem_nil
  | cons first rest ih =>
    obtain ⟨hfirst, hrest⟩ := List.pairwise_cons.1 h
    rcases List.mem_cons.1 hmem with rfl | hmem
    · simp [find?, hself]
    · have hne : first.1.same entry.1 = false := hfirst entry hmem
      have hfind := ih hrest hmem
      simpa [find?, hne] using hfind

/-- Entries that are there need not be laid. -/
theorem foldl_insert_filter {keep : Key × Value → Bool} {base todo : Props} (hapart : todo.Apart)
    (hthere : ∀ entry ∈ todo, keep entry = false → base.find? entry.1 = some entry.2) :
    (todo.filter keep).foldl (fun (props : Props) entry => Props.insert props entry.1 entry.2)
      base =
      todo.foldl (fun (props : Props) entry => Props.insert props entry.1 entry.2) base := by
  induction todo generalizing base with
  | nil => rfl
  | cons entry rest ih =>
    obtain ⟨hentry, hrest⟩ := List.pairwise_cons.1 hapart
    have hlater := fun other (hother : other ∈ rest) => hthere other (List.mem_cons_of_mem _ hother)
    cases hkeep : keep entry with
    | true =>
      rw [List.filter_cons_of_pos hkeep, List.foldl_cons, List.foldl_cons]
      refine ih hrest fun other hother hleft => ?_
      rw [find?_insert, if_neg (by simp [hentry other hother]), hlater other hother hleft]
    | false =>
      rw [List.filter_cons_of_neg (by simp [hkeep]), List.foldl_cons,
        insert_of_find? (hthere entry (List.mem_cons_self ..) hkeep), ih hrest hlater]

end Props

/-! ## What a conforming mapping holds at a field -/

namespace Schema

variable {schema : Schema}

/-- **Induction along the way to a conforming mapping**: it comes from the defaults by laying
values that are there over them, and by bringing fields to their kinds. -/
theorem conform_induction {motive : Props → Prop} (defaults : motive schema.defaults)
    (lay : ∀ laid key value, value.isNull = false → motive laid →
      motive (Props.insert laid key value))
    (bring : ∀ laid, ∀ field ∈ schema.fields, motive laid →
      motive (schema.conformField laid field))
    (props : Props) : motive (schema.conform props) := by
  have hlaid : motive (schema.overlay props) := by
    have hgiven : ∀ entry ∈ props.filter fun entry => !entry.2.isNull, entry.2.isNull = false := by
      intro entry hentry
      simpa using (List.mem_filter.1 hentry).2
    unfold overlay
    exact List.foldlRecOn _ _ defaults fun laid hlaid entry hentry =>
      lay laid entry.1 entry.2 (hgiven entry hentry) hlaid
  exact List.foldlRecOn _ _ hlaid fun laid hlaid field hfield => bring laid field hfield hlaid

/-- The entries of a conforming mapping have different keys. -/
theorem apart_conform (h : schema.defaults.Apart) (props : Props) :
    (schema.conform props).Apart :=
  conform_induction h (fun _ _ _ _ hlaid => hlaid.insert _ _)
    (fun _ _ _ hlaid => hlaid.insert _ _) props

/-- The defaults give a conforming mapping its first keys. -/
theorem keys_conform (props : Props) :
    schema.defaults.map Prod.fst <+: (schema.conform props).map Prod.fst :=
  conform_induction (motive := fun laid => schema.defaults.map Prod.fst <+: laid.map Prod.fst)
    List.prefix_rfl (fun laid _ _ _ h => h.trans (laid.keys_insert _ _))
    (fun laid _ _ h => h.trans (laid.keys_insert _ _)) props

section Defaults

variable (hbring : ∀ field ∈ schema.fields, ∀ current,
  (field.conform current (schema.defaults.get field.name)).isNull = false)
include hbring

/-- What a conforming mapping does not hold is absent in the defaults. -/
theorem absent_conform (props : Props) :
    ∀ entry ∈ schema.conform props, entry.2.isNull = true → entry ∈ schema.defaults := by
  have hinsert (laid : Props) (key : Key) (value : Value) (hvalue : value.isNull = false)
      (hlaid : ∀ entry ∈ laid, entry.2.isNull = true → entry ∈ schema.defaults) :
      ∀ entry ∈ Props.insert laid key value, entry.2.isNull = true → entry ∈ schema.defaults := by
    intro entry hentry hnull
    rcases Props.mem_insert hentry with heq | hold
    · rw [heq, hvalue] at hnull
      exact absurd hnull Bool.false_ne_true
    · exact hlaid entry hold hnull
  exact conform_induction (fun _ hentry _ => hentry) hinsert
    (fun laid field hfield => hinsert laid _ _ (hbring field hfield _)) props

/-- **Laying a conforming mapping over the defaults gives it back.** -/
theorem overlay_conform (hapart : schema.defaults.Apart)
    (hself : ∀ entry ∈ schema.defaults, entry.1.same entry.1 = true) (props : Props) :
    schema.overlay (schema.conform props) = schema.conform props := by
  have hconform := apart_conform hapart props
  rw [overlay, Props.foldl_insert_filter hconform]
  · exact Props.foldl_insert_of_keys [] hconform (keys_conform props) hself
  · intro entry hentry hnull
    have hdefault := absent_conform hbring props entry hentry (by simpa using hnull)
    exact hapart.find?_of_mem hdefault (hself entry hdefault)

end Defaults

theorem get?_foldl_conformField_of_ne {fields : List Field} {name : String}
    (h : ∀ field ∈ fields, field.name ≠ name) (props : Props) :
    (fields.foldl schema.conformField props).get? name = props.get? name := by
  induction fields generalizing props with
  | nil => rfl
  | cons field rest ih =>
    rw [List.foldl_cons, ih fun other hother => h other (by simp [hother])]
    exact Props.get?_put_of_ne props (h field (by simp)) _

/-- **What a conforming mapping holds at a field** is decided by what was given for it and by its
default. -/
theorem get?_conform (hnd : (schema.fields.map Field.name).Nodup) {field : Field}
    (h : field ∈ schema.fields) (props : Props) :
    (schema.conform props).get? field.name =
      some (field.conform ((schema.overlay props).get field.name)
        (schema.defaults.get field.name)) := by
  unfold conform
  generalize schema.overlay props = given
  generalize schema.fields = fields at hnd h
  induction fields generalizing given with
  | nil => exact absurd h (by simp)
  | cons first rest ih =>
    obtain ⟨hfirst, hrest⟩ := List.nodup_cons.1 hnd
    rw [List.foldl_cons]
    rcases List.mem_cons.1 h with rfl | h
    · -- the fields behind it put under other names
      have hne : ∀ other ∈ rest, other.name ≠ field.name := fun other hother heq =>
        hfirst (List.mem_map.2 ⟨other, hother, heq⟩)
      rw [get?_foldl_conformField_of_ne hne]
      exact Props.get?_put_self given _ _
    · have hne : first.name ≠ field.name := fun heq =>
        hfirst (heq ▸ List.mem_map.2 ⟨field, h, rfl⟩)
      have hget : (schema.conformField given first).get field.name = given.get field.name := by
        rw [Props.get, Props.get, conformField, Props.get?_put_of_ne given hne]
      rw [ih _ hrest h, hget]

/-- A schema has no fault when the defaults of its array fields spell mappings. -/
theorem fault?_eq_none (h : ∀ field ∈ schema.fields, field.kind = .array →
    defaultFault? (schema.defaults.get field.name) = none) (props : Props) :
    schema.fault? props = none := by
  unfold fault?
  generalize schema.overlay props = given
  generalize schema.fields = fields at h
  induction fields generalizing given with
  | nil => rfl
  | cons field rest ih =>
    have hfield : field.fault? (given.get field.name) (schema.defaults.get field.name) = none := by
      unfold Field.fault?
      split
      · rename_i hkind
        split
        · rfl
        · exact h field (by simp) hkind
      · rfl
    rw [faultFrom?, hfield]
    exact ih _ fun other hother => h other (by simp [hother])

end Schema

/-! ## Kinds of fields -/

namespace Field

variable {field : Field}

/-- A field that offers choices. -/
structure Offers (field : Field) : Prop where
  kind : field.kind = .select ∨ field.kind = .radio
  choices : field.choices.isEmpty = false

/-- A field that takes any text. -/
structure Free (field : Field) : Prop where
  number : field.kind ≠ .number
  array : field.kind ≠ .array
  choices : ¬ field.Offers

/-- A field is of one of four kinds. -/
theorem kind_cases (field : Field) :
    field.kind = .number ∨ field.kind = .array ∨ field.Offers ∨ field.Free := by
  by_cases hn : field.kind = .number
  · exact Or.inl hn
  · by_cases ha : field.kind = .array
    · exact Or.inr (Or.inl ha)
    · by_cases hc : field.Offers
      · exact Or.inr (Or.inr (Or.inl hc))
      · exact Or.inr (Or.inr (Or.inr ⟨hn, ha, hc⟩))

theorem conform_of_number (h : field.kind = .number) (v fallback : Value) :
    field.conform v fallback = (v.amount?.map Amount.toValue).getD fallback := by
  simp only [conform, h, Value.numberOr]

theorem conform_of_members (h : field.kind = .array) {v : Value} {items : List Value}
    (hv : v.members? = some items) (fallback : Value) :
    field.conform v fallback = .list (conformEntries field.parts items) := by
  simp only [conform, h, hv]

theorem conform_of_no_members (h : field.kind = .array) {v : Value} (hv : v.members? = none)
    (fallback : Value) : field.conform v fallback = .list (defaultEntries fallback) := by
  simp only [conform, h, hv]

/-- A field with choices takes one of them as it is, and its default for anything else. -/
theorem Offers.conform_cases (h : field.Offers) (v fallback : Value) :
    (∃ s ∈ field.allowed, v = .text s ∧ field.conform v fallback = v) ∨
      field.conform v fallback = fallback := by
  have hno : ¬ field.choices.isEmpty = true := by simp [h.choices]
  unfold conform
  rcases h.kind with hk | hk
  all_goals
    rw [hk]
    dsimp only
    rw [if_neg hno]
    split
    · next s =>
      by_cases hs : s ∈ field.allowed
      · exact Or.inl ⟨s, hs, rfl, if_pos hs⟩
      · exact Or.inr (if_neg hs)
    · exact Or.inr rfl

/-- A field with choices takes its own values for what they are. -/
theorem Offers.conform_conform (h : field.Offers) (v fallback : Value) :
    field.conform (field.conform v fallback) fallback = field.conform v fallback := by
  rcases h.conform_cases v fallback with ⟨_, _, _, hv⟩ | hv
  · rw [hv, hv]
  · rw [hv]
    exact (h.conform_cases fallback fallback).elim (fun ⟨_, _, _, hself⟩ => hself) id

theorem Free.conform_eq (h : field.Free) (v fallback : Value) :
    field.conform v fallback = v.fieldText := by
  unfold conform
  split
  · next hk => exact absurd hk h.number
  · next hk => exact absurd hk h.array
  case h_3 | h_4 =>
    next hk =>
    refine if_pos ?_
    by_contra hc
    exact h.choices ⟨by simp [hk], by simpa using hc⟩
  · rfl

end Field

/-! ## Number fields -/

/-- The whole part of a binary64 number has a finite nearest number: the number itself. -/
theorem fitsBinary64_truncate (x : Finite64) : fitsBinary64 x.truncate = true := by
  have hm : x.mantissa < twoPow 53 := x.admissible.1
  have hq : x.exponent.toNat ≤ 971 := by have := x.admissible.2.2.1; omega
  have hle : x.numerator / x.denominator ≤ (twoPow 53 - 1) * twoPow 971 := calc
    x.numerator / x.denominator ≤ x.mantissa * twoPow x.exponent.toNat := Nat.div_le_self _ _
    _ ≤ (twoPow 53 - 1) * twoPow 971 :=
      Nat.mul_le_mul (Nat.le_sub_one_of_lt hm) (twoPow_mono hq)
  have habs : x.truncate.natAbs = x.numerator / x.denominator := by
    unfold Finite64.truncate
    cases x.negative
    · exact Int.natAbs_natCast _
    · exact (Int.natAbs_neg _).trans (Int.natAbs_natCast _)
  -- the greatest finite number lies half a unit below the bound
  have hlt : (twoPow 53 - 1) * twoPow 971 < overflowBound := by decide +kernel
  rw [fitsBinary64, habs]
  exact decide_eq_true (Nat.lt_of_le_of_lt hle hlt)

/-- A number that was read stands for itself. -/
theorem amount?_toValue {v : Value} {a : Amount} (h : v.amount? = some a) :
    a.toValue.amount? = some a := by
  have hread : ∀ x : Binary64, Amount.ofBinary64? x = some a → a.toValue.amount? = some a := by
    intro x hx
    cases x with
    | nan => exact absurd hx (by simp [Amount.ofBinary64?])
    | infinite negative => exact absurd hx (by simp [Amount.ofBinary64?])
    | finite x =>
      simp only [Amount.ofBinary64?, Option.some.injEq] at hx
      subst hx
      split
      · simp [Amount.toValue, Value.amount?, fitsBinary64_truncate]
      · rfl
  unfold Value.amount? at h
  split at h
  · split at h
    · rename_i hfits
      rw [← Option.some.inj h]
      simp [Amount.toValue, Value.amount?, hfits]
    · exact absurd h (by simp)
  · rw [← Option.some.inj h]
    rfl
  · obtain ⟨x, _, hx⟩ := Option.bind_eq_some_iff.1 h
    exact hread x hx
  · exact absurd h (by simp)

/-- A number field takes its own values for what they are. -/
theorem conform_number_self {field : Field} (h : field.kind = .number) (fallback : Value)
    (hf : (fallback.amount?.map Amount.toValue).getD fallback = fallback) (v : Value) :
    field.conform (field.conform v fallback) fallback = field.conform v fallback := by
  rw [Field.conform_of_number h, Field.conform_of_number h]
  cases hv : v.amount? with
  | none => simpa using hf
  | some a => simp [amount?_toValue hv]

/-! ## Values that fit their field -/

/-- A text is its own text. -/
theorem Value.fieldText_fieldText (v : Value) : v.fieldText.fieldText = v.fieldText := by
  unfold Value.fieldText
  exact congrArg Value.text String.ofList_toList

/-- Each part of an entry holds the text of what was given for it. -/
theorem get?_foldl_put {parts : List Field} {part : Field} (entry kept : Props)
    (h : part ∈ parts ∨ kept.get? part.name = some (entry.get part.name).fieldText) :
    (parts.foldl (fun (kept : Props) part => kept.put part.name (entry.get part.name).fieldText)
      kept).get? part.name = some (entry.get part.name).fieldText := by
  induction parts generalizing kept with
  | nil => exact h.resolve_left List.not_mem_nil
  | cons first rest ih =>
    refine ih _ ?_
    by_cases hname : first.name = part.name
    · right
      dsimp only
      rw [hname, Props.get?_put_self]
    · dsimp only
      rw [Props.get?_put_of_ne kept hname]
      refine h.imp_left fun hmem => (List.mem_cons.1 hmem).resolve_left ?_
      rintro rfl
      exact hname rfl

/-- An entry with the declared parts keeps them. -/
theorem conformEntry_conformEntry (parts : List Field) (entry : Props) :
    (conformEntry parts entry).entries?.map (conformEntry parts) =
      some (conformEntry parts entry) := by
  refine congrArg (some ∘ Value.map) (List.foldl_ext _ _ _ fun kept part hpart => ?_)
  rw [Props.get, get?_foldl_put entry [] (Or.inl hpart), Option.getD_some,
    Value.fieldText_fieldText]

theorem conformEntries_conformEntries (parts : List Field) (items : List Value) :
    conformEntries parts (conformEntries parts items) = conformEntries parts items := by
  rw [conformEntries, conformEntries, List.filterMap_filterMap]
  refine List.filterMap_congr fun item _ => ?_
  cases item.entries? with
  | none => rfl
  | some entry => exact conformEntry_conformEntry parts entry

/-- A default that its field takes for what it is. -/
structure Field.Accepts (field : Field) (fallback : Value) : Prop where
  present : fallback.isNull = false
  /-- The default of a number field is not read as another value. -/
  number : field.kind = .number → fallback.isText = false
  /-- The default of an array field has the declared parts. -/
  array : field.kind = .array →
    conformEntries field.parts (defaultEntries fallback) = defaultEntries fallback

/-- A value that is no text is not read as another one. -/
theorem amount?_getD_self {v : Value} (h : v.isText = false) :
    (v.amount?.map Amount.toValue).getD v = v := by
  unfold Value.amount?
  split
  · split <;> rfl
  · rfl
  · contradiction
  · rfl

namespace Field.Accepts

variable {field : Field} {fallback : Value} (h : field.Accepts fallback)
include h

/-- **A field takes its own values for what they are.** -/
theorem conform_conform (v : Value) :
    field.conform (field.conform v fallback) fallback = field.conform v fallback := by
  rcases field.kind_cases with hk | hk | hoffers | hfree
  · exact conform_number_self hk fallback (amount?_getD_self (h.number hk)) v
  · have hlist (items : List Value) :
        field.conform (.list items) fallback = .list (conformEntries field.parts items) :=
      conform_of_members hk rfl fallback
    cases hm : v.members? with
    | some items => rw [conform_of_members hk hm, hlist, conformEntries_conformEntries]
    | none => rw [conform_of_no_members hk hm, hlist, h.array hk]
  · exact hoffers.conform_conform v fallback
  · rw [hfree.conform_eq, hfree.conform_eq, Value.fieldText_fieldText]

/-- A field never comes out absent. -/
theorem isNull_conform (v : Value) : (field.conform v fallback).isNull = false := by
  rcases field.kind_cases with hk | hk | hoffers | hfree
  · rw [conform_of_number hk]
    cases v.amount? with
    | none => exact h.present
    | some a => cases a <;> rfl
  · cases hm : v.members? with
    | some items => rw [conform_of_members hk hm]; rfl
    | none => rw [conform_of_no_members hk hm]; rfl
  · rcases hoffers.conform_cases v fallback with ⟨s, _, rfl, hv⟩ | hv
    · rw [hv]
      rfl
    · rw [hv, h.present]
  · rw [hfree.conform_eq]
    rfl

end Field.Accepts

/-! ## Conforming twice -/

/-- A schema whose defaults conform to it. -/
structure Schema.Steady (schema : Schema) : Prop where
  apart : schema.defaults.Apart
  /-- The keys of defaults can be looked up. -/
  keys : ∀ entry ∈ schema.defaults, entry.1.same entry.1 = true
  present : ∀ entry ∈ schema.defaults, entry.2.isNull = false
  nodup : (schema.fields.map Field.name).Nodup
  accepts : ∀ field ∈ schema.fields, field.Accepts (schema.defaults.get field.name)

namespace Schema.Steady

variable {schema : Schema} (h : schema.Steady) (props : Props)

include h

/-- **A conforming mapping conforms already.** -/
theorem conform_conform : schema.conform (schema.conform props) = schema.conform props := by
  have hlaid : schema.overlay (schema.conform props) = schema.conform props :=
    overlay_conform (fun field hfield => (h.accepts field hfield).isNull_conform) h.apart h.keys
      props
  have hfields (fields : List Field) (hsub : fields ⊆ schema.fields) :
      fields.foldl schema.conformField (schema.conform props) = schema.conform props := by
    induction fields with
    | nil => rfl
    | cons field rest ih =>
      obtain ⟨hfield, hrest⟩ := List.cons_subset.1 hsub
      have hget := get?_conform h.nodup hfield props
      -- the field holds a value of its own already, and is given the same one
      have hown : schema.conformField (schema.conform props) field = schema.conform props := by
        rw [conformField, Props.get, hget, Option.getD_some,
          (h.accepts field hfield).conform_conform]
        exact Props.insert_of_find? hget
      rw [List.foldl_cons, hown, ih hrest]
  rw [conform, hlaid]
  exact hfields _ (List.Subset.refl _)

end Schema.Steady

/-! ## Catalogues whose props are resolved once -/

namespace Catalogue

variable {catalogue : Catalogue}

/-- A catalogue is steady if all its schemas are. -/
def Steady (catalogue : Catalogue) : Prop := ∀ schema ∈ catalogue.schemas, schema.Steady

/-- **Resolving props once more changes nothing.** -/
theorem Steady.resolve_resolve (h : catalogue.Steady) (type : String) (props : Props) :
    catalogue.resolve type (catalogue.resolve type props) = catalogue.resolve type props := by
  unfold resolve
  cases hs : catalogue.schema? type with
  | none => rfl
  | some schema => exact (h schema (List.mem_of_find?_eq_some hs)).conform_conform props

/-- A component owns the zones that its resolved props ask for. -/
theorem zoneNames_eq (type : String) (props : Props) :
    catalogue.zoneNames type props =
      (catalogue.schema? type).elim [] fun schema =>
        schema.zoneNames (catalogue.resolve type props) := by
  unfold zoneNames resolve
  cases catalogue.schema? type <;> rfl

/-- The zones of a component come out of its props and of its resolved props alike. -/
theorem Steady.zoneNames_resolve (h : catalogue.Steady) (type : String) (props : Props) :
    catalogue.zoneNames type (catalogue.resolve type props) = catalogue.zoneNames type props := by
  rw [zoneNames_eq, zoneNames_eq, h.resolve_resolve]

/-- A catalogue is settled if resolving the props of a component once more never changes its
zones, and no default is of a wrong shape. -/
structure Settled (catalogue : Catalogue) : Prop where
  /-- The zones of a component come out of its props and of its resolved props alike. -/
  zones : ∀ type props, catalogue.zoneNames type (catalogue.resolve type props) =
    catalogue.zoneNames type props
  /-- Every component can be opened. -/
  faultless : ∀ type props, catalogue.openFault? type props = none

/-- It can always be said which zones a component owns. -/
theorem Settled.zoneFault?_eq_none (h : catalogue.Settled) (type : String) (props : Props) :
    catalogue.zoneFault? type props = none := by
  have hresolve : catalogue.resolveFault? type props = none :=
    (Option.or_eq_none_iff.1 (h.faultless type props)).1
  unfold resolveFault? at hresolve
  unfold zoneFault?
  cases hs : catalogue.schema? type with
  | none => rfl
  | some schema =>
    rw [hs, Option.bind_some] at hresolve
    simp [hresolve]

end Catalogue

namespace Bundled

/-- A bundled type has one of the bundled schemas. -/
theorem schema_mem {type : String} {schema : Schema} (h : catalogue.schema? type = some schema) :
    schema ∈ schemas ∧ schema.type = type :=
  ⟨List.mem_of_find?_eq_some h, by simpa using List.find?_some h⟩

theorem fault?_eq_none {schema : Schema} (h : schema ∈ schemas) (props : Props) :
    schema.fault? props = none := by
  have hall : ∀ schema ∈ schemas, ∀ field ∈ schema.fields, field.kind = .array →
      defaultFault? (schema.defaults.get field.name) = none := by decide
  exact Schema.fault?_eq_none (hall schema h) props

/-- The section is the only bundled component with zones. -/
theorem zones_eq_none {schema : Schema} (h : schema ∈ schemas) (hne : schema.type ≠ "Section") :
    schema.zones = none := by
  have hall : ∀ schema ∈ schemas, schema.type ≠ "Section" → schema.zones.isNone = true := by decide
  exact Option.isNone_iff_eq_none.1 (hall schema h hne)

/-- The defaults of every bundled schema conform to it. -/
theorem steady : catalogue.Steady := by
  have hdefaults : ∀ schema ∈ schemas, schema.defaults.Apart ∧
      (∀ entry ∈ schema.defaults, entry.1.same entry.1 = true ∧ entry.2.isNull = false) ∧
      (schema.fields.map Field.name).Nodup := by decide
  have hfields : ∀ schema ∈ schemas, ∀ field ∈ schema.fields,
      (schema.defaults.get field.name).isNull = false ∧
      (field.kind = .number → (schema.defaults.get field.name).isText = false) ∧
      (field.kind = .array → schema.type = "Accordion") := by decide
  intro schema h
  obtain ⟨hapart, hentries, hnodup⟩ := hdefaults schema h
  refine ⟨hapart, fun entry he => (hentries entry he).1, fun entry he => (hentries entry he).2,
    hnodup, fun field hfield => ?_⟩
  obtain ⟨hpresent, hnumber, harray⟩ := hfields schema h field hfield
  refine ⟨hpresent, hnumber, fun hk => ?_⟩
  have haccordion : schema = accordion :=
    List.inj_on_of_nodup_map catalogue.distinct h (by simp [catalogue, schemas]) (harray hk)
  subst haccordion
  -- the accordion has one field, and its default has both parts
  rw [List.mem_singleton.1 hfield]
  rfl

/-- **The bundled catalogue is settled.** -/
theorem settled : Catalogue.Settled catalogue where
  zones := steady.zoneNames_resolve
  faultless type props := by
    unfold Catalogue.openFault? Catalogue.resolveFault? Catalogue.zoneFault?
    cases hs : catalogue.schema? type with
    | none => rfl
    | some schema => simp [fault?_eq_none (schema_mem hs).1]

/-- Only sections own zones. -/
theorem zoneNames_eq_nil {type : String} (h : type ≠ "Section") (props : Props) :
    catalogue.zoneNames type props = [] := by
  unfold Catalogue.zoneNames
  cases hs : catalogue.schema? type with
  | none => rfl
  | some schema =>
    obtain ⟨hmem, htype⟩ := schema_mem hs
    simp [Schema.zoneNames, zones_eq_none hmem (htype ▸ h)]

theorem type_of_zoneNames_ne_nil {type : String} {props : Props}
    (h : catalogue.zoneNames type props ≠ []) : type = "Section" :=
  Decidable.byContradiction fun hne => h (zoneNames_eq_nil hne props)

end Bundled

end Pagewright
