import Mathlib.Data.List.Induction
import Mathlib.Data.List.Nodup
import Pagewright.Catalogue.Given
import Pagewright.Proofs.Conforming

/-!
# Resolving props is a projection

What a field may hold is said by its kind (`Field.Holds`): a number field a finite number, a field
with choices one of them, an array field mappings with exactly its parts as texts, any other field
a text. If the defaults of a schema hold such values, so does every mapping that is brought to
conform to it, whatever was given (`Field.holds_conform`): a value that is none of its kind gives
way to the default, and each part of an entry becomes a text.

Conforming twice finds a value of its kind at every field. All of them are taken as they are, but
for entries that a default spells: their parts may stand in another order, and are put into the
order of the fields (`Field.conform_alike`). So the result of resolving resolves to itself up to the
order of such parts, which no lookup sees.
-/

namespace Pagewright

open Pagewright.Number

/-! ## Values of a kind -/

/-- A list of values that a list or a row is; any other value is itself. -/
def Value.asList : Value → Value
  | .row items => .list items
  | v => v

/-- A mapping with exactly the given parts, as texts. -/
structure HoldsParts (parts : List Field) (entry : Props) : Prop where
  apart : entry.Apart
  part : ∀ part ∈ parts, ∃ s, entry.get? part.name = some (.text s)
  only : ∀ member ∈ entry, ∃ part ∈ parts, member.1 = .text part.name

/-- A value of the kind of a field. -/
structure Field.Holds (field : Field) (v : Value) : Prop where
  number : field.kind = .number → (∃ n, v = .int n) ∨ ∃ x, v = .float (.finite x)
  array : field.kind = .array → ∃ entries : List Props, v = .list (entries.map .map) ∧
    ∀ entry ∈ entries, HoldsParts field.parts entry
  choice : field.Offers → ∃ s ∈ field.allowed, v = .text s
  text : field.Free → ∃ s, v = .text s

/-- A schema whose fields have different names and whose defaults hold a value of the kind of every
field, where a row counts as the list of its parts. Defaults of other keys may be any values, and
may be absent. -/
structure Schema.Conforming (schema : Schema) : Prop where
  apart : schema.defaults.Apart
  /-- The keys of defaults can be looked up. -/
  keys : ∀ entry ∈ schema.defaults, entry.1.same entry.1 = true
  nodup : (schema.fields.map Field.name).Nodup
  holds : ∀ field ∈ schema.fields, field.Holds (schema.defaults.get field.name).asList

/-- A catalogue whose schemas have conforming defaults. -/
def Catalogue.Conforming (catalogue : Catalogue) : Prop :=
  ∀ schema ∈ catalogue.schemas, schema.Conforming

/-- What is found at a key stands under an equal one. -/
theorem Props.exists_of_find? {props : Props} {key : Key} {value : Value}
    (h : props.find? key = some value) :
    ∃ entry ∈ props, entry.1.same key = true ∧ entry.2 = value := by
  obtain ⟨entry, hfind, hvalue⟩ := Option.map_eq_some_iff.1 h
  exact ⟨entry, List.mem_of_find?_eq_some hfind, by simpa using List.find?_some hfind, hvalue⟩

/-! ## Entries of array fields -/

/-- The entry of an array field with exactly the declared parts. -/
def keptParts (parts : List Field) (entry : Props) : Props :=
  parts.foldl (fun (kept : Props) part => kept.put part.name (entry.get part.name).fieldText) []

theorem get?_keptParts {parts : List Field} {part : Field} (h : part ∈ parts) (entry : Props) :
    (keptParts parts entry).get? part.name = some (entry.get part.name).fieldText :=
  get?_foldl_put entry [] (Or.inl h)

theorem holdsParts_keptParts (parts : List Field) (entry : Props) :
    HoldsParts parts (keptParts parts entry) where
  apart := List.foldlRecOn _ _ List.Pairwise.nil fun kept hkept _ _ => Props.Apart.insert hkept _ _
  part part hpart := ⟨_, get?_keptParts hpart entry⟩
  only := by
    refine List.foldlRecOn (motive := fun kept : Props => ∀ member ∈ kept, ∃ part ∈ parts,
      member.1 = .text part.name) _ _ (by simp) fun kept hkept part hpart member hmember => ?_
    rcases Props.key_of_mem_insert hmember with heq | ⟨old, hold, heq⟩
    · exact ⟨part, hpart, heq⟩
    · rw [← heq]
      exact hkept old hold

namespace HoldsParts

variable {parts : List Field} {entry : Props} (h : HoldsParts parts entry)
include h

theorem same_self {member : Key × Value} (hmember : member ∈ entry) :
    member.1.same member.1 = true := by
  obtain ⟨part, _, hkey⟩ := h.only member hmember
  rw [hkey, Key.same_text, decide_eq_true rfl]

/-- What stands in a mapping of parts is what is found at a part. -/
theorem mem_iff {member : Key × Value} :
    member ∈ entry ↔ ∃ part ∈ parts, member.1 = .text part.name ∧
      entry.get? part.name = some member.2 := by
  constructor
  · intro hmember
    obtain ⟨part, hpart, hkey⟩ := h.only member hmember
    have hfind := h.apart.find?_of_mem hmember (h.same_self hmember)
    rw [hkey] at hfind
    exact ⟨part, hpart, hkey, hfind⟩
  · rintro ⟨part, _, hkey, hget⟩
    obtain ⟨found, hfound, hsame, hvalue⟩ := Props.exists_of_find? hget
    obtain ⟨other, _, hother⟩ := h.only found hfound
    rw [hother, Key.same_text, decide_eq_true_eq] at hsame
    have hmember : found = member := Prod.ext (by rw [hother, hsame, hkey]) hvalue
    rwa [← hmember]

theorem nodup : entry.Nodup := by
  refine h.apart.imp_of_mem fun ha _ hne heq => ?_
  rw [← heq, h.same_self ha] at hne
  exact absurd hne (by decide)

/-- **Parts that are texts are kept**, in the order of the fields. -/
theorem perm_keptParts : (keptParts parts entry).Perm entry := by
  have hkept := holdsParts_keptParts parts entry
  refine (List.perm_ext_iff_of_nodup hkept.nodup h.nodup).2 fun member => ?_
  rw [hkept.mem_iff, h.mem_iff]
  refine exists_congr fun part => and_congr_right fun hpart => and_congr_right fun _ => ?_
  obtain ⟨s, hs⟩ := h.part part hpart
  -- the part is a text, so its text is the part itself
  have htext : (entry.get part.name).fieldText = .text s := by
    rw [Props.get, hs]
    exact congrArg Value.text String.ofList_toList
  rw [get?_keptParts hpart, htext, hs]

end HoldsParts

/-- What an array field keeps of a list. -/
theorem conformEntries_eq (parts : List Field) (items : List Value) :
    conformEntries parts items =
      ((items.filterMap Value.entries?).map (keptParts parts)).map .map := by
  rw [conformEntries, List.map_map, List.map_filterMap]
  rfl

theorem filterMap_entries? (entries : List Props) :
    (entries.map Value.map).filterMap Value.entries? = entries := by
  rw [List.filterMap_map]
  exact List.filterMap_some

/-! ## Defaults -/

theorem Value.eq_of_asList_scalar {v : Value} {s : Scalar} (h : v.asList = .scalar s) :
    v = .scalar s := by
  cases v with
  | row => cases h
  | _ => exact h

theorem Value.eq_of_asList_list {v : Value} {items : List Value} (h : v.asList = .list items) :
    v = .list items ∨ v = .row items := by
  cases v with
  | row => exact Or.inr (congrArg Value.row (Value.list.inj h))
  | _ => exact Or.inl h

section Default

variable {fallback : Value} {entries : List Props} (h : fallback.asList = .list (entries.map .map))
include h

theorem elements?_default : fallback.elements? = some (entries.map .map) := by
  rcases Value.eq_of_asList_list h with rfl | rfl <;> rfl

/-- A default of mappings spells them. -/
theorem defaultEntries_default : defaultEntries fallback = entries.map .map := by
  rw [defaultEntries, elements?_default h, Option.getD_some, List.filterMap_map,
    ← List.filterMap_eq_map]
  rfl

theorem defaultFault?_default : defaultFault? fallback = none := by
  unfold defaultFault?
  split
  · rfl
  · rw [elements?_default h]
    dsimp only
    rw [List.findSome?_eq_none_iff]
    intro item hitem
    obtain ⟨entry, _, rfl⟩ := List.mem_map.1 hitem
    rfl

end Default

/-! ## What a field comes out with -/

/-- Equal values, or lists of the same mappings, each with its entries in any order. -/
inductive Value.Alike : Value → Value → Prop where
  | refl (v : Value) : Value.Alike v v
  | entries {entries others : List Props} : List.Forall₂ List.Perm entries others →
      Value.Alike (.list (entries.map .map)) (.list (others.map .map))

namespace Field

variable {field : Field} {fallback : Value}

/-- **A field comes out with a value of its kind.** -/
theorem holds_conform (h : field.Holds fallback.asList) (v : Value) :
    field.Holds (field.conform v fallback) where
  number hk := by
    rw [conform_of_number hk]
    cases v.amount? with
    | none =>
      rcases h.number hk with ⟨n, hn⟩ | ⟨x, hx⟩
      · exact Or.inl ⟨n, Value.eq_of_asList_scalar hn⟩
      · exact Or.inr ⟨x, Value.eq_of_asList_scalar hx⟩
    | some a =>
      cases a with
      | whole n => exact Or.inl ⟨n, rfl⟩
      | real x => exact Or.inr ⟨x, rfl⟩
  array hk := by
    cases hm : v.members? with
    | some items =>
      rw [conform_of_members hk hm, conformEntries_eq]
      refine ⟨_, rfl, fun entry hentry => ?_⟩
      obtain ⟨given, _, rfl⟩ := List.mem_map.1 hentry
      exact holdsParts_keptParts field.parts given
    | none =>
      obtain ⟨entries, hdefault, hparts⟩ := h.array hk
      rw [conform_of_no_members hk hm, defaultEntries_default hdefault]
      exact ⟨entries, rfl, hparts⟩
  choice hk := by
    rcases hk.conform_cases v fallback with ⟨s, hs, hv, heq⟩ | heq
    · exact ⟨s, hs, heq.trans hv⟩
    · obtain ⟨s, hs, hdefault⟩ := h.choice hk
      exact ⟨s, hs, heq.trans (Value.eq_of_asList_scalar hdefault)⟩
  text hk := ⟨_, hk.conform_eq v fallback⟩

/-- A value of a kind is there. -/
theorem Holds.isNull_eq_false {v : Value} (h : field.Holds v) : v.isNull = false := by
  rcases field.kind_cases with hk | hk | hk | hk
  · rcases h.number hk with ⟨n, rfl⟩ | ⟨x, rfl⟩ <;> rfl
  · obtain ⟨entries, rfl, _⟩ := h.array hk
    rfl
  · obtain ⟨s, _, rfl⟩ := h.choice hk
    rfl
  · obtain ⟨s, rfl⟩ := h.text hk
    rfl

/-- **A field takes its own values for what they are**, but for the order of parts. -/
theorem conform_alike (h : field.Holds fallback.asList) (v : Value) :
    (field.conform (field.conform v fallback) fallback).Alike (field.conform v fallback) := by
  have hsame (heq : field.conform (field.conform v fallback) fallback = field.conform v fallback) :
      (field.conform (field.conform v fallback) fallback).Alike (field.conform v fallback) := by
    rw [heq]
    exact .refl _
  have hheld := holds_conform h v
  rcases field.kind_cases with hk | hk | hk | hk
  · have hnumber : fallback.isText = false := by
      rcases h.number hk with ⟨n, hn⟩ | ⟨x, hx⟩
      · rw [Value.eq_of_asList_scalar hn]
        rfl
      · rw [Value.eq_of_asList_scalar hx]
        rfl
    exact hsame (conform_number_self hk fallback (amount?_getD_self hnumber) v)
  · obtain ⟨entries, hlist, hparts⟩ := hheld.array hk
    rw [hlist, conform_of_members hk rfl, conformEntries_eq, filterMap_entries?]
    refine .entries (List.forall₂_map_left_iff.2 ?_)
    exact List.forall₂_same.2 fun entry hentry => (hparts entry hentry).perm_keptParts
  · exact hsame (hk.conform_conform v fallback)
  · refine hsame ?_
    rw [hk.conform_eq, hk.conform_eq, Value.fieldText_fieldText]

end Field

/-! ## What a mapping holds at a key -/

namespace Props

/-- A mapping holds a value under a key, or under one that is equal to it. -/
def HoldsAt (props : Props) (key : Key) (value : Value) : Prop :=
  ∃ entry ∈ props, (entry.1 = key ∨ entry.1.same key = true) ∧ entry.2 = value

theorem holdsAt_insert_self (props : Props) (key : Key) (value : Value) :
    HoldsAt (Props.insert props key value) key value := by
  induction props with
  | nil => exact ⟨_, List.mem_cons_self .., Or.inl rfl, rfl⟩
  | cons first rest ih =>
    rw [Props.insert]
    split
    · next hsame => exact ⟨_, List.mem_cons_self .., Or.inr hsame, rfl⟩
    · obtain ⟨entry, hentry, hkey, hvalue⟩ := ih
      exact ⟨entry, List.mem_cons_of_mem _ hentry, hkey, hvalue⟩

theorem HoldsAt.insert_of_ne {props : Props} {key other : Key} {value : Value}
    (h : props.HoldsAt key value) (hne : key.same other = false) (v : Value) :
    HoldsAt (Props.insert props other v) key value := by
  obtain ⟨entry, hentry, hkey, hvalue⟩ := h
  have hother : entry.1.same other = false := by
    rcases hkey with heq | hsame
    · rw [heq, hne]
    · rw [Key.same_congr_left hsame, hne]
  exact ⟨entry, mem_insert_of_ne hentry hother v, hkey, hvalue⟩

/-- What is laid over a mapping is held by it. -/
theorem holdsAt_foldl_insert {laid : Props} (hapart : laid.Apart) {entry : Key × Value}
    (h : entry ∈ laid) (base : Props) :
    HoldsAt (laid.foldl (fun (props : Props) entry => Props.insert props entry.1 entry.2) base)
      entry.1 entry.2 := by
  induction laid using List.reverseRecOn with
  | nil => exact absurd h List.not_mem_nil
  | append_singleton rest last ih =>
    obtain ⟨hrest, _, hlast⟩ := List.pairwise_append.1 hapart
    rw [List.foldl_append, List.foldl_cons, List.foldl_nil]
    rcases List.mem_append.1 h with h | h
    · exact (ih hrest h).insert_of_ne (hlast entry h last (List.mem_singleton_self _)) _
    · rw [List.mem_singleton.1 h]
      exact holdsAt_insert_self _ _ _

/-- Mappings with the same keys in the same order, and equal values up to the order of parts. -/
def Alike (props others : Props) : Prop :=
  List.Forall₂ (fun entry other => entry.1 = other.1 ∧ entry.2.Alike other.2) props others

theorem alike_refl (props : Props) : props.Alike props :=
  List.forall₂_same.2 fun entry _ => ⟨rfl, .refl entry.2⟩

/-- A value may be replaced by one that is equal up to the order of parts. -/
theorem Alike.insert {props others : Props} (h : props.Alike others) {key : Key}
    {value other : Value} (hfind : others.find? key = some other) (hvalue : value.Alike other) :
    (Props.insert props key value).Alike others := by
  induction h with
  | nil => cases hfind
  | @cons first second rest more hhead hrest ih =>
    obtain ⟨hkey, hfirst⟩ := hhead
    rw [Props.insert, hkey]
    by_cases hsame : second.1.same key = true
    · have hsecond : second.2 = other := by simpa [find?, hsame] using hfind
      rw [if_pos hsame]
      refine .cons ⟨rfl, ?_⟩ hrest
      rwa [hsecond]
    · rw [if_neg hsame]
      exact .cons ⟨rfl, hfirst⟩ (ih (by simpa [find?, hsame] using hfind))

end Props

/-! ## Conforming to a schema -/

/-- What resolving given props by a schema results in. -/
structure Schema.Resolves (schema : Schema) (props resolved : Props) : Prop where
  apart : resolved.Apart
  /-- There is a value for every default, and it is absent only if the default is. -/
  defaults : ∀ entry ∈ schema.defaults, ∃ value, resolved.find? entry.1 = some value ∧
    (value.isNull = true → entry.2.isNull = true)
  /-- Every field holds a value of its kind. -/
  fields : ∀ field ∈ schema.fields, ∃ value, resolved.get? field.name = some value ∧
    field.Holds value
  /-- There is a value for everything given. -/
  given : ∀ entry ∈ props, entry.2.isNull = false →
    ∃ value, resolved.HoldsAt entry.1 value ∧ value.isNull = false
  /-- What no field is for is passed on. -/
  undeclared : ∀ entry ∈ props, entry.2.isNull = false →
    (∀ field ∈ schema.fields, entry.1.same (.text field.name) = false) →
    resolved.HoldsAt entry.1 entry.2

/-- What no field is for is passed on. -/
theorem Schema.holdsAt_conform {schema : Schema} {props : Props} (hprops : props.Apart)
    {entry : Key × Value} (hentry : entry ∈ props) (hpresent : entry.2.isNull = false)
    (hfields : ∀ field ∈ schema.fields, entry.1.same (.text field.name) = false) :
    (schema.conform props).HoldsAt entry.1 entry.2 := by
  have hlaid : (schema.overlay props).HoldsAt entry.1 entry.2 :=
    Props.holdsAt_foldl_insert (hprops.filter _)
      (List.mem_filter.2 ⟨hentry, by simp [hpresent]⟩) _
  exact List.foldlRecOn (motive := fun resolved : Props => resolved.HoldsAt entry.1 entry.2) _ _
    hlaid fun resolved hresolved field hfield => hresolved.insert_of_ne (hfields field hfield) _

namespace Schema.Conforming

variable {schema : Schema} (h : schema.Conforming)
include h

theorem isNull_field {field : Field} (hfield : field ∈ schema.fields) (current : Value) :
    (field.conform current (schema.defaults.get field.name)).isNull = false :=
  (Field.holds_conform (h.holds field hfield) current).isNull_eq_false

theorem get?_conform_holds {field : Field} (hfield : field ∈ schema.fields) (props : Props) :
    ∃ value, (schema.conform props).get? field.name = some value ∧ field.Holds value :=
  ⟨_, get?_conform h.nodup hfield props, Field.holds_conform (h.holds field hfield) _⟩

/-- **Conforming props hold what they should.** -/
theorem resolves {props : Props} (hprops : props.Apart) :
    schema.Resolves props (schema.conform props) where
  apart := apart_conform h.apart props
  defaults entry hentry := by
    have hkey := (keys_conform props).subset (List.mem_map_of_mem (f := Prod.fst) hentry)
    obtain ⟨found, hfound, heq⟩ := List.mem_map.1 hkey
    have hself := h.keys entry hentry
    have hfind := (apart_conform h.apart props).find?_of_mem hfound (by rwa [heq])
    rw [heq] at hfind
    refine ⟨found.2, hfind, fun hnull => ?_⟩
    -- an absent value is that of the default
    have hdefault := absent_conform (fun _ => h.isNull_field) props found hfound hnull
    have hvalues := (h.apart.find?_of_mem hdefault (by rwa [heq])).symm.trans
      (heq ▸ h.apart.find?_of_mem hentry hself)
    rwa [← Option.some.inj hvalues]
  fields field hfield := h.get?_conform_holds hfield props
  given entry hentry hpresent := by
    by_cases hfields : ∀ field ∈ schema.fields, entry.1.same (.text field.name) = false
    · exact ⟨entry.2, holdsAt_conform hprops hentry hpresent hfields, hpresent⟩
    · push Not at hfields
      -- the key is that of a field, which holds a value under an equal key
      obtain ⟨field, hfield, hsame⟩ := hfields
      obtain ⟨value, hget, hholds⟩ := h.get?_conform_holds hfield props
      obtain ⟨found, hfound, hkey, hvalue⟩ := Props.exists_of_find? hget
      have hsame' : entry.1.same (.text field.name) = true := by simpa using hsame
      rw [← Key.same_congr_right hsame'] at hkey
      exact ⟨value, ⟨found, hfound, Or.inr hkey, hvalue⟩, hholds.isNull_eq_false⟩
  undeclared _ := holdsAt_conform hprops

/-- **Conforming twice is conforming once**, but for the order of parts. -/
theorem conform_alike (props : Props) :
    (schema.conform (schema.conform props)).Alike (schema.conform props) := by
  have hlaid : schema.overlay (schema.conform props) = schema.conform props :=
    overlay_conform (fun _ => h.isNull_field) h.apart h.keys props
  have hfields (fields : List Field) (hsub : fields ⊆ schema.fields)
      (hnodup : (fields.map Field.name).Nodup) (laid : Props)
      (halike : laid.Alike (schema.conform props))
      (hsame : ∀ field ∈ fields, laid.get? field.name = (schema.conform props).get? field.name) :
      (fields.foldl schema.conformField laid).Alike (schema.conform props) := by
    induction fields generalizing laid with
    | nil => exact halike
    | cons field rest ih =>
      obtain ⟨hfield, hrest⟩ := List.cons_subset.1 hsub
      obtain ⟨hname, hnames⟩ := List.nodup_cons.1 hnodup
      have hget := get?_conform h.nodup hfield props
      refine ih hrest hnames _ ?_ fun other hother => ?_
      · -- the field holds a value of its own already
        rw [conformField, Props.get, hsame field (List.mem_cons_self ..), hget, Option.getD_some]
        exact halike.insert hget (Field.conform_alike (h.holds field hfield) _)
      · have hne : field.name ≠ other.name := fun heq =>
          hname (heq ▸ List.mem_map_of_mem hother)
        rw [conformField, Props.get?_put_of_ne laid hne,
          hsame other (List.mem_cons_of_mem _ hother)]
  rw [conform, hlaid]
  exact hfields _ (List.Subset.refl _) h.nodup _ (Props.alike_refl _) fun _ _ => rfl

theorem fault?_eq_none (props : Props) : schema.fault? props = none := by
  refine Schema.fault?_eq_none (fun field hfield hk => ?_) props
  obtain ⟨entries, hdefault, _⟩ := (h.holds field hfield).array hk
  exact defaultFault?_default hdefault

end Schema.Conforming

/-- An absent value acts as one that is not given. -/
theorem Schema.conform_present (schema : Schema) (props : Props) :
    schema.conform (props.filter fun entry => !entry.2.isNull) = schema.conform props := by
  rw [conform, overlay, List.filter_filter]
  simp only [Bool.and_self]
  rfl

/-! ## Catalogues with conforming defaults -/

/-- A number that is no text is a number itself. -/
theorem Value.numeric_of_amount? {v : Value} (h : v.amount?.isSome) (htext : v.isText = false) :
    (∃ n, v = .int n) ∨ ∃ x, v = .float (.finite x) := by
  unfold Value.amount? at h
  split at h
  · exact Or.inl ⟨_, rfl⟩
  · exact Or.inr ⟨_, rfl⟩
  · cases htext
  · cases h

/-- The defaults of every bundled schema hold values of the kinds of its fields. -/
theorem Bundled.conforming : Bundled.catalogue.Conforming := by
  have hnumbers : ∀ schema ∈ schemas, ∀ field ∈ schema.fields, field.kind = .number →
      (schema.defaults.get field.name).amount?.isSome ∧
      (schema.defaults.get field.name).isText = false := by decide +kernel
  have hchoices : ∀ schema ∈ schemas, ∀ field ∈ schema.fields,
      field.kind = .select ∨ field.kind = .radio →
      (schema.defaults.get field.name).toText ∈ field.allowed := by decide
  have htexts : ∀ schema ∈ schemas, ∀ field ∈ schema.fields, field.kind ≠ .number →
      field.kind ≠ .array → (schema.defaults.get field.name).isText = true := by decide
  have harrays : ∀ schema ∈ schemas, ∀ field ∈ schema.fields, field.kind = .array →
      schema.type = "Accordion" := by decide
  intro schema hschema
  obtain ⟨hapart, hkeys, _, hnodup, _⟩ := steady schema hschema
  refine ⟨hapart, hkeys, hnodup, fun field hfield => ⟨fun hk => ?_, fun hk => ?_, fun hk => ?_,
    fun hk => ?_⟩⟩
  · obtain ⟨hnumber, htext⟩ := hnumbers schema hschema field hfield hk
    rcases Value.numeric_of_amount? hnumber htext with ⟨n, hn⟩ | ⟨x, hx⟩
    · exact Or.inl ⟨n, by rw [hn]; rfl⟩
    · exact Or.inr ⟨x, by rw [hx]; rfl⟩
  · have haccordion : schema = accordion :=
      List.inj_on_of_nodup_map catalogue.distinct hschema (by simp [catalogue, schemas])
        (harrays schema hschema field hfield hk)
    subst haccordion
    rw [List.mem_singleton.1 hfield]
    refine ⟨[_], rfl, fun entry hentry => ?_⟩
    rw [List.mem_singleton.1 hentry]
    exact holdsParts_keptParts _
      [(.text "title", .text "Helpful Tip"), (.text "content", .text "Detailed info here.")]
  · have hne : field.kind ≠ .number ∧ field.kind ≠ .array := by
      rcases hk.kind with hkind | hkind <;> rw [hkind] <;> decide
    obtain ⟨s, hs⟩ := Value.isText_iff.1 (htexts schema hschema field hfield hne.1 hne.2)
    have hallowed := hchoices schema hschema field hfield hk.kind
    rw [hs] at hallowed ⊢
    exact ⟨s, hallowed, rfl⟩
  · obtain ⟨s, hs⟩ := Value.isText_iff.1 (htexts schema hschema field hfield hk.number hk.array)
    rw [hs]
    exact ⟨s, rfl⟩

/-- Notes with steps, whose default has its parts in another order than the field. -/
def stepNotes : Schema where
  type := "Note"
  category := "Notes"
  defaults := [
    (.text "steps", .row [.map [(.text "content", .text "Rest."), (.text "title", .text "Tip")]]),
    (.text "hint", .null)]
  fields := [
    { name := "steps", kind := .array,
      parts := [{ name := "title", kind := .line }, { name := "content", kind := .area }] }]

/-- A catalogue of notes alone. -/
def noteCatalogue : Catalogue where
  schemas := [stepNotes]
  root := Bundled.page
  distinct := List.nodup_singleton _

theorem noteCatalogue_conforming : noteCatalogue.Conforming := by
  intro schema hschema
  rw [List.mem_singleton.1 hschema]
  refine ⟨by decide, by decide, by decide, fun field hfield => ?_⟩
  rw [List.mem_singleton.1 hfield]
  refine ⟨nofun, fun _ => ⟨[_], rfl, fun entry hentry => ?_⟩, fun hk => ?_, fun hk => ?_⟩
  · rw [List.mem_singleton.1 hentry]
    refine ⟨by decide, fun part hpart => ?_, by simp⟩
    simp only [List.mem_cons, List.not_mem_nil, or_false] at hpart
    rcases hpart with rfl | rfl <;> exact ⟨_, rfl⟩
  · exact absurd hk.kind (by decide)
  · exact absurd rfl hk.array

end Pagewright
