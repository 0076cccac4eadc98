import Pagewright.Compilation.Page
import Pagewright.Proofs.Conforming

/-!
# Conforming props can be laid out

A layout fails where it reads a prop that is not there, looks up a variant that is no text, or goes
through entries that are none. `Props.Suit` collects what the layouts of a component in either
framework rely on, and both halves are proved once: props that suit a component are laid out
(`layout_ok`), and resolved props suit the component of their type (`Bundled.suit`). Nothing that
renders a bundled page has to look into a layout to know that it succeeds.
-/

namespace Pagewright

open Pagewright.Markup

/-! ## Results that may be faults -/

section Results

variable {ε ε' α β : Type} {x : Except ε α}

theorem bind_eq_ok {f : α → Except ε β} {b : β} :
    x >>= f = .ok b ↔ ∃ a, x = .ok a ∧ f a = .ok b := by
  cases x with
  | error e => simp [bind, Except.bind]
  | ok a => simp [bind, Except.bind]

theorem map_eq_ok {f : α → β} {b : β} : x.map f = .ok b ↔ ∃ a, x = .ok a ∧ f a = b := by
  cases x with
  | error e => simp [Except.map]
  | ok a => simp [Except.map]

theorem mapError_eq_ok {f : ε → ε'} {a : α} : x.mapError f = .ok a ↔ x = .ok a := by
  cases x with
  | error e => exact ⟨nofun, nofun⟩
  | ok b => exact ⟨fun h => congrArg _ (Except.ok.inj h), fun h => congrArg _ (Except.ok.inj h)⟩

theorem toOption_eq_some {a : α} : x.toOption = some a ↔ x = .ok a := by
  cases x with
  | error e => exact ⟨nofun, nofun⟩
  | ok b => exact ⟨fun h => congrArg _ (Option.some.inj h), fun h => congrArg _ (Except.ok.inj h)⟩

/-- A sequence of steps succeeds if its first step does and the rest does for each result. -/
theorem bind_ok {f : α → Except ε β} (hx : ∃ a, x = .ok a) (hf : ∀ a, ∃ b, f a = .ok b) :
    ∃ b, x >>= f = .ok b := by
  obtain ⟨a, ha⟩ := hx
  obtain ⟨b, hb⟩ := hf a
  exact ⟨b, bind_eq_ok.2 ⟨a, ha, hb⟩⟩

theorem map_ok {f : α → β} (hx : ∃ a, x = .ok a) : ∃ b, x.map f = .ok b := by
  obtain ⟨a, ha⟩ := hx
  exact ⟨f a, map_eq_ok.2 ⟨a, ha, rfl⟩⟩

theorem mapM_ok {f : α → Except ε β} {items : List α} (h : ∀ a ∈ items, ∃ b, f a = .ok b) :
    ∃ results, items.mapM f = .ok results := by
  induction items with
  | nil => exact ⟨[], rfl⟩
  | cons a rest ih =>
    rw [List.mapM_cons]
    exact bind_ok (h a (by simp)) fun _ =>
      bind_ok (ih fun other hother => h other (by simp [hother])) fun _ => ⟨_, rfl⟩

/-- A result of a sequence is that of the item in its place. -/
theorem getElem?_mapM {f : α → Except ε β} {items : List α} {results : List β}
    (h : items.mapM f = .ok results) (i : Nat) :
    results[i]? = items[i]?.bind fun a => (f a).toOption := by
  induction items generalizing results i with
  | nil =>
    rw [← Except.ok.inj h]
    rfl
  | cons a rest ih =>
    rw [List.mapM_cons] at h
    obtain ⟨b, hb, h⟩ := bind_eq_ok.1 h
    obtain ⟨more, hmore, h⟩ := bind_eq_ok.1 h
    rw [← Except.ok.inj h]
    cases i with
    | zero => simp [hb, Except.toOption]
    | succ i => exact ih hmore i

end Results

/-! ## Props that suit a component -/

/-- The props that the layouts of a component show. -/
def Component.reads : Component → List String
  | .grid => ["bgColor", "paddingY", "gap"]
  | .card => ["title", "description", "content", "footer"]
  | .button => ["text", "variant", "size"]
  | .badge => ["text", "variant"]
  | .separator => ["orientation"]
  | .alert => ["title", "description", "variant"]
  | .progress => ["label"]
  | .input => ["label", "type", "placeholder"]
  | .accordion => ["items"]

/-- What the layouts of a component rely on. -/
structure Props.Suit (props : Props) (component : Component) : Prop where
  /-- Everything that is shown is there. -/
  shown : ∀ name ∈ component.reads, ∃ v, props.get? name = some v
  /-- What is looked up in a table is a text. -/
  named : ∀ name ∈ component.reads, name ∈ ["variant", "size"] →
    ∃ s, props.get? name = some (.text s)
  /-- The entries of an accordion are entries. -/
  folded : component = .accordion → ∃ entries, props.foldedEntries = .ok entries

section Reading

variable {props : Props} {component : Component} {name : String}

theorem Props.Suit.shown_ok (h : props.Suit component) (hn : name ∈ component.reads) :
    ∃ v, props.shown name = .ok v := by
  obtain ⟨v, hv⟩ := h.shown name hn
  exact ⟨v, by rw [Props.shown, hv]⟩

theorem Props.Suit.shownContent_ok (h : props.Suit component) (hn : name ∈ component.reads) :
    ∃ content, props.shownContent name = .ok content :=
  map_ok (h.shown_ok hn)

theorem Props.Suit.variant_ok (h : props.Suit component) (hn : name ∈ component.reads)
    (hv : name ∈ ["variant", "size"]) : ∃ variant, props.variant name = .ok variant := by
  obtain ⟨s, hs⟩ := h.named name hn hv
  exact ⟨some s, by simp [Props.variant, Props.get, hs]⟩

/-- **Props that suit a component are laid out**, in either framework and around any zones. -/
theorem layout_ok (h : props.Suit component) (framework : Framework) (node : Node)
    (zones : List (List Markup)) : ∃ m, framework.layout component node props zones = .ok m := by
  have shown : ∀ name ∈ component.reads, ∃ v, props.shown name = .ok v :=
    fun name hn => h.shown_ok hn
  have content : ∀ name ∈ component.reads, ∃ c, props.shownContent name = .ok c :=
    fun name hn => h.shownContent_ok hn
  have variant : ∀ name ∈ component.reads, name ∈ ["variant", "size"] →
      ∃ v, props.variant name = .ok v := fun name hn hv => h.variant_ok hn hv
  -- each case reads what its layout reads, in the same order
  cases component with
  | grid =>
    cases framework <;>
    exact bind_ok (content "bgColor" (by decide)) fun _ => ⟨_, rfl⟩
  | card =>
    cases framework <;>
    exact bind_ok (content "title" (by decide)) fun _ =>
      bind_ok (content "description" (by decide)) fun _ =>
      bind_ok (content "content" (by decide)) fun _ =>
      bind_ok (shown "footer" (by decide)) fun _ => ⟨_, rfl⟩
  | button =>
    cases framework with
    | shadcn =>
      exact bind_ok (content "variant" (by decide)) fun _ =>
        bind_ok (content "size" (by decide)) fun _ =>
        bind_ok (content "text" (by decide)) fun _ => ⟨_, rfl⟩
    | bootstrap =>
      exact bind_ok (variant "variant" (by decide) (by decide)) fun _ =>
        bind_ok (variant "size" (by decide) (by decide)) fun _ =>
        bind_ok (content "text" (by decide)) fun _ => ⟨_, rfl⟩
  | badge =>
    cases framework with
    | shadcn =>
      exact bind_ok (content "variant" (by decide)) fun _ =>
        bind_ok (content "text" (by decide)) fun _ => ⟨_, rfl⟩
    | bootstrap =>
      exact bind_ok (variant "variant" (by decide) (by decide)) fun _ =>
        bind_ok (content "text" (by decide)) fun _ => ⟨_, rfl⟩
  | separator =>
    cases framework with
    | shadcn => exact bind_ok (content "orientation" (by decide)) fun _ => ⟨_, rfl⟩
    | bootstrap => exact ⟨_, rfl⟩
  | alert =>
    cases framework with
    | shadcn =>
      exact bind_ok (content "variant" (by decide)) fun _ =>
        bind_ok (content "title" (by decide)) fun _ =>
        bind_ok (content "description" (by decide)) fun _ => ⟨_, rfl⟩
    | bootstrap =>
      exact bind_ok (variant "variant" (by decide) (by decide)) fun _ =>
        bind_ok (content "title" (by decide)) fun _ =>
        bind_ok (content "description" (by decide)) fun _ => ⟨_, rfl⟩
  | progress =>
    cases framework <;> exact bind_ok (content "label" (by decide)) fun _ => ⟨_, rfl⟩
  | input =>
    cases framework <;>
    exact bind_ok (content "label" (by decide)) fun _ =>
      bind_ok (content "type" (by decide)) fun _ =>
      bind_ok (content "placeholder" (by decide)) fun _ => ⟨_, rfl⟩
  | accordion =>
    cases framework <;> exact bind_ok (h.folded rfl) fun _ => ⟨_, rfl⟩

end Reading

/-! ## Resolved props suit their component -/

/-- A field with choices holds a text if its default is one. -/
theorem conform_choice {field : Field} (hk : field.kind = .select ∨ field.kind = .radio)
    (hc : field.choices ≠ []) (fallback : String) (v : Value) :
    ∃ s, field.conform v (.text fallback) = .text s := by
  have hoffers : field.Offers := ⟨hk, by simpa using hc⟩
  rcases hoffers.conform_cases v (.text fallback) with ⟨s, _, rfl, hv⟩ | hv
  · exact ⟨s, hv⟩
  · exact ⟨fallback, hv⟩

/-- An entry of an array field holds each of its parts. -/
theorem get?_conformEntry (parts : List Field) (entry : Props) {part : Field} (h : part ∈ parts) :
    ∃ (props : Props) (v : Value), conformEntry parts entry = .map props ∧
      props.get? part.name = some v :=
  ⟨_, _, rfl, get?_foldl_put entry [] (Or.inl h)⟩

/-- A mapping with both parts is an entry of an unfolding list. -/
theorem foldedEntry_ok {entry : Props} {title content : Value}
    (ht : entry.get? "title" = some title) (hc : entry.get? "content" = some content) :
    ∃ folded, foldedEntry (.map entry) = .ok folded :=
  ⟨⟨title.content, content.content⟩, by
    simp [foldedEntry, Value.entries?, Value.opened, Props.shownContent, Props.shown, ht, hc,
      Except.map, bind, Except.bind, pure, Except.pure]⟩

theorem eq_of_rowPart? {v : Value} {s : Scalar} (h : v.rowPart? = some (.one s)) :
    v = .scalar s := by
  unfold Value.rowPart? at h
  split at h <;> simp_all

namespace Bundled

/-- A declared field of a bundled component always holds a value. -/
theorem get?_conform_field {schema : Schema} (h : schema ∈ schemas) {name : String}
    (hn : name ∈ schema.fields.map Field.name) (props : Props) :
    ∃ v, (schema.conform props).get? name = some v := by
  have hall : ∀ schema ∈ schemas, (schema.fields.map Field.name).Nodup := by decide
  obtain ⟨field, hfield, rfl⟩ := List.mem_map.1 hn
  exact ⟨_, Schema.get?_conform (hall schema h) hfield props⟩

/-- The variants and sizes of bundled components are texts. -/
theorem get?_conform_choice {schema : Schema} (h : schema ∈ schemas) {name : String}
    (hn : name ∈ schema.fields.map Field.name) (hc : name ∈ ["variant", "size"]) (props : Props) :
    ∃ s, (schema.conform props).get? name = some (.text s) := by
  have hnodup : ∀ schema ∈ schemas, (schema.fields.map Field.name).Nodup := by decide
  have hchoice : ∀ schema ∈ schemas, ∀ field ∈ schema.fields, field.name ∈ ["variant", "size"] →
      field.kind = .select ∧ field.choices ≠ [] ∧
        (schema.defaults.get field.name).rowPart? = some (.one (.text "default")) := by decide
  obtain ⟨field, hfield, rfl⟩ := List.mem_map.1 hn
  obtain ⟨hkind, hchoices, hdefault⟩ := hchoice schema h field hfield hc
  obtain ⟨s, hs⟩ := conform_choice (Or.inl hkind) hchoices "default"
    ((schema.overlay props).get field.name)
  exact ⟨s, by
    rw [Schema.get?_conform (hnodup schema h) hfield props, eq_of_rowPart? hdefault, hs]⟩

/-- The entries of a bundled accordion are entries. -/
theorem foldedEntries_conform (props : Props) :
    ∃ entries, Props.foldedEntries (accordion.conform props) = .ok entries := by
  obtain ⟨field, hfield, hname, hkind, hparts⟩ : ∃ field ∈ accordion.fields, field.name = "items" ∧
      field.kind = .array ∧
      field.parts = [Bundled.field "title" .line, Bundled.field "content" .area] :=
    ⟨_, List.mem_singleton.2 rfl, rfl, rfl, rfl⟩
  have hget := Schema.get?_conform (by decide) hfield props
  have hlist : ∃ entries, field.conform ((accordion.overlay props).get field.name)
      (accordion.defaults.get field.name) = .list entries ∧
      ∀ entry ∈ entries, ∃ folded, foldedEntry entry = .ok folded := by
    simp only [Field.conform, hkind]
    split
    · -- given entries that are mappings get both parts
      refine ⟨_, rfl, fun entry hentry => ?_⟩
      obtain ⟨item, _, hitem⟩ := List.mem_filterMap.1 hentry
      obtain ⟨given, _, rfl⟩ := Option.map_eq_some_iff.1 hitem
      rw [hparts]
      obtain ⟨own, title, hown, htitle⟩ := get?_conformEntry _ given (List.mem_cons_self ..)
      obtain ⟨own', content, hown', hcontent⟩ := get?_conformEntry _ given
        (List.mem_cons_of_mem _ (List.mem_cons_self ..))
      rw [hown] at hown' ⊢
      rw [← Value.map.inj hown'] at hcontent
      exact foldedEntry_ok htitle hcontent
    · -- the default entries have both parts
      refine ⟨_, rfl, fun entry hentry => ?_⟩
      rw [hname] at hentry
      rw [List.mem_singleton.1 hentry]
      exact foldedEntry_ok rfl rfl
  obtain ⟨entries, hentries, hall⟩ := hlist
  rw [hname] at hget hentries
  obtain ⟨folded, hfolded⟩ := mapM_ok hall
  exact ⟨folded, by
    simp [Props.foldedEntries, hget, hentries, Value.elements?, Value.opened, Value.members?,
      hfolded]⟩

/-- **Resolved props suit the component of their type.** -/
theorem suit {type : String} {component : Component}
    (h : bundledRules.lookup type = some component) (props : Props) :
    Props.Suit (catalogue.resolve type props) component := by
  have hall : ∀ entry ∈ bundledRules, (catalogue.schema? entry.1).any fun schema =>
      entry.2.reads.all fun name => (schema.fields.map Field.name).contains name := by decide
  have hmem : (type, component) ∈ bundledRules := mem_of_lookup h
  obtain ⟨schema, hs, hreads⟩ := (Option.any_eq_true ..).1 (hall _ hmem)
  have hresolve : catalogue.resolve type props = schema.conform props := by
    rw [Catalogue.resolve, hs]
  have hfields : ∀ name ∈ component.reads, name ∈ schema.fields.map Field.name := by
    simpa using hreads
  rw [hresolve]
  refine ⟨fun name hn => ?_, fun name hn hv => ?_, fun hc => ?_⟩
  · exact get?_conform_field (schema_mem hs).1 (hfields name hn) props
  · exact get?_conform_choice (schema_mem hs).1 (hfields name hn) hv props
  · have htype : ∀ entry ∈ bundledRules, entry.2 = .accordion → entry.1 = "Accordion" := by decide
    have hacc : catalogue.schema? "Accordion" = some accordion := rfl
    rw [htype _ hmem hc, hacc] at hs
    rw [← Option.some.inj hs]
    exact foldedEntries_conform props

end Bundled

end Pagewright
