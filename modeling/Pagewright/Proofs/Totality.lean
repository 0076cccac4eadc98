import Mathlib.Algebra.Group.Int.Defs
import Pagewright.Proofs.Bundles

/-!
# Node problems never stop a compilation

The props of a node are whatever an editor left there: values of a wrong kind, numbers without a
finite value, entries that are no mappings, unknown keys, nothing at all. Resolving brings every
declared field to its kind before anything is laid out, so a layout finds the props it shows, its
tables are asked for texts only, its entries have both parts (`Bundled.suit`), and what it reads as
a number is a finite one (`Bundled.numeric`), given or taken from the defaults. None of this looks
at the given props. So a document compiles whatever its nodes hold, page by page
(`compile_total`); what remains to be asked for is that ids and titles are texts.
-/

namespace Pagewright

open Pagewright.Number

/-- The props that the layouts of a component read as numbers. -/
def Component.numbers : Component → List String
  | .grid => ["columns", "paddingY", "gap"]
  | .progress => ["value"]
  | _ => []

/-- Does every prop that the layouts of a component read as a number hold a finite one? -/
def Props.Numeric (props : Props) (component : Component) : Prop :=
  ∀ name ∈ component.numbers, ∃ v a, props.get? name = some v ∧ v.amount? = some a

/-- A number field holds a finite number if its default is one. -/
theorem amount?_conform_number {field : Field} (h : field.kind = .number) {fallback : Value}
    {a : Amount} (hf : fallback.amount? = some a) (v : Value) :
    ∃ b, (field.conform v fallback).amount? = some b := by
  rw [Field.conform_of_number h]
  cases hv : v.amount? with
  | none => exact ⟨a, hf⟩
  | some b => exact ⟨b, amount?_toValue hv⟩

namespace Bundled

/-- The number fields of bundled schemas have a finite number as their default. -/
theorem amount?_default {schema : Schema} (h : schema ∈ schemas) {field : Field}
    (hf : field ∈ schema.fields) (hk : field.kind = .number) :
    ∃ a, (schema.defaults.get field.name).amount? = some a := by
  have hall : ∀ schema ∈ schemas, ∀ field ∈ schema.fields, field.kind = .number →
      ((schema.defaults.get field.name).amount?).isSome = true := by decide +kernel
  exact Option.isSome_iff_exists.1 (hall schema h field hf hk)

/-- **Resolved props are numbers where their component reads numbers.** -/
theorem numeric {type : String} {component : Component}
    (h : bundledRules.lookup type = some component) (props : Props) :
    Props.Numeric (catalogue.resolve type props) component := by
  have hall : ∀ entry ∈ bundledRules, (catalogue.schema? entry.1).any fun schema =>
      entry.2.numbers.all fun name =>
        schema.fields.any fun field => field.name = name && field.kind = .number := by decide
  have hnodup : ∀ schema ∈ schemas, (schema.fields.map Field.name).Nodup := by decide
  obtain ⟨schema, hs, hnumbers⟩ := (Option.any_eq_true ..).1 (hall _ (mem_of_lookup h))
  have hmem : schema ∈ schemas := (schema_mem hs).1
  have hresolve : catalogue.resolve type props = schema.conform props := by
    rw [Catalogue.resolve, hs]
  intro name hname
  obtain ⟨field, hfield, hcond⟩ := List.any_eq_true.1 (List.all_eq_true.1 hnumbers name hname)
  obtain ⟨rfl, hkind⟩ : field.name = name ∧ field.kind = .number := by simpa using hcond
  obtain ⟨a, ha⟩ := amount?_default hmem hfield hkind
  obtain ⟨b, hb⟩ := amount?_conform_number hkind ha ((schema.overlay props).get field.name)
  rw [hresolve]
  exact ⟨_, b, Schema.get?_conform (hnodup schema hmem) hfield props, hb⟩

end Bundled

variable {profile : Profile}

/-- **What a page renders is ready to be rendered**: a rendered node is laid out as a component,
and its resolved props suit the component and are numbers where it reads numbers. -/
theorem Page.ready_of_mem_renderings {framework : Framework} (hf : profile.Follows framework)
    {page : Page} {node : Node} {layout : Layout}
    (h : (node, layout) ∈ page.renderings Bundled.catalogue profile) :
    ∃ component, layout = framework.layout component ∧
      (Bundled.catalogue.resolve node.type node.props).Suit component ∧
        (Bundled.catalogue.resolve node.type node.props).Numeric component := by
  obtain ⟨component, hr, rfl⟩ :=
    hf.rule?_eq_some.1 ((mem_renderings_iff Bundled.settled).1 h).1
  exact ⟨component, rfl, Bundled.suit hr node.props, Bundled.numeric hr node.props⟩

/--
**Node problems never stop a compilation.** A document whose ids and titles are texts compiles to
one file for each page, in order, whatever types and props its nodes have; and whatever it renders
was rendered from props with all that its layout reads.
-/
theorem Document.compile_total (hb : profile.IsBundled) {document : Document}
    (htitles : ∀ page ∈ document.pages, ∃ title, page.settings.title = .text title)
    (hids : ∀ page ∈ document.pages, page.TextIds) :
    (∃ pages, document.compile Bundled.catalogue profile = .ok pages ∧
      List.Forall₂ (fun page compiled => ∃ identifier,
        page.CompiledUnder Bundled.catalogue profile identifier compiled)
        document.pages pages) ∧
      ∃ framework, profile.Follows framework ∧ ∀ page ∈ document.pages, ∀ node layout,
        (node, layout) ∈ page.renderings Bundled.catalogue profile →
        ∃ component, layout = framework.layout component ∧
          (Bundled.catalogue.resolve node.type node.props).Suit component ∧
            (Bundled.catalogue.resolve node.type node.props).Numeric component := by
  refine ⟨compile_of_texts hb fun page hpage => ⟨hids page hpage, htitles page hpage⟩, ?_⟩
  obtain ⟨framework, hf⟩ := hb.follows
  exact ⟨framework, hf, fun page _ node layout h => Page.ready_of_mem_renderings hf h⟩

/-- A page of nodes with props of wrong kinds: columns that are no number, lengths beyond the
range of numbers, entries that are no mappings, a variant that is a list. -/
def Page.troubled : Page where
  id := "home"
  content := [
    { id := .text "a", type := "Section",
      props := [(.text "columns", .float .nan), (.text "gap", .int (10 ^ 400)),
        (.text "paddingY", .text "1e999"), (.text "bgColor", .null)] },
    { id := .text "b", type := "Accordion",
      props := [(.text "items", .list [.null, .map [(.text "title", .int 3)]])] },
    { id := .text "c", type := "Button", props := [(.text "variant", .list [.text "outline"])] },
    { id := .text "d", type := "Progress", props := [(.text "value", .bool true)] },
    { id := .text "e", type := "Carousel", props := [(.text "speed", .float (.infinite true))] }]
  zones := [("a:col-0", [{ id := .text "a", type := "Section" }])]

/-- A document of the troubled page. -/
def Document.troubled : Document := ⟨[Page.troubled], List.cons_ne_nil _ _⟩

/-- The troubled page compiles. -/
theorem Document.compile_total_troubled :
    ∃ compiled, troubled.compile Bundled.catalogue bootstrapProfile = .ok [compiled] := by
  have htitles : ∀ page ∈ troubled.pages, ∃ title, page.settings.title = .text title := by
    intro page hpage
    rw [List.mem_singleton.1 hpage]
    exact ⟨"Home", rfl⟩
  have hids : ∀ page ∈ troubled.pages, page.TextIds := by decide
  obtain ⟨⟨pages, hpages, hall⟩, _⟩ := compile_total bootstrapProfile_isBundled htitles hids
  have hlength : pages.length = 1 := hall.length_eq.symm
  obtain ⟨compiled, rfl⟩ := List.length_eq_one_iff.1 hlength
  exact ⟨compiled, hpages⟩

end Pagewright
