import Pagewright.Proofs.Compiling
import Pagewright.Proofs.Imports

/-!
# Component names and the imports that bind them

A page of ready-made components writes elements whose names start with a capital letter, and each
of these names has to be bound by an import of the same file. The names come out of the expansion,
the imports out of the visit. Both reach the same types unless two nodes share an id: the visit
takes the first of them only, while the expansion renders every one that stands outside the other.

`compiled_names_bound` says exactly when the imports suffice: when the types of all rendered nodes
are used types. On pages whose shared ids agree they always are.
-/

namespace Pagewright

/-! ## The elements of markup -/

mutual

/-- The names of the elements of a piece of markup, in the order in which they are opened. -/
def Markup.elements : Markup → List String
  | .passage _ => []
  | .single tag _ => [tag]
  | .short tag _ _ => [tag]
  | .block tag _ children => tag :: markupElements children
  | .body items => markupElements items
  | .verbatim _ => []

/-- The names of the elements of pieces of markup. -/
def markupElements : List Markup → List String
  | [] => []
  | piece :: rest => piece.elements ++ markupElements rest

end

theorem mem_markupElements {pieces : List Markup} {name : String} :
    name ∈ markupElements pieces ↔ ∃ piece ∈ pieces, name ∈ piece.elements := by
  induction pieces with
  | nil => simp [markupElements]
  | cons piece rest ih => simp [markupElements, ih]

theorem markupElements_append (first more : List Markup) :
    markupElements (first ++ more) = markupElements first ++ markupElements more := by
  induction first with
  | nil => rfl
  | cons piece rest ih =>
    rw [List.cons_append, markupElements, ih, markupElements, List.append_assoc]

/-- Does an element of the name stand for a component? Elements of the page itself are written in
lower case. -/
def isComponentName (name : String) : Bool := name.toList.head?.any Char.isUpper

/-- The component names that the layout of a component writes, its own name first. -/
def Component.parts : Component → List String
  | .grid => []
  | .card => ["Card", "CardHeader", "CardTitle", "CardDescription", "CardContent", "CardFooter"]
  | .button => ["Button"]
  | .badge => ["Badge"]
  | .separator => ["Separator"]
  | .alert => ["Alert", "AlertCircle", "AlertTitle", "AlertDescription"]
  | .progress => ["Progress", "Label"]
  | .input => ["Input", "Label"]
  | .accordion => ["Accordion", "AccordionItem", "AccordionTrigger", "AccordionContent"]

/-- What the elements of a laid-out component are. -/
structure Markup.WrittenFor (component : Component) (zones : List (List Markup))
    (m : Markup) : Prop where
  /-- A component name is a part of the component or comes out of a zone. -/
  known : ∀ name ∈ m.elements, isComponentName name = true →
    name ∈ component.parts ∨ ∃ zone ∈ zones, name ∈ markupElements zone
  /-- The own name of the component is written. -/
  own : ∀ name ∈ component.parts.head?, name ∈ m.elements
  /-- A grid keeps what its zones hold. -/
  inner : component = .grid → ∀ zone ∈ zones, ∀ name ∈ markupElements zone, name ∈ m.elements

theorem elements_grid {props : Props} {zones : List (List Markup)} {m : Markup}
    (h : Shadcn.grid props zones = .ok m) : m.elements =
      "section" :: "div" :: zones.flatMap fun zone => "div" :: markupElements zone := by
  obtain ⟨_, _, h⟩ := bind_eq_ok.1 h
  rw [← Except.ok.inj h]
  have hcells : ∀ zones : List (List Markup), markupElements (zones.map fun items =>
      .block "div" [.quoted "className" "flex flex-col gap-4".toList] [.body items]) =
      zones.flatMap fun zone => "div" :: markupElements zone := by
    intro zones
    induction zones with
    | nil => rfl
    | cons zone rest ih =>
      simp only [List.map_cons, markupElements, Markup.elements, List.append_nil, ih,
        List.flatMap_cons]
  simp only [Markup.elements, markupElements, hcells, List.append_nil]

theorem elements_accordion {props : Props} {m : Markup} (h : Shadcn.accordion props = .ok m) :
    ∃ count, m.elements = "Accordion" :: (List.replicate count
      ["AccordionItem", "AccordionTrigger", "AccordionContent"]).flatten := by
  obtain ⟨entries, _, h⟩ := bind_eq_ok.1 h
  rw [← Except.ok.inj h]
  have hentries : ∀ entries : List (FoldedEntry × Nat), markupElements (entries.map fun entry =>
      Shadcn.accordionItem entry.2 entry.1) = (List.replicate entries.length
        ["AccordionItem", "AccordionTrigger", "AccordionContent"]).flatten := by
    intro entries
    induction entries with
    | nil => rfl
    | cons entry rest ih =>
      rw [List.map_cons, markupElements, ih, List.length_cons, List.replicate_succ]
      rfl
  exact ⟨_, by rw [Markup.elements, hentries]⟩

/-- **A layout writes its own name, its parts, and what its zones hold.** -/
theorem writtenFor_layout {component : Component} {node : Node} {props : Props}
    {zones : List (List Markup)} {m : Markup}
    (h : Framework.shadcn.layout component node props zones = .ok m) :
    m.WrittenFor component zones := by
  cases component with
  | grid =>
    have heq := elements_grid h
    refine ⟨fun name hn hc => ?_, by simp [Component.parts], fun _ zone hz name hn => ?_⟩
    · simp only [heq, List.mem_cons, List.mem_flatMap] at hn
      rcases hn with rfl | rfl | ⟨zone, hz, rfl | hn⟩
      · exact absurd hc (by decide)
      · exact absurd hc (by decide)
      · exact absurd hc (by decide)
      · exact Or.inr ⟨zone, hz, hn⟩
    · simp only [heq, List.mem_cons, List.mem_flatMap]
      exact Or.inr (Or.inr ⟨zone, hz, Or.inr hn⟩)
  | card =>
    obtain ⟨_, _, h⟩ := bind_eq_ok.1 h
    obtain ⟨_, _, h⟩ := bind_eq_ok.1 h
    obtain ⟨_, _, h⟩ := bind_eq_ok.1 h
    obtain ⟨footer, _, h⟩ := bind_eq_ok.1 h
    rw [← Except.ok.inj h]
    refine ⟨fun name hn _ => Or.inl ?_, by simp [Component.parts, Markup.elements], nofun⟩
    rw [Markup.elements, markupElements_append] at hn
    -- a card without a footer writes all parts but one
    split at hn
    · show name ∈ ["Card", "CardHeader", "CardTitle", "CardDescription", "CardContent"] ++
        ["CardFooter"]
      exact List.mem_append_left _ hn
    · exact hn
  | button =>
    obtain ⟨_, _, h⟩ := bind_eq_ok.1 h
    obtain ⟨_, _, h⟩ := bind_eq_ok.1 h
    obtain ⟨_, _, h⟩ := bind_eq_ok.1 h
    rw [← Except.ok.inj h]
    exact ⟨fun name hn _ => Or.inl hn, by simp [Component.parts, Markup.elements], nofun⟩
  | badge =>
    obtain ⟨_, _, h⟩ := bind_eq_ok.1 h
    obtain ⟨_, _, h⟩ := bind_eq_ok.1 h
    rw [← Except.ok.inj h]
    exact ⟨fun name hn _ => Or.inl hn, by simp [Component.parts, Markup.elements], nofun⟩
  | separator =>
    obtain ⟨_, _, h⟩ := bind_eq_ok.1 h
    rw [← Except.ok.inj h]
    exact ⟨fun name hn _ => Or.inl hn, by simp [Component.parts, Markup.elements], nofun⟩
  | alert =>
    obtain ⟨_, _, h⟩ := bind_eq_ok.1 h
    obtain ⟨_, _, h⟩ := bind_eq_ok.1 h
    obtain ⟨_, _, h⟩ := bind_eq_ok.1 h
    rw [← Except.ok.inj h]
    exact ⟨fun name hn _ => Or.inl hn, by simp [Component.parts, Markup.elements], nofun⟩
  | progress =>
    obtain ⟨_, _, h⟩ := bind_eq_ok.1 h
    rw [← Except.ok.inj h]
    refine ⟨fun name hn hc => Or.inl ?_, by
      simp [Component.parts, Markup.elements, markupElements], nofun⟩
    simp only [Markup.elements, markupElements, List.mem_cons, List.mem_append] at hn
    rcases hn with rfl | hn
    · exact absurd hc (by decide)
    · simpa [Component.parts, or_comm] using hn
  | input =>
    obtain ⟨_, _, h⟩ := bind_eq_ok.1 h
    obtain ⟨_, _, h⟩ := bind_eq_ok.1 h
    obtain ⟨_, _, h⟩ := bind_eq_ok.1 h
    rw [← Except.ok.inj h]
    refine ⟨fun name hn hc => Or.inl ?_, by
      simp [Component.parts, Markup.elements, markupElements], nofun⟩
    simp only [Markup.elements, markupElements, List.mem_cons, List.mem_append] at hn
    rcases hn with rfl | hn
    · exact absurd hc (by decide)
    · simpa [Component.parts, or_comm] using hn
  | accordion =>
    obtain ⟨count, heq⟩ := elements_accordion h
    refine ⟨fun name hn _ => Or.inl ?_, by simp [Component.parts, heq], nofun⟩
    rw [heq] at hn
    rcases List.mem_cons.1 hn with rfl | hn
    · simp [Component.parts]
    · obtain ⟨entry, hentry, hn⟩ := List.mem_flatten.1 hn
      rw [List.eq_of_mem_replicate hentry] at hn
      exact List.mem_cons_of_mem _ hn

/-! ## The elements of an expansion -/

/-- The component of a section is the grid, and every other has the type as its own name. -/
theorem own_name_of_rule {type : String} {component : Component}
    (h : bundledRules.lookup type = some component) :
    (type = "Section" → component = .grid) ∧
      (type ≠ "Section" → component.parts.head? = some type) := by
  have hall : ∀ entry ∈ bundledRules, (entry.1 = "Section" → entry.2 = .grid) ∧
      (entry.1 ≠ "Section" → entry.2.parts.head? = some entry.1) := by decide
  exact hall _ (mem_of_lookup h)

namespace Page

variable {page : Page}

/-- **A component name in the markup of an expansion is a part of a component that is rendered.** -/
theorem rendering_of_element {enterable : List ScalarForm} {nodes : List Node}
    {markup : List Markup} {name : String}
    (h : layoutItems (page.expandWith Bundled.catalogue shadcnProfile enterable nodes) =
      .ok markup) (hn : name ∈ markupElements markup) (hc : isComponentName name = true) :
    ∃ entry ∈ itemRenderings (page.expandWith Bundled.catalogue shadcnProfile enterable nodes),
      ∃ component, bundledRules.lookup entry.1.type = some component ∧ name ∈ component.parts := by
  induction enterable using strike_induction generalizing nodes markup with
  | step enterable ih =>
    rw [expandWith_eq_map] at h ⊢
    obtain ⟨m, hm, hn⟩ := mem_markupElements.1 hn
    obtain ⟨_, hitem, own, hown, hm⟩ := (mem_layoutItems h).1 hm
    -- it is enough to find the rendering in the item that writes the name
    suffices hentry : ∃ entry ∈ Item.renderings _, ∃ component,
        bundledRules.lookup entry.1.type = some component ∧ name ∈ component.parts by
      obtain ⟨entry, hentry, hpart⟩ := hentry
      exact ⟨entry, mem_itemRenderings.2 ⟨_, hitem, hentry⟩, hpart⟩
    obtain ⟨node, _, rfl⟩ := List.mem_map.1 hitem
    rcases item_cases page Bundled.catalogue shadcnProfile enterable node with
      ⟨layout, form, hr, hf, hopen⟩ | heq | heq | ⟨_, heq⟩
    · rw [item_rendered Bundled.settled hr hf hopen] at hown ⊢
      obtain ⟨bodies, m, hbodies, hlayout, rfl⟩ := layout_rendered hown
      obtain rfl := List.mem_singleton.1 hm
      obtain ⟨component, hlookup, rfl⟩ := shadcnProfile_follows.rule?_eq_some.1 hr
      rw [Item.renderings]
      rcases (writtenFor_layout hlayout).known name hn hc with hpart | ⟨body, hbody, hn⟩
      · exact ⟨_, List.mem_cons_self .., component, hlookup, hpart⟩
      · obtain ⟨_, hzone, hbody⟩ := (mem_layoutZones hbodies).1 hbody
        obtain ⟨zone, _, rfl⟩ := List.mem_map.1 hzone
        obtain ⟨entry, hentry, hpart⟩ := ih form hopen hbody hn
        exact ⟨entry, List.mem_cons_of_mem _ (mem_zoneRenderings.2 ⟨_, hzone, hentry⟩), hpart⟩
    · -- what is left out writes nothing
      rw [heq, Item.layout] at hown
      rw [← Except.ok.inj hown] at hm
      exact absurd hm List.not_mem_nil
    · rw [heq, Item.layout] at hown
      rw [← Except.ok.inj hown] at hm
      exact absurd hm List.not_mem_nil
    · rw [heq, Item.layout] at hown
      contradiction

/-- **Every rendered component writes its own name**: its markup ends up in the markup of the
expansion, however deep it stands, since only grids enclose others and they keep them. -/
theorem own_name_written {enterable : List ScalarForm} {nodes : List Node} {markup : List Markup}
    (h : layoutItems (page.expandWith Bundled.catalogue shadcnProfile enterable nodes) =
      .ok markup) {entry : Node × Layout}
    (hentry : entry ∈ itemRenderings
      (page.expandWith Bundled.catalogue shadcnProfile enterable nodes))
    {component : Component} (hr : bundledRules.lookup entry.1.type = some component) :
    ∀ name ∈ component.parts.head?, name ∈ markupElements markup := by
  induction enterable using strike_induction generalizing nodes markup with
  | step enterable ih =>
    intro name hname
    rw [expandWith_eq_map] at h hentry
    obtain ⟨_, hitem, hentry⟩ := mem_itemRenderings.1 hentry
    obtain ⟨own, hown⟩ := layout_of_mem h hitem
    -- it is enough to find the name in the markup of the item
    suffices hpiece : ∃ m ∈ own, name ∈ m.elements by
      obtain ⟨m, hm, hn⟩ := hpiece
      exact mem_markupElements.2 ⟨m, (mem_layoutItems h).2 ⟨_, hitem, own, hown, hm⟩, hn⟩
    obtain ⟨node, _, rfl⟩ := List.mem_map.1 hitem
    obtain ⟨layout, form, hrule, hf, hm, hcase⟩ := mem_renderings_item Bundled.settled hentry
    rw [item_rendered Bundled.settled hrule hf hm] at hown
    obtain ⟨bodies, m, hbodies, hlayout, rfl⟩ := layout_rendered hown
    obtain ⟨outer, hlookup, rfl⟩ := shadcnProfile_follows.rule?_eq_some.1 hrule
    have hwritten := writtenFor_layout hlayout
    refine ⟨m, by simp, ?_⟩
    rcases hcase with rfl | ⟨zone, hzone, hcase⟩
    · obtain rfl := Option.some.inj (hlookup.symm.trans hr)
      exact hwritten.own name hname
    · -- only sections have zones, so the outer component is a grid and keeps what they hold
      have htype : node.type = "Section" :=
        Bundled.type_of_zoneNames_ne_nil (List.ne_nil_of_mem hzone)
      have hgrid : outer = .grid := (own_name_of_rule hlookup).1 htype
      obtain ⟨body, hbody⟩ := layoutItems_of_mem hbodies (List.mem_map.2 ⟨zone, hzone, rfl⟩)
      have hmem := (mem_layoutZones hbodies).2 ⟨_, List.mem_map.2 ⟨zone, hzone, rfl⟩, hbody⟩
      exact hwritten.inner hgrid body hmem name (ih form hm hbody hcase name hname)

/-! ## Used types -/

theorem mem_usedTypes {catalogue : Catalogue} {profile : Profile} {type : String} :
    type ∈ page.usedTypes catalogue profile ↔
      ∃ node ∈ page.visitAll catalogue profile.supports,
        type = node.type ∨ type ∈ catalogue.companions node.type := by
  rw [usedTypes, collectTypes, mem_firstOccurrences, List.mem_flatMap]
  simp only [List.mem_cons]

/-- The types that come with a used type are used, if it can be rendered. -/
theorem companions_subset_usedTypes {profile : Profile} {type : String}
    {component : Component} (hr : bundledRules.lookup type = some component)
    (h : type ∈ page.usedTypes Bundled.catalogue profile) :
    Bundled.catalogue.companions type ⊆ page.usedTypes Bundled.catalogue profile := by
  -- a type that merely comes with another has no rule
  have hall : ∀ schema ∈ Bundled.schemas, ∀ companion ∈ schema.companions,
      bundledRules.lookup companion = none := by decide
  obtain ⟨node, hnode, hcase⟩ := mem_usedTypes.1 h
  rcases hcase with rfl | hcomp
  · exact fun companion hc => mem_usedTypes.2 ⟨node, hnode, Or.inr hc⟩
  · exfalso
    unfold Catalogue.companions at hcomp
    cases hs : Bundled.catalogue.schema? node.type with
    | none => simp [hs] at hcomp
    | some schema =>
      rw [hs] at hcomp
      rw [hall schema (Bundled.schema_mem hs).1 type hcomp] at hr
      contradiction

/-- A type that can be rendered is bound by imports exactly when it is one of the types. -/
theorem bound_iff {types : List String} {type : String} {component : Component}
    (hr : bundledRules.lookup type = some component) (hn : type ≠ "Section") :
    type ∈ shadcnProfile.boundNames types ↔ type ∈ types := by
  have hmem := mem_of_lookup hr
  constructor
  · have hbase : ∀ entry ∈ bundledRules, ∀ i ∈ shadcnProfile.baseImports,
        entry.1 ∉ i.bindings := by decide
    have hown : ∀ entry ∈ bundledRules, ∀ own ∈ shadcnProfile.imports, ∀ i ∈ own.2,
        entry.1 ∈ i.bindings → own.1 = entry.1 := by decide
    intro h
    rcases Profile.import_of_bound h with ⟨i, hi, h⟩ | ⟨t, ht, own, ho, rfl, i, hi, h⟩
    · exact absurd h (hbase _ hmem i hi)
    · have heq : own.1 = type := hown _ hmem own ho i hi h
      exact heq ▸ ht
  · have hall : ∀ entry ∈ bundledRules, entry.1 ≠ "Section" →
        ∃ imports ∈ shadcnProfile.imports.lookup entry.1, ∃ i ∈ imports, entry.1 ∈ i.names := by
      decide
    obtain ⟨imports, hl, i, hi, hname⟩ := hall _ hmem hn
    exact fun h => Profile.bound_of_import h hl hi hname

/-- Every part of a component is bound if its type and what comes with it are used. -/
theorem parts_bound {types : List String} {type : String} {component : Component}
    (hr : bundledRules.lookup type = some component) (ht : type ∈ types)
    (hc : Bundled.catalogue.companions type ⊆ types) :
    ∀ name ∈ component.parts, name ∈ shadcnProfile.boundNames types := by
  have hall : ∀ entry ∈ bundledRules, ∀ name ∈ entry.2.parts,
      ∃ t ∈ entry.1 :: Bundled.catalogue.companions entry.1,
        ∃ imports ∈ shadcnProfile.imports.lookup t, ∃ i ∈ imports, name ∈ i.names := by decide
  intro name hname
  obtain ⟨t, htype, imports, hl, i, hi, hname⟩ := hall _ (mem_of_lookup hr) name hname
  have hused : t ∈ types := by
    rcases List.mem_cons.1 htype with rfl | h
    · exact ht
    · exact hc h
  exact Profile.bound_of_import hused hl hi hname

/-! ## Names and imports of one file -/

/-- On a consistent page the types of all rendered nodes are used. -/
theorem SharedIdsAgree.type_used {profile : Profile} (ha : page.SharedIdsAgree)
    (ht : page.TextIds) {entry : Node × Layout}
    (h : entry ∈ page.renderings Bundled.catalogue profile) :
    entry.1.type ∈ page.usedTypes Bundled.catalogue profile := by
  obtain ⟨hr, above, form, htrail, _, _⟩ := (mem_renderings_iff Bundled.settled).1 h
  obtain ⟨met, hmet, hid⟩ := htrail.met ht ha (Profile.supports_of_rule? hr)
  have hstored := visitAll_subset_stored hmet
  exact mem_usedTypes.2 ⟨met, hmet, Or.inl (ha met hstored _ htrail.stored hid).1.symm⟩

/-- A used type is the type of a rendered node, or comes with it. -/
theorem rendered_of_usedTypes {profile : Profile}
    (hv : page.visitFault? Bundled.catalogue profile.supports = none) {type : String}
    (h : type ∈ page.usedTypes Bundled.catalogue profile) :
    ∃ entry ∈ page.renderings Bundled.catalogue profile,
      type = entry.1.type ∨ type ∈ Bundled.catalogue.companions entry.1.type := by
  obtain ⟨node, hnode, hcase⟩ := mem_usedTypes.1 h
  have hfault := List.findSome?_eq_none_iff.1 hv node hnode
  cases hf : node.form? with
  | none => simp [nodeFault?, hf] at hfault
  | some form =>
    obtain ⟨layout, hentry⟩ := mem_renderings_of_mem_visitAll Bundled.settled hnode hf
    exact ⟨(node, layout), hentry, hcase⟩

/-- The component names in the markup of a page are bound by the imports of given types exactly
when the types of all rendered components are among them. -/
theorem elements_bound_iff {nodes : List Markup}
    (h : page.render Bundled.catalogue shadcnProfile page.content = .ok nodes) :
    (∀ name ∈ markupElements nodes, isComponentName name = true →
        name ∈ shadcnProfile.boundNames (page.usedTypes Bundled.catalogue shadcnProfile)) ↔
      ∀ entry ∈ page.renderings Bundled.catalogue shadcnProfile, entry.1.type = "Section" ∨
        entry.1.type ∈ page.usedTypes Bundled.catalogue shadcnProfile := by
  constructor
  · intro hbound entry hentry
    obtain ⟨component, hr, _⟩ := shadcnProfile_follows.rule?_eq_some.1
      ((mem_renderings_iff Bundled.settled).1 hentry).1
    by_cases hsection : entry.1.type = "Section"
    · exact Or.inl hsection
    · -- the type is written as a name, and nothing but its own import binds that name
      have hown := (own_name_of_rule hr).2 hsection
      have hupper : ∀ entry ∈ bundledRules, isComponentName entry.1 = true := by decide
      have hwritten := own_name_written h hentry hr _ hown
      exact Or.inr ((bound_iff hr hsection).1 (hbound _ hwritten (hupper _ (mem_of_lookup hr))))
  · intro hused name hname hupper
    obtain ⟨entry, hentry, component, hr, hpart⟩ := rendering_of_element h hname hupper
    have htype : entry.1.type ∈ page.usedTypes Bundled.catalogue shadcnProfile := by
      refine (hused entry hentry).resolve_left fun hsection => ?_
      -- a grid has no parts
      rw [(own_name_of_rule hr).1 hsection] at hpart
      exact absurd hpart List.not_mem_nil
    exact parts_bound hr htype (companions_subset_usedTypes hr htype) name hpart

/--
**When the imports of a file bind its component names.**

Every used type comes from a rendered node. The other way round, an element stays unbound exactly
when a rendered type is not used: two nodes share an id, and the visit met the other one. That
cannot happen on pages whose shared ids agree.
-/
theorem compiled_names_bound {page : Page} {identifier : List Char} {c : CompiledPage}
    (h : page.compileAs Bundled.catalogue shadcnProfile identifier = .ok c) :
    ∃ nodes, page.render Bundled.catalogue shadcnProfile page.content = .ok nodes ∧
      c.fileText = String.ofList (pageSource .shadcn (shadcnProfile.resolveImports c.usedTypes)
        c.componentName.toList page.settings nodes) ∧
      (∀ type ∈ c.usedTypes, ∃ entry ∈ page.renderings Bundled.catalogue shadcnProfile,
        type = entry.1.type ∨ type ∈ Bundled.catalogue.companions entry.1.type) ∧
      ((∀ name ∈ markupElements nodes, isComponentName name = true →
          name ∈ shadcnProfile.boundNames c.usedTypes) ↔
        ∀ entry ∈ page.renderings Bundled.catalogue shadcnProfile,
          entry.1.type = "Section" ∨ entry.1.type ∈ c.usedTypes) ∧
      (page.TextIds → page.SharedIdsAgree → ∀ name ∈ markupElements nodes,
        isComponentName name = true → name ∈ shadcnProfile.boundNames c.usedTypes) := by
  have hvisit := (compileAs_eq_ok.1 h).1
  obtain ⟨nodes, hnodes, hused, htext⟩ := fileText_eq_source shadcnProfile_follows.frame h
  rw [hused] at htext ⊢
  refine ⟨nodes, hnodes, htext, fun type htype => rendered_of_usedTypes hvisit htype,
    elements_bound_iff hnodes,
    fun ht ha => (elements_bound_iff hnodes).2 fun entry hentry => Or.inr ?_⟩
  exact ha.type_used ht hentry

/-- A badge. -/
def oneBadge : Node := { id := .text "x", type := "Badge" }

/-- A card of the same id. -/
def oneCard : Node := { id := .text "x", type := "Card", serial := 1 }

/-- A page with two nodes of one id and different types. -/
def twoOfOneId : Page := { id := "home", content := [oneBadge, oneCard] }

/-- The visit meets the badge only, so the card is written without an import. -/
theorem compiled_names_bound_twoOfOneId :
    ∃ c, twoOfOneId.compileAs Bundled.catalogue shadcnProfile "home".toList = .ok c ∧
      ∃ nodes, twoOfOneId.render Bundled.catalogue shadcnProfile twoOfOneId.content = .ok nodes ∧
        ¬∀ name ∈ markupElements nodes, isComponentName name = true →
          name ∈ shadcnProfile.boundNames c.usedTypes := by
  obtain ⟨c, hc⟩ := compileAs_ok shadcnProfile_isBundled (by decide : ∀ node ∈ twoOfOneId.stored,
    node.form?.isSome) "home".toList
  obtain ⟨nodes, hnodes, _, _, hiff, _⟩ := compiled_names_bound hc
  refine ⟨c, hc, nodes, hnodes, fun hbound => ?_⟩
  have hused : c.usedTypes = twoOfOneId.usedTypes Bundled.catalogue shadcnProfile := by
    obtain ⟨_, _, _, _, _, rfl⟩ := compileAs_eq_ok.1 hc
    rfl
  have hvisit : twoOfOneId.visitAll Bundled.catalogue shadcnProfile.supports = [oneBadge] := by
    have hf : oneBadge.form? = some (.text "x") := rfl
    have hf' : oneCard.form? = some (.text "x") := rfl
    rw [visitAll, twoOfOneId, visit_enter hf (by decide) (by decide)]
    rw [show children _ Bundled.catalogue oneBadge = [] from rfl, List.nil_append,
      visit_pass hf' (by simp), visit]
  have hcard : (oneCard, Framework.shadcn.layout .card) ∈
      twoOfOneId.renderings Bundled.catalogue shadcnProfile :=
    (mem_renderings_iff Bundled.settled).2
      ⟨rfl, [], _, .top (by simp [twoOfOneId]), rfl, List.not_mem_nil⟩
  rcases hiff.1 hbound _ hcard with h | h
  · exact absurd h (by decide)
  · rw [hused, mem_usedTypes, hvisit] at h
    exact absurd h (by decide)

end Page

end Pagewright
