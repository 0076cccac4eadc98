import Pagewright.Proofs.Columns

/-!
# Resolving props early

The visit and the expansion of a page resolve the props of every node that they open. So it makes
no difference when the props are resolved: a page and the page with the resolved props of all its
nodes (`Page.resolved`) are visited and rendered alike, and compile to the same file. Resolving
once more changes nothing (`Catalogue.Steady`), which is all that both searches ask of it. They are
compared node by node, since a resolved node keeps its id, its type and its zones.
-/

namespace Pagewright

/-- The node with its props resolved. -/
def Node.resolved (catalogue : Catalogue) (node : Node) : Node :=
  { node with props := catalogue.resolve node.type node.props }

/-- The page with the props of all its nodes resolved. -/
def Page.resolved (page : Page) (catalogue : Catalogue) : Page :=
  page.mapNodes (Node.resolved catalogue)

namespace Page

variable {page : Page} {catalogue : Catalogue} {profile : Profile}

/-! ## What a resolved page stores -/

theorem zone_resolved (owner name : String) :
    (page.resolved catalogue).zone owner name =
      (page.zone owner name).map (Node.resolved catalogue) := by
  rw [zone, zone, zoneAt, zoneAt, resolved, mapNodes, lookup_map]
  cases page.zones.lookup (zoneKey owner name) <;> rfl

theorem stored_resolved :
    (page.resolved catalogue).stored = page.stored.map (Node.resolved catalogue) := by
  rw [stored, stored, resolved, mapNodes, List.map_append, List.flatMap_map, List.map_flatMap]

theorem storedForms_resolved :
    (page.resolved catalogue).storedForms = page.storedForms := by
  rw [storedForms, storedForms, stored_resolved, List.filterMap_map]
  rfl

/-! ## The visit of a resolved page -/

section Visit

variable (hc : catalogue.Steady)
include hc

theorem zoneNames_resolved (node : Node) :
    catalogue.zoneNames (node.resolved catalogue).type (node.resolved catalogue).props =
      catalogue.zoneNames node.type node.props :=
  hc.zoneNames_resolve node.type node.props

theorem children_resolved (node : Node) :
    (page.resolved catalogue).children catalogue (node.resolved catalogue) =
      (page.children catalogue node).map (Node.resolved catalogue) := by
  rw [children, children, childZones, childZones, zoneNames_resolved hc, List.flatMap_map,
    List.flatMap_map, List.map_flatMap]
  simp only [zone_resolved]
  rfl

/-- **A resolved page is visited like the page**, node by node. -/
theorem visit_resolved (keep : String → Bool) (unmet : List ScalarForm) (todo : List Node) :
    (page.resolved catalogue).visit catalogue keep unmet (todo.map (Node.resolved catalogue)) =
      (page.visit catalogue keep unmet todo).map (Node.resolved catalogue) := by
  induction unmet, todo using visit_induction page catalogue keep with
  | nil unmet => rw [List.map_nil, visit, visit, List.map_nil]
  | unusable unmet node rest hf ih =>
    have hf' : (node.resolved catalogue).form? = none := hf
    rw [List.map_cons, visit_unusable hf, visit_unusable hf', ih, List.map_cons]
  | enter unmet node rest form hf hu hk ih =>
    have hf' : (node.resolved catalogue).form? = some form := hf
    have hk' : keep (node.resolved catalogue).type = true := hk
    rw [List.map_append] at ih
    rw [List.map_cons, visit_enter hf hu hk, visit_enter hf' hu hk', children_resolved hc, ih,
      List.map_cons]
  | pass unmet node rest form hf hn ih =>
    have hf' : (node.resolved catalogue).form? = some form := hf
    have hn' : ¬(form ∈ unmet ∧ keep (node.resolved catalogue).type = true) := hn
    rw [List.map_cons, visit_pass hf hn, visit_pass hf' hn', ih]

theorem visitAll_resolved (keep : String → Bool) :
    (page.resolved catalogue).visitAll catalogue keep =
      (page.visitAll catalogue keep).map (Node.resolved catalogue) := by
  rw [visitAll, visitAll, storedForms_resolved]
  exact visit_resolved hc keep page.storedForms page.content

theorem orphanedZones_resolved :
    (page.resolved catalogue).orphanedZones catalogue = page.orphanedZones catalogue := by
  have hkeys : (page.resolved catalogue).zones.map Prod.fst = page.zones.map Prod.fst := by
    rw [resolved, mapNodes, List.map_map]
    rfl
  have howned : ∀ node : Node,
      ownedKeys catalogue (node.resolved catalogue) = ownedKeys catalogue node := by
    intro node
    rw [ownedKeys, ownedKeys, zoneNames_resolved hc]
    rfl
  have hreachable :
      (page.resolved catalogue).reachableZones catalogue = page.reachableZones catalogue := by
    rw [reachableZones, reachableZones, walk, walk, visitAll_resolved hc, List.flatMap_map]
    simp only [howned]
  rw [orphanedZones, orphanedZones, hkeys, hreachable]

theorem collectTypes_resolved (supports : String → Bool) :
    (page.resolved catalogue).collectTypes catalogue supports =
      page.collectTypes catalogue supports := by
  rw [collectTypes, collectTypes, visitAll_resolved hc, List.flatMap_map]
  rfl

theorem visitFault?_resolved (hs : catalogue.Settled) (keep : String → Bool) :
    (page.resolved catalogue).visitFault? catalogue keep = page.visitFault? catalogue keep := by
  have hnode : ∀ node : Node,
      nodeFault? catalogue (node.resolved catalogue) = nodeFault? catalogue node := by
    intro node
    rw [nodeFault?, nodeFault?, hs.zoneFault?_eq_none, hs.zoneFault?_eq_none]
    rfl
  rw [visitFault?, visitFault?, visitAll_resolved hc, List.findSome?_map]
  exact congrArg (List.findSome? · _) (funext hnode)

end Visit

/-! ## The rendering of a resolved page -/

/-- A framework sees of a node no more than its id. -/
theorem layout_eq_of_id {framework : Framework} {component : Component} {node other : Node}
    (h : node.id = other.id) :
    framework.layout component node = framework.layout component other := by
  funext props zones
  cases framework <;> cases component <;> simp only [Framework.layout, h]

section Rendering

variable (hc : catalogue.Steady) (hs : catalogue.Settled) {framework : Framework}
  (hf : profile.Follows framework)
include hc hs hf

/-- **A resolved page is laid out like the page**, node by node. -/
theorem layoutItems_resolved (enterable : List ScalarForm) (nodes : List Node) :
    layoutItems ((page.resolved catalogue).expandWith catalogue profile enterable
        (nodes.map (Node.resolved catalogue))) =
      layoutItems (page.expandWith catalogue profile enterable nodes) := by
  induction enterable using strike_induction generalizing nodes with
  | step enterable ih =>
    rw [expandWith_eq_map, expandWith_eq_map, List.map_map]
    refine layoutItems_congr fun node _ => ?_
    have htype : (node.resolved catalogue).type = node.type := rfl
    have hform : (node.resolved catalogue).form? = node.form? := rfl
    rw [Function.comp_apply]
    cases hr : profile.rule? node.type with
    | none => simp [item, htype, hr, Item.layout]
    | some layout =>
      cases hn : node.form? with
      | none => simp [item, htype, hform, hr, hn, Item.layout]
      | some form =>
        by_cases hm : form ∈ enterable
        · -- the props of both are the same, and so are the bodies of their zones
          have hprops : catalogue.resolve (node.resolved catalogue).type
              (node.resolved catalogue).props = catalogue.resolve node.type node.props :=
            hc.resolve_resolve node.type node.props
          have hzones : layoutZones ((catalogue.zoneNames node.type node.props).map
                fun name => (page.resolved catalogue).expandWith catalogue profile
                  (strike form enterable)
                  ((page.resolved catalogue).zone (node.resolved catalogue).id.toText name)) =
              layoutZones ((catalogue.zoneNames node.type node.props).map
                fun name => page.expandWith catalogue profile (strike form enterable)
                  (page.zone node.id.toText name)) := by
            refine layoutZones_congr fun name _ => ?_
            rw [zone_resolved]
            exact ih form hm _
          have hlayout : layout (node.resolved catalogue) = layout node := by
            obtain ⟨component, _, rfl⟩ := hf.rule?_eq_some.1 hr
            exact layout_eq_of_id rfl
          rw [item_rendered hs (htype ▸ hr) (hform ▸ hn) hm, item_rendered hs hr hn hm,
            Item.layout, Item.layout, zoneNames_resolved hc, hprops, hzones, hlayout]
        · simp [item, htype, hform, hr, hn, hm, Item.layout]

theorem render_resolved :
    (page.resolved catalogue).render catalogue profile (page.resolved catalogue).content =
      page.render catalogue profile page.content := by
  have hforms : (page.content.map (Node.resolved catalogue)).filterMap Node.form? =
      page.content.filterMap Node.form? := by
    rw [List.filterMap_map]
    rfl
  have hcontent : (page.resolved catalogue).content =
      page.content.map (Node.resolved catalogue) := rfl
  rw [render, render, expand, expand, storedForms_resolved, hcontent, hforms]
  exact layoutItems_resolved hc hs hf _ page.content

theorem compile_resolved (identifier : Option String) :
    (page.resolved catalogue).compile catalogue profile identifier =
      page.compile catalogue profile identifier := by
  have hsettings : (page.resolved catalogue).settings = page.settings := rfl
  have htypes : (page.resolved catalogue).usedTypes catalogue profile =
      page.usedTypes catalogue profile := collectTypes_resolved hc profile.supports
  exact compile_eq_of_parts hsettings (visitFault?_resolved hc hs profile.supports) htypes
    (render_resolved hc hs hf) identifier

end Rendering

/--
**Resolving props early or late makes no difference.**

The page with resolved props is walked in the same order, has the same orphaned zones, uses the
same types and compiles to the same file, or with the same fault. A section has the number of
columns that its resolved props ask for, resolved once or twice: it owns as many zones, is rendered
with as many cells, and says so in its markup.
-/
theorem resolved_alike (hb : profile.IsBundled) (page : Page) :
    ((page.resolved Bundled.catalogue).walk Bundled.catalogue).map Node.id =
        (page.walk Bundled.catalogue).map Node.id ∧
      (page.resolved Bundled.catalogue).orphanedZones Bundled.catalogue =
        page.orphanedZones Bundled.catalogue ∧
      (∀ supports, (page.resolved Bundled.catalogue).collectTypes Bundled.catalogue supports =
        page.collectTypes Bundled.catalogue supports) ∧
      (∀ identifier,
        (page.resolved Bundled.catalogue).compile Bundled.catalogue profile identifier =
          page.compile Bundled.catalogue profile identifier) ∧
      ∀ node : Node, node.type = "Section" →
        (node.resolved Bundled.catalogue).columns = node.columns ∧
          page.HasColumns profile node node.columns := by
  obtain ⟨framework, hf⟩ := hb.follows
  refine ⟨?_, orphanedZones_resolved Bundled.steady, collectTypes_resolved Bundled.steady,
    compile_resolved Bundled.steady Bundled.settled hf,
    fun node ht => ⟨?_, hasColumns_section hb ht⟩⟩
  · rw [walk, walk, visitAll_resolved Bundled.steady, List.map_map]
    rfl
  · exact congrArg columnCount (Bundled.steady.resolve_resolve node.type node.props)

/-- A section whose number of columns is written with a fraction. -/
def fractional : Node where
  id := .text "s"
  type := "Section"
  props := [(.text "columns", .text " 2.9 ")]

/-- A page with the section and a badge in its second column; a third one is orphaned. -/
def fractionalPage : Page where
  id := "home"
  content := [fractional]
  zones := [("s:col-1", [{ id := .text "b", type := "Badge" }]), ("s:col-2", [])]

/-- The section has two columns, and the page compiles alike with the number written out. -/
theorem resolved_alike_fractional :
    shadcnProfile.IsBundled ∧ fractional.columns = 2 ∧
      (fractionalPage.childZones Bundled.catalogue fractional).map Prod.fst = ["col-0", "col-1"] ∧
      fractionalPage.HasColumns shadcnProfile fractional fractional.columns ∧
      (fractionalPage.resolved Bundled.catalogue).compile Bundled.catalogue shadcnProfile none =
        fractionalPage.compile Bundled.catalogue shadcnProfile none := by
  have hcolumns : fractional.columns = 2 := by decide +kernel
  obtain ⟨_, _, _, hcompile, hsections⟩ := resolved_alike shadcnProfile_isBundled fractionalPage
  have hhas := (hsections fractional rfl).2
  refine ⟨shadcnProfile_isBundled, hcolumns, ?_, hhas, hcompile none⟩
  rw [hhas.zones, hcolumns]
  rfl

end Page

end Pagewright
