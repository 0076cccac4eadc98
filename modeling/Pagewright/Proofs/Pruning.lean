import Pagewright.Proofs.Compiling

/-!
# Nodes without a rule are invisible

A profile that has no rule for a type drops the nodes of that type, wherever they stand. So a page
and the page without these nodes (`Page.pruned`) have the same file, for every catalogue, every
profile and every zone map. The layouts of the profile may be any functions, and so may its frame
and the zones that the catalogue resolves.

Both searches are compared node by node. The visit passes a dropped node over without meeting its
id, so the nodes behind it find the same ids unmet; the only ids that differ between the two pages
are those that nothing but dropped nodes has, and no kept node ever asks for one of these. The
expansion lists a dropped node as an item of its own, which is left out of the tree (`keptItems`)
and adds nothing to the markup.
-/

namespace Pagewright

open Pagewright.Markup

variable {catalogue : Catalogue} {profile : Profile}

/-- The page without the nodes that a profile has no rule for. Every zone keeps its address. -/
def Page.pruned (page : Page) (profile : Profile) : Page :=
  { page with
    content := page.content.filter profile.shows
    zones := page.zones.map fun zone => (zone.1, zone.2.filter profile.shows) }

/-! ## What a pruned page stores -/

namespace Page

variable {page : Page}

theorem zoneAt_pruned (key : String) :
    (page.pruned profile).zoneAt key = (page.zoneAt key).filter profile.shows := by
  rw [zoneAt, zoneAt, pruned, lookup_map]
  cases page.zones.lookup key <;> rfl

theorem zone_pruned (owner name : String) :
    (page.pruned profile).zone owner name = (page.zone owner name).filter profile.shows :=
  zoneAt_pruned _

theorem children_pruned (node : Node) :
    (page.pruned profile).children catalogue node =
      (page.children catalogue node).filter profile.shows := by
  rw [children, children, childZones, childZones, List.flatMap_map, List.flatMap_map,
    List.filter_flatMap]
  simp only [zone_pruned]

theorem stored_pruned : (page.pruned profile).stored = page.stored.filter profile.shows := by
  rw [stored, stored, pruned, List.filter_append, List.flatMap_map, List.filter_flatMap]

/-- The ids of kept nodes are stored on both pages. -/
theorem form_mem_storedForms_pruned {node : Node} {form : ScalarForm} (h : node ∈ page.stored)
    (hs : profile.shows node = true) (hf : node.form? = some form) :
    form ∈ (page.pruned profile).storedForms := by
  have hkept : node ∈ (page.pruned profile).stored := by
    rw [stored_pruned]
    exact List.mem_filter.2 ⟨h, hs⟩
  exact form_mem_storedForms hkept hf

/-! ## The visit of a pruned page -/

/-- **A pruned page is visited like the page**, from corresponding nodes and with the same ids of
kept nodes unmet. -/
theorem visit_pruned {unmet unmet' : List ScalarForm} {todo : List Node}
    (hids : ∀ node ∈ page.stored, profile.shows node = false → node.form?.isSome)
    (htodo : todo ⊆ page.stored)
    (hunmet : ∀ node ∈ page.stored, profile.shows node = true → ∀ form, node.form? = some form →
      (form ∈ unmet' ↔ form ∈ unmet)) :
    (page.pruned profile).visit catalogue profile.supports unmet' (todo.filter profile.shows) =
      page.visit catalogue profile.supports unmet todo := by
  induction unmet, todo using visit_induction page catalogue profile.supports
    generalizing unmet' with
  | nil unmet => rw [List.filter_nil, visit, visit]
  | unusable unmet node rest hf ih =>
    obtain ⟨hnode, hrest⟩ := List.cons_subset.1 htodo
    by_cases hs : profile.shows node = true
    · rw [List.filter_cons_of_pos hs, visit_unusable hf, visit_unusable hf, ih hrest hunmet]
    · -- the visit stops at such a node even though it does not keep it
      have husable := hids node hnode (by simpa using hs)
      rw [hf] at husable
      contradiction
  | enter unmet node rest form hf hu hk ih =>
    obtain ⟨hnode, hrest⟩ := List.cons_subset.1 htodo
    have hs : profile.shows node = true := hk
    have hu' : form ∈ unmet' := (hunmet node hnode hs form hf).2 hu
    rw [List.filter_cons_of_pos hs, visit_enter hf hu' hk, visit_enter hf hu hk, children_pruned,
      ← List.filter_append]
    refine congrArg _ (ih (List.append_subset.2 ⟨children_subset_stored node, hrest⟩) ?_)
    intro later hlater hs form' hf'
    rw [mem_strike, mem_strike, hunmet later hlater hs form' hf']
  | pass unmet node rest form hf hn ih =>
    obtain ⟨hnode, hrest⟩ := List.cons_subset.1 htodo
    rw [visit_pass hf hn]
    by_cases hs : profile.shows node = true
    · have hiff := hunmet node hnode hs form hf
      rw [List.filter_cons_of_pos hs, visit_pass hf fun h => hn ⟨hiff.1 h.1, h.2⟩]
      exact ih hrest hunmet
    · rw [List.filter_cons_of_neg hs]
      exact ih hrest hunmet

theorem visitAll_pruned
    (hids : ∀ node ∈ page.stored, profile.shows node = false → node.form?.isSome) :
    (page.pruned profile).visitAll catalogue profile.supports =
      page.visitAll catalogue profile.supports := by
  refine visit_pruned hids content_subset_stored fun node hnode hs form hf => ?_
  exact iff_of_true (form_mem_storedForms_pruned hnode hs hf) (form_mem_storedForms hnode hf)

end Page

/-! ## Items without dropped nodes -/

mutual

/-- The item without the dropped nodes that are met in its zones. -/
def Item.kept : Item → Item
  | .rendered node layout props zones => .rendered node layout props (keptZones zones)
  | .unsupported node => .unsupported node
  | .cut node => .cut node
  | .failed node fault => .failed node fault

/-- A sequence of items without dropped nodes. -/
def keptItems : List Item → List Item
  | [] => []
  | item :: rest =>
    if item.dropped?.isSome then keptItems rest else item.kept :: keptItems rest

/-- Zones without dropped nodes. -/
def keptZones : List (List Item) → List (List Item)
  | [] => []
  | zone :: rest => keptItems zone :: keptZones rest

end

theorem keptZones_eq_map (zones : List (List Item)) : keptZones zones = zones.map keptItems := by
  induction zones with
  | nil => rfl
  | cons zone rest ih => rw [keptZones, List.map_cons, ih]

mutual

/-- Dropped nodes add nothing to the markup of an item. -/
theorem Item.layout_kept : ∀ item : Item, item.kept.layout = item.layout
  | .rendered _ _ _ zones => by
    rw [Item.kept, Item.layout, Item.layout, layoutZones_kept zones]
  | .unsupported _ => rfl
  | .cut _ => rfl
  | .failed _ _ => rfl

theorem layoutItems_kept : ∀ items : List Item, layoutItems (keptItems items) = layoutItems items
  | [] => rfl
  | .unsupported node :: rest => by
    have hrest := layoutItems_kept rest
    have hskip : keptItems (.unsupported node :: rest) = keptItems rest := by
      rw [keptItems, Item.dropped?, Option.isSome_some, if_pos rfl]
    rw [hskip, hrest, layoutItems]
    -- the markup of the dropped node is empty, and what follows is laid out as before
    cases layoutItems rest <;> rfl
  | .rendered node layout props zones :: rest => by
    have hitem := Item.layout_kept (.rendered node layout props zones)
    rw [keptItems, if_neg (by simp [Item.dropped?]), layoutItems, layoutItems, hitem,
      layoutItems_kept rest]
  | .cut _ :: rest => by
    rw [keptItems, if_neg (by simp [Item.dropped?]), layoutItems, layoutItems,
      layoutItems_kept rest]
    rfl
  | .failed _ _ :: rest => by
    rw [keptItems, if_neg (by simp [Item.dropped?]), layoutItems, layoutItems,
      layoutItems_kept rest]
    rfl

theorem layoutZones_kept :
    ∀ zones : List (List Item), layoutZones (keptZones zones) = layoutZones zones
  | [] => rfl
  | zone :: rest => by
    rw [keptZones, layoutZones, layoutZones, layoutItems_kept zone, layoutZones_kept rest]

end

/-! ## The expansion of a pruned page -/

namespace Page

variable {page : Page}

/-- The items of nodes without dropped ones are those of the kept nodes. -/
theorem keptItems_map_item (enterable : List ScalarForm) (nodes : List Node) :
    keptItems (nodes.map (page.item catalogue profile enterable)) =
      (nodes.filter profile.shows).map fun node =>
        (page.item catalogue profile enterable node).kept := by
  induction nodes with
  | nil => rfl
  | cons node rest ih =>
    rw [List.map_cons, keptItems, dropped?_item, ih]
    by_cases hs : profile.shows node = true
    · rw [List.filter_cons_of_pos hs, if_pos hs, List.map_cons]
      rfl
    · rw [List.filter_cons_of_neg hs, if_neg hs]
      rfl

/-- **A pruned page expands like the page**, to the same tree without its dropped nodes. -/
theorem expandWith_pruned {enterable enterable' : List ScalarForm} {nodes : List Node}
    (hnodes : nodes ⊆ page.stored)
    (henterable : ∀ node ∈ page.stored, profile.shows node = true → ∀ form,
      node.form? = some form → (form ∈ enterable' ↔ form ∈ enterable)) :
    (page.pruned profile).expandWith catalogue profile enterable' (nodes.filter profile.shows) =
      keptItems (page.expandWith catalogue profile enterable nodes) := by
  induction enterable using strike_induction generalizing enterable' nodes with
  | step enterable ih =>
    rw [expandWith_eq_map, expandWith_eq_map, keptItems_map_item]
    refine List.map_congr_left fun node hnode => ?_
    obtain ⟨hnode, hs⟩ := List.mem_filter.1 hnode
    have hstored := hnodes hnode
    cases hr : profile.rule? node.type with
    | none => simp [item, hr, Item.kept]
    | some layout =>
      cases hf : node.form? with
      | none => simp [item, hr, hf, Item.kept]
      | some form =>
        have hiff := henterable node hstored hs form hf
        by_cases hm : form ∈ enterable
        · cases ho : catalogue.openFault? node.type node.props with
          | some fault => simp [item, hr, hf, hm, hiff, ho, Item.kept]
          | none =>
            simp only [item, hr, hf, hm, hiff, ho, if_true, Item.kept, keptZones_eq_map,
              List.map_map]
            refine congrArg _ (List.map_congr_left fun name _ => ?_)
            rw [zone_pruned]
            refine ih form hm (zoneAt_subset_stored _) fun later hlater hs' form' hf' => ?_
            rw [mem_strike, mem_strike, henterable later hlater hs' form' hf']
        · simp [item, hr, hf, hm, hiff, Item.kept]

theorem expand_pruned :
    (page.pruned profile).expand catalogue profile (page.pruned profile).content =
      keptItems (page.expand catalogue profile page.content) := by
  refine expandWith_pruned content_subset_stored fun node hnode hs form hf => ?_
  rw [List.mem_append, List.mem_append]
  exact iff_of_true (Or.inr (form_mem_storedForms_pruned hnode hs hf))
    (Or.inr (form_mem_storedForms hnode hf))

theorem render_pruned :
    (page.pruned profile).render catalogue profile (page.pruned profile).content =
      page.render catalogue profile page.content := by
  rw [render, render, expand_pruned, layoutItems_kept]

/--
**Nodes without a rule are invisible.** The page without them compiles to the same file, or with
the same fault.

An id that cannot be looked up stops the visit even at a node that is passed over, so dropped nodes
have to have ids that can be; every text is one.
-/
theorem compile_pruned
    (hids : ∀ node ∈ page.stored, profile.supports node.type = false → node.form?.isSome)
    (identifier : Option String) :
    (page.pruned profile).compile catalogue profile identifier =
      page.compile catalogue profile identifier := by
  have hsettings : (page.pruned profile).settings = page.settings := rfl
  exact compile_congr hsettings (visitAll_pruned hids) render_pruned identifier

/-- A catalogue that knows boxes, which hold others. -/
def boxCatalogue : Catalogue where
  schemas := [
    { type := "Box", category := "Boxes", defaults := [], fields := [],
      zones := some fun _ => ["inside"] }]
  root := Bundled.page
  distinct := by decide

/-- A target that writes a box as brackets around what is in it, and a blank as nothing. -/
def boxProfile : Profile where
  name := "boxes"
  label := "Boxes"
  extension := ".txt"
  rules := [("Box", .ofText fun _ _ zones => .ok ('[' :: zones.flatten ++ [']'])),
    ("Blank", .ofText fun _ _ _ => .ok [])]
  frame := fun _ _ _ nodes => .ok (markupText nodes)

/-- A box that is stored in its own zone. -/
def host : Node := { id := .text "a", type := "Box" }

/-- A node of the id of the box and of a type without a rule. -/
def stranger : Node := { id := .text "a", type := "Carousel" }

/-- A node that is rendered and writes nothing. -/
def blank : Node := { id := .text "b", type := "Blank" }

/-- A page with strangers in front of the box and between the blanks in it. -/
def crowded : Page where
  id := "home"
  content := [stranger, host]
  zones := [("a:inside", [blank, stranger, host, blank])]

theorem render_crowded :
    crowded.render boxCatalogue boxProfile crowded.content = .ok [.verbatim "[]".toList] := by
  rw [render, expand, expandWith_eq_map]
  show layoutItems [.unsupported stranger, .rendered host _ _ [expandWith _ _ _ _ _]] = _
  rw [expandWith_eq_map]
  rfl

/-- Without the strangers the page compiles as before, although they share the zones of the
box: to brackets around nothing, since blanks take no line. -/
theorem compile_pruned_crowded :
    (crowded.pruned boxProfile).content = [host] ∧
      (crowded.pruned boxProfile).compile boxCatalogue boxProfile none =
        crowded.compile boxCatalogue boxProfile none ∧
      ∃ c, crowded.compile boxCatalogue boxProfile none = .ok c ∧ c.fileText = "[]\n" := by
  have hids : ∀ node ∈ crowded.stored, boxProfile.supports node.type = false →
      node.form?.isSome := by decide
  have hvisit : crowded.visitFault? boxCatalogue boxProfile.supports = none := by
    have hstored : ∀ node ∈ crowded.stored, nodeFault? boxCatalogue node = none := by decide
    rw [visitFault?, List.findSome?_eq_none_iff]
    exact fun node hnode => hstored node (visitAll_subset_stored hnode)
  refine ⟨rfl, compile_pruned hids none, ?_⟩
  exact ⟨_, compileAs_eq_ok.2 ⟨hvisit, _, _, render_crowded, rfl, rfl⟩, rfl⟩

end Page

end Pagewright
