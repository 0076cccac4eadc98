import Mathlib.Data.List.Nodup
import Mathlib.Data.List.Perm.Subperm
import Pagewright.Proofs.Notices

/-!
# Emission ends and cuts what contains itself

Emitting a node emits the nodes of its zones, which may lead back to it. `Page.Emits` says what
that comes to with nothing but the ids of the enclosing nodes in view: a node of one of these ids
is cut, any other one of a supported type is rendered with everything below it. It is a relation,
so it holds of an item only if emission ends with it.

The expansion of a page instead strikes each id that it enters from a finite list. Both agree on
every page, since what may be entered are the ids of the page without the enclosing ones
(`emits_iff_item`): so emission ends, with one result, whatever the zones lead to. Everything else
is read off the relation. Each node below the top is stored on the page, no id is entered inside
itself, and so no chain of nested nodes is longer than the number of ids there are
(`Descends.length_le`).
-/

namespace Pagewright

namespace Page

/-! ## Emission -/

mutual

/-- What emitting a node comes to inside nodes of the ids `above`. -/
inductive Emits (page : Page) (catalogue : Catalogue) (profile : Profile) :
    List ScalarForm → Node → Item → Prop where
  | unsupported {above : List ScalarForm} {node : Node} :
      profile.rule? node.type = none →
      Emits page catalogue profile above node (.unsupported node)
  | unusable {above : List ScalarForm} {node : Node} {layout : Layout} :
      profile.rule? node.type = some layout → node.form? = none →
      Emits page catalogue profile above node (.failed node .unusableId)
  | cut {above : List ScalarForm} {node : Node} {layout : Layout} {form : ScalarForm} :
      profile.rule? node.type = some layout → node.form? = some form → form ∈ above →
      Emits page catalogue profile above node (.cut node)
  | failed {above : List ScalarForm} {node : Node} {layout : Layout} {form : ScalarForm}
      {fault : EntryFault} :
      profile.rule? node.type = some layout → node.form? = some form → form ∉ above →
      catalogue.openFault? node.type node.props = some fault →
      Emits page catalogue profile above node (.failed node (.entries fault))
  | rendered {above : List ScalarForm} {node : Node} {layout : Layout} {form : ScalarForm}
      {zones : List (List Item)} :
      profile.rule? node.type = some layout → node.form? = some form → form ∉ above →
      catalogue.openFault? node.type node.props = none →
      EmitsZones page catalogue profile (form :: above) node.id.toText
        (catalogue.zoneNames node.type (catalogue.resolve node.type node.props)) zones →
      Emits page catalogue profile above node
        (.rendered node layout (catalogue.resolve node.type node.props) zones)

/-- What emitting nodes in order comes to. -/
inductive EmitsNodes (page : Page) (catalogue : Catalogue) (profile : Profile) :
    List ScalarForm → List Node → List Item → Prop where
  | nil {above : List ScalarForm} : EmitsNodes page catalogue profile above [] []
  | cons {above : List ScalarForm} {node : Node} {item : Item} {nodes : List Node}
      {items : List Item} :
      Emits page catalogue profile above node item →
      EmitsNodes page catalogue profile above nodes items →
      EmitsNodes page catalogue profile above (node :: nodes) (item :: items)

/-- What emitting the named zones of an owner comes to. -/
inductive EmitsZones (page : Page) (catalogue : Catalogue) (profile : Profile) :
    List ScalarForm → String → List String → List (List Item) → Prop where
  | nil {above : List ScalarForm} {owner : String} :
      EmitsZones page catalogue profile above owner [] []
  | cons {above : List ScalarForm} {owner name : String} {names : List String}
      {zone : List Item} {zones : List (List Item)} :
      EmitsNodes page catalogue profile above (page.zone owner name) zone →
      EmitsZones page catalogue profile above owner names zones →
      EmitsZones page catalogue profile above owner (name :: names) (zone :: zones)

end

variable {page : Page} {catalogue : Catalogue} {profile : Profile} {above : List ScalarForm}

/-- If each node comes to one item, nodes in order do. -/
theorem emitsNodes_iff {nodes : List Node} {become : Node → Item}
    (h : ∀ node ∈ nodes, ∀ item, Emits page catalogue profile above node item ↔
      item = become node) {items : List Item} :
    EmitsNodes page catalogue profile above nodes items ↔ items = nodes.map become := by
  induction nodes generalizing items with
  | nil =>
    constructor
    · intro hitems
      cases hitems
      rfl
    · rintro rfl
      exact .nil
  | cons node rest ih =>
    have hrest := @ih fun other hother => h other (List.mem_cons_of_mem _ hother)
    have hfirst := h node (List.mem_cons_self ..)
    constructor
    · intro hitems
      cases hitems with
      | cons hnode hnodes => rw [(hfirst _).1 hnode, hrest.1 hnodes, List.map_cons]
    · rintro rfl
      exact .cons ((hfirst _).2 rfl) (hrest.2 rfl)

/-- If the nodes of each zone come to one list of items, zones in order do. -/
theorem emitsZones_iff {owner : String} {names : List String} {become : String → List Item}
    (h : ∀ name zone, EmitsNodes page catalogue profile above (page.zone owner name) zone ↔
      zone = become name) {zones : List (List Item)} :
    EmitsZones page catalogue profile above owner names zones ↔ zones = names.map become := by
  induction names generalizing zones with
  | nil =>
    constructor
    · intro hzones
      cases hzones
      rfl
    · rintro rfl
      exact .nil
  | cons name rest ih =>
    constructor
    · intro hzones
      cases hzones with
      | cons hzone hrest => rw [(h _ _).1 hzone, ih.1 hrest, List.map_cons]
    · rintro rfl
      exact .cons ((h _ _).2 rfl) (ih.2 rfl)

/-- One step of an emission: a node comes to its item if its id may be entered exactly when no
enclosing node has it, and the nodes of its zones come to their expansion with the id struck. -/
theorem emits_iff_of_zones {enterable : List ScalarForm} {node : Node}
    (henterable : ∀ form, node.form? = some form → (form ∈ enterable ↔ form ∉ above))
    (hzones : ∀ form, form ∈ enterable → ∀ name zone,
      EmitsNodes page catalogue profile (form :: above) (page.zone node.id.toText name) zone ↔
        zone = page.expandWith catalogue profile (strike form enterable)
          (page.zone node.id.toText name)) {item : Item} :
    Emits page catalogue profile above node item ↔
      item = page.item catalogue profile enterable node := by
  constructor
  · intro hitem
    cases hitem with
    | unsupported hr => simp only [Page.item, hr]
    | unusable hr hf => simp only [Page.item, hr, hf]
    | cut hr hf hin =>
      have hm := mt (henterable _ hf).1 (not_not_intro hin)
      simp only [Page.item, hr, hf, if_neg hm]
    | failed hr hf hnew hopen =>
      have hm := (henterable _ hf).2 hnew
      simp only [Page.item, hr, hf, if_pos hm, hopen]
    | rendered hr hf hnew hopen hemits =>
      have hm := (henterable _ hf).2 hnew
      simp only [Page.item, hr, hf, if_pos hm, hopen]
      rw [(emitsZones_iff (hzones _ hm)).1 hemits]
  · rintro rfl
    cases hr : profile.rule? node.type with
    | none =>
      simp only [Page.item, hr]
      exact .unsupported hr
    | some layout =>
      cases hf : node.form? with
      | none =>
        simp only [Page.item, hr, hf]
        exact .unusable hr hf
      | some form =>
        by_cases hm : form ∈ enterable
        · have hnew := (henterable form hf).1 hm
          cases hopen : catalogue.openFault? node.type node.props with
          | some fault =>
            simp only [Page.item, hr, hf, if_pos hm, hopen]
            exact .failed hr hf hnew hopen
          | none =>
            simp only [Page.item, hr, hf, if_pos hm, hopen]
            exact .rendered hr hf hnew hopen ((emitsZones_iff (hzones form hm)).2 rfl)
        · have hin : form ∈ above := not_not.1 (mt (henterable form hf).2 hm)
          simp only [Page.item, hr, hf, if_neg hm]
          exact .cut hr hf hin

/-- **A node comes to its item** where the enterable ids are those of a list without the enclosing
ones, if the list has the ids of the page and of the node. -/
theorem emits_iff_item {known enterable : List ScalarForm} (hstored : page.storedForms ⊆ known)
    (henterable : ∀ form, form ∈ enterable ↔ form ∈ known ∧ form ∉ above) {node : Node}
    (hknown : ∀ form, node.form? = some form → form ∈ known) {item : Item} :
    Emits page catalogue profile above node item ↔
      item = page.item catalogue profile enterable node := by
  induction enterable using strike_induction generalizing above node item with
  | step enterable ih =>
    refine emits_iff_of_zones (fun form hf => ?_) fun form hm name zone => ?_
    · rw [henterable, and_iff_right (hknown form hf)]
    · -- the id of the node joins the enclosing ones, and its children are stored on the page
      rw [expandWith_eq_map]
      refine emitsNodes_iff fun child hchild other => ih form hm (fun id => ?_) fun id hid => ?_
      · rw [mem_strike, henterable, List.mem_cons, not_or, and_assoc, and_comm (b := id ≠ form)]
      · exact hstored (form_mem_storedForms (zoneAt_subset_stored _ hchild) hid)

/-- **Emission ends, with one result**: the expansion. -/
theorem emitsNodes_iff_expand {nodes : List Node} {items : List Item} :
    EmitsNodes page catalogue profile [] nodes items ↔
      items = page.expand catalogue profile nodes := by
  have hstored : page.storedForms ⊆ nodes.filterMap Node.form? ++ page.storedForms :=
    List.subset_append_right _ _
  rw [expand, expandWith_eq_map]
  refine emitsNodes_iff fun node hnode item => emits_iff_item hstored (fun form => ?_) ?_
  · exact (and_iff_left List.not_mem_nil).symm
  · exact fun form hform => List.mem_append_left _ (List.mem_filterMap.2 ⟨node, hnode, hform⟩)

theorem EmitsNodes.exists_of_mem {nodes : List Node} {items : List Item}
    (h : EmitsNodes page catalogue profile above nodes items) {item : Item} (hitem : item ∈ items) :
    ∃ node ∈ nodes, Emits page catalogue profile above node item := by
  induction nodes generalizing items with
  | nil =>
    cases h
    exact absurd hitem List.not_mem_nil
  | cons node rest ih =>
    cases h with
    | cons hnode hnodes =>
      rcases List.mem_cons.1 hitem with rfl | hitem
      · exact ⟨node, List.mem_cons_self .., hnode⟩
      · obtain ⟨other, hother, hemits⟩ := ih hnodes hitem
        exact ⟨other, List.mem_cons_of_mem _ hother, hemits⟩

theorem EmitsZones.exists_of_mem {owner : String} {names : List String} {zones : List (List Item)}
    (h : EmitsZones page catalogue profile above owner names zones) {zone : List Item}
    (hzone : zone ∈ zones) :
    ∃ name, EmitsNodes page catalogue profile above (page.zone owner name) zone := by
  induction names generalizing zones with
  | nil =>
    cases h
    exact absurd hzone List.not_mem_nil
  | cons name rest ih =>
    cases h with
    | cons hfirst hrest =>
      rcases List.mem_cons.1 hzone with rfl | hzone
      · exact ⟨name, hfirst⟩
      · exact ih hrest hzone

theorem Emits.node_eq {node : Node} {item : Item}
    (h : Emits page catalogue profile above node item) : item.node = node := by
  cases h <;> rfl

theorem Emits.ne_unsupported {node : Node} {item : Item}
    (h : Emits page catalogue profile above node item) (hs : profile.supports node.type = true) :
    item ≠ .unsupported node := by
  rintro rfl
  cases h with
  | unsupported hr =>
    rw [Profile.supports, hr] at hs
    cases hs

/-- **A node of a supported type is cut exactly inside a node of its id.** -/
theorem Emits.eq_cut_iff {node : Node} {item : Item} {form : ScalarForm}
    (h : Emits page catalogue profile above node item) (hs : profile.supports node.type = true)
    (hf : node.form? = some form) : item = .cut node ↔ form ∈ above := by
  cases h with
  | unsupported hr =>
    rw [Profile.supports, hr] at hs
    cases hs
  | unusable _ hf' =>
    rw [hf] at hf'
    cases hf'
  | cut _ hf' hin =>
    rw [Option.some.inj (hf.symm.trans hf')]
    exact iff_of_true rfl hin
  | failed _ hf' hnew _ =>
    rw [Option.some.inj (hf.symm.trans hf')]
    exact iff_of_false Item.noConfusion hnew
  | rendered _ hf' hnew _ _ =>
    rw [Option.some.inj (hf.symm.trans hf')]
    exact iff_of_false Item.noConfusion hnew

end Page

/-! ## Chains of nested nodes -/

/-- An item stands inside rendered nodes, the nearest first. -/
inductive Inside (items : List Item) : List Node → Item → Prop where
  | top {item : Item} : item ∈ items → Inside items [] item
  | zone {owners : List Node} {node : Node} {layout : Layout} {props : Props}
      {zones : List (List Item)} {zone : List Item} {item : Item} :
      Inside items owners (.rendered node layout props zones) → zone ∈ zones → item ∈ zone →
      Inside items (node :: owners) item

/-- A way down from nodes that are emitted: none of its owners has the id of another, and every
node but the first is stored on the page. -/
structure Descends (page : Page) (nodes owners : List Node) (above : List ScalarForm)
    (node : Node) : Prop where
  ids : owners.map Node.form? = above.map some
  nodup : above.Nodup
  first : ∃ lower top, node :: owners = lower ++ [top] ∧ top ∈ nodes ∧
    ∀ other ∈ lower, other ∈ page.stored

namespace Descends

variable {page : Page} {nodes owners : List Node} {above : List ScalarForm} {node : Node}

theorem mem_iff (h : Descends page nodes owners above node) {form : ScalarForm} :
    form ∈ above ↔ ∃ owner ∈ owners, owner.form? = some form := by
  rw [← List.mem_map (f := Node.form?), h.ids, List.mem_map]
  exact ⟨fun hin => ⟨form, hin, rfl⟩, fun ⟨_, hin, heq⟩ => Option.some.inj heq ▸ hin⟩

/-- **A way down is no longer than there are ids**, and at most one longer if it starts at a node
that is not stored on the page. -/
theorem length_le (h : Descends page nodes owners above node) {form : ScalarForm}
    (hf : node.form? = some form) (hnew : form ∉ above) :
    (form :: above).length ≤ (firstOccurrences page.storedForms).length + 1 ∧
      ((∀ top ∈ nodes, ∀ id, top.form? = some id → id ∈ page.storedForms) →
        (form :: above).length ≤ (firstOccurrences page.storedForms).length) := by
  obtain ⟨lower, top, hway, htop, hlower⟩ := h.first
  have hnodup : (form :: above).Nodup := List.nodup_cons.2 ⟨hnew, h.nodup⟩
  have hids : (lower ++ [top]).map Node.form? = (form :: above).map some := by
    rw [← hway, List.map_cons, hf, h.ids, List.map_cons]
  obtain ⟨id, _, hid⟩ : ∃ id ∈ form :: above, some id = top.form? := by
    rw [← List.mem_map, ← hids]
    exact List.mem_map_of_mem (List.mem_append_right _ (List.mem_singleton_self _))
  -- the id of a node on the way is that of the first one, or is stored
  have hmem : ∀ other ∈ form :: above, other = id ∨ other ∈ firstOccurrences page.storedForms := by
    intro other hother
    have hin : some other ∈ (lower ++ [top]).map Node.form? := by
      rw [hids]
      exact List.mem_map_of_mem hother
    obtain ⟨owner, howner, heq⟩ := List.mem_map.1 hin
    rcases List.mem_append.1 howner with howner | howner
    · exact Or.inr (mem_firstOccurrences.2 (Page.form_mem_storedForms (hlower owner howner) heq))
    · rw [List.mem_singleton.1 howner, ← hid] at heq
      exact Or.inl (Option.some.inj heq).symm
  constructor
  · exact (hnodup.subperm fun other hother => List.mem_cons.2 (hmem other hother)).length_le
  · intro hstored
    refine (hnodup.subperm fun other hother => ?_).length_le
    rcases hmem other hother with rfl | hin
    · exact mem_firstOccurrences.2 (hstored top htop other hid.symm)
    · exact hin

end Descends

namespace Inside

variable {page : Page} {catalogue : Catalogue} {profile : Profile} {nodes owners : List Node}

/-- **Every item stands at the end of a way down**, and is what its node comes to inside the ids of
that way. -/
theorem descends {items : List Item} {item : Item} (h : Inside items owners item)
    (hitems : page.EmitsNodes catalogue profile [] nodes items) :
    ∃ above, Descends page nodes owners above item.node ∧
      page.Emits catalogue profile above item.node item := by
  induction h with
  | @top item hitem =>
    obtain ⟨node, hnode, hemits⟩ := hitems.exists_of_mem hitem
    rw [hemits.node_eq]
    exact ⟨[], ⟨rfl, List.nodup_nil, [], node, rfl, hnode, nofun⟩, hemits⟩
  | @zone owners node layout props zones zone item _ hzone hitem ih =>
    obtain ⟨above, hdescends, hemits⟩ := ih
    rw [Item.node] at hdescends hemits
    -- only a node whose id is new to the way has zones
    cases hemits with
    | @rendered _ _ _ form _ _ hf hnew _ hzones =>
      obtain ⟨name, hnodes⟩ := hzones.exists_of_mem hzone
      obtain ⟨child, hchild, hitem⟩ := hnodes.exists_of_mem hitem
      obtain ⟨lower, top, hway, htop, hlower⟩ := hdescends.first
      rw [hitem.node_eq]
      refine ⟨form :: above, ⟨?_, List.nodup_cons.2 ⟨hnew, hdescends.nodup⟩, ?_⟩, hitem⟩
      · rw [List.map_cons, hdescends.ids, List.map_cons]
        exact congrArg (· :: above.map some) hf
      · refine ⟨child :: lower, top, congrArg (child :: ·) hway, htop, fun other hother => ?_⟩
        rcases List.mem_cons.1 hother with rfl | hother
        · exact Page.zoneAt_subset_stored _ hchild
        · exact hlower other hother

/-- What is met in an item stands inside what the item stands inside of. -/
theorem exists_of_mem_met {items : List Item} (item : Item) : ∀ {owners : List Node},
    Inside items owners item → ∀ last ∈ item.met, ∃ above, Inside items above last := by
  induction item using Item.induction with
  | rendered node layout props zones ih =>
    intro owners hinside last hlast
    rcases List.mem_cons.1 hlast with rfl | hlast
    · exact ⟨owners, hinside⟩
    · obtain ⟨zone, hzone, hlast⟩ := mem_zonesMet.1 hlast
      obtain ⟨item, hitem, hlast⟩ := mem_itemsMet.1 hlast
      exact ih zone hzone item hitem (.zone hinside hzone hitem) last hlast
  | leaf item hitem =>
    intro owners hinside last hlast
    rw [hitem, List.mem_singleton] at hlast
    rw [hlast]
    exact ⟨owners, hinside⟩

/-- The items that are met are those that stand inside some nodes. -/
theorem mem_itemsMet_iff {items : List Item} {item : Item} :
    item ∈ itemsMet items ↔ ∃ owners, Inside items owners item := by
  constructor
  · intro hmet
    obtain ⟨first, hfirst, hitem⟩ := mem_itemsMet.1 hmet
    exact exists_of_mem_met first (.top hfirst) item hitem
  · rintro ⟨owners, hinside⟩
    induction hinside with
    | @top item hitem => exact mem_itemsMet.2 ⟨item, hitem, item.mem_met_self⟩
    | @zone owners node layout props zones zone item _ hzone hitem ih =>
      obtain ⟨first, hfirst, hmet⟩ := mem_itemsMet.1 ih
      have hown := mem_itemsMet.2 ⟨item, hitem, item.mem_met_self⟩
      have hbelow : item ∈ (Item.rendered node layout props zones).met :=
        List.mem_cons_of_mem _ (mem_zonesMet.2 ⟨zone, hzone, hown⟩)
      exact mem_itemsMet.2 ⟨first, hfirst, first.met_subset_met hmet hbelow⟩

end Inside

/-- An item is passed over in silence or with a warning exactly if nothing is laid out for it. -/
theorem Item.layout_eq_nil_iff {item : Item} :
    item.layout = .ok [] ↔ item = .unsupported item.node ∨ item = .cut item.node := by
  cases item with
  | rendered node layout props zones =>
    refine iff_of_false (fun h => ?_) (by simp)
    obtain ⟨_, m, _, _, hnil⟩ := layout_rendered h
    exact absurd hnil (List.cons_ne_nil m []).symm
  | unsupported node => exact iff_of_true rfl (Or.inl rfl)
  | cut node => exact iff_of_true rfl (Or.inr rfl)
  | failed node fault => exact iff_of_false nofun (by simp)

/-- **Emission ends on every page and cuts exactly what contains itself.** Emitting nodes of a page
comes to one result, whatever its zones lead to. Along a chain of nested rendered nodes no id comes
twice, so it is no longer than there are ids on the page, but for a first node that is not stored
on it. Nothing is laid out for a node of a supported type exactly if it is cut, and it is cut
exactly if an enclosing node has its id. The warnings are about the cut nodes, one for each time
that one is met, up to the first node that cannot be laid out. -/
theorem Page.emission_cuts (page : Page) (catalogue : Catalogue) (profile : Profile)
    (nodes : List Node) :
    (∀ items, page.EmitsNodes catalogue profile [] nodes items ↔
        items = page.expand catalogue profile nodes) ∧
      (∀ owners node layout props zones,
        Inside (page.expand catalogue profile nodes) owners
          (.rendered node layout props zones) →
        ∃ ids : List ScalarForm, (node :: owners).map Node.form? = ids.map some ∧ ids.Nodup ∧
          ids.length ≤ (firstOccurrences page.storedForms).length + 1 ∧
          ((∀ top ∈ nodes, ∀ id, top.form? = some id → id ∈ page.storedForms) →
            ids.length ≤ (firstOccurrences page.storedForms).length)) ∧
      (∀ owners item, Inside (page.expand catalogue profile nodes) owners item →
        profile.supports item.node.type = true → ∀ id, item.node.form? = some id →
        (item.layout = .ok [] ↔ item = .cut item.node) ∧
          (item = .cut item.node ↔ ∃ owner ∈ owners, owner.form? = some id)) ∧
      (∀ item, item ∈ itemsMet (page.expand catalogue profile nodes) ↔
        ∃ owners, Inside (page.expand catalogue profile nodes) owners item) ∧
      (page.notices catalogue profile nodes).filter (fun notice => notice.level = .warning) <+:
        ((itemsMet (page.expand catalogue profile nodes)).filterMap Item.cut?).map
          (cutNotice page.id) ∧
      ∀ markup, page.render catalogue profile nodes = .ok markup →
        (page.notices catalogue profile nodes).filter (fun notice => notice.level = .warning) =
          ((itemsMet (page.expand catalogue profile nodes)).filterMap Item.cut?).map
            (cutNotice page.id) := by
  have hends : page.EmitsNodes catalogue profile [] nodes (page.expand catalogue profile nodes) :=
    emitsNodes_iff_expand.2 rfl
  refine ⟨fun _ => emitsNodes_iff_expand, ?_, ?_, fun _ => Inside.mem_itemsMet_iff, ?_, ?_⟩
  · intro owners node layout props zones hinside
    obtain ⟨above, hdescends, hemits⟩ := hinside.descends hends
    rw [Item.node] at hdescends hemits
    cases hemits with
    | @rendered _ _ _ form _ _ hf hnew _ _ =>
      refine ⟨form :: above, ?_, List.nodup_cons.2 ⟨hnew, hdescends.nodup⟩,
        hdescends.length_le hf hnew⟩
      rw [List.map_cons, hf, hdescends.ids, List.map_cons]
  · intro owners item hinside hsupports id hid
    obtain ⟨above, hdescends, hemits⟩ := hinside.descends hends
    have hdropped : item ≠ .unsupported item.node := hemits.ne_unsupported hsupports
    rw [Item.layout_eq_nil_iff, or_iff_right hdropped, ← hdescends.mem_iff]
    exact ⟨Iff.rfl, hemits.eq_cut_iff hsupports hid⟩
  · rw [← filter_warning]
    exact (itemNotices_prefix_met page.id _).filter _
  · intro markup hrender
    rw [notices, itemNotices_eq_met page.id _ hrender, filter_warning]

end Pagewright
