import Pagewright.Proofs.Conforming
import Pagewright.Proofs.Walk
import Pagewright.Rendering.Expansion

/-!
# What an expansion meets

An expansion follows every path and cuts only at an id that encloses it. `Item.met` lists what it
meets, in the order in which it enters: rendered nodes, and those that are dropped, cut or failing.
Each of these ends a way down the page whose owners all have a rule, and it is the item of its node
with the ids of that way closed: `mem_met_iff`. So what is met of a node, and what becomes of it,
is decided by the ways that lead to it. A node is rendered exactly when one of them does not hold
its id (`mem_renderings_iff`). The walk strikes ids for good and the expansion gives them back when
it leaves a node; ways down are what both have in common.

The two directions of `mem_met_iff` use one invariant of the enterable ids: they are the stored ids
without those of the way to the nodes at hand (`mem_openForms`).
-/

namespace Pagewright

/-! ## What is met in an item -/

mutual

/-- The items that are met in an item, in the order in which they are entered, itself first. -/
def Item.met : Item → List Item
  | .rendered node layout props zones =>
    .rendered node layout props zones :: zonesMet zones
  | .unsupported node => [.unsupported node]
  | .cut node => [.cut node]
  | .failed node fault => [.failed node fault]

/-- The items that are met in a sequence of items. -/
def itemsMet : List Item → List Item
  | [] => []
  | item :: rest => item.met ++ itemsMet rest

/-- The items that are met in zones. -/
def zonesMet : List (List Item) → List Item
  | [] => []
  | zone :: rest => itemsMet zone ++ zonesMet rest

end

theorem itemsMet_eq_flatMap (items : List Item) : itemsMet items = items.flatMap Item.met := by
  induction items with
  | nil => rfl
  | cons item rest ih => rw [itemsMet, ih, List.flatMap_cons]

theorem zonesMet_eq_flatMap (zones : List (List Item)) :
    zonesMet zones = zones.flatMap itemsMet := by
  induction zones with
  | nil => rfl
  | cons zone rest ih => rw [zonesMet, ih, List.flatMap_cons]

theorem mem_itemsMet {items : List Item} {last : Item} :
    last ∈ itemsMet items ↔ ∃ item ∈ items, last ∈ item.met := by
  rw [itemsMet_eq_flatMap]
  exact List.mem_flatMap

theorem mem_zonesMet {zones : List (List Item)} {last : Item} :
    last ∈ zonesMet zones ↔ ∃ zone ∈ zones, last ∈ itemsMet zone := by
  rw [zonesMet_eq_flatMap]
  exact List.mem_flatMap

theorem Item.mem_met_self (item : Item) : item ∈ item.met := by
  cases item <;> simp [Item.met]

/-- **Induction along an item**: what holds of a rendered item as soon as it holds of the items in
its zones, and of every item in which nothing else is met, holds of all items. -/
theorem Item.induction {motive : Item → Prop}
    (rendered : ∀ node layout props zones, (∀ zone ∈ zones, ∀ item ∈ zone, motive item) →
      motive (.rendered node layout props zones))
    (leaf : ∀ item : Item, item.met = [item] → motive item) : ∀ item, motive item
  | .rendered node layout props zones => rendered node layout props zones
      fun zone hzone item hitem =>
        have := List.sizeOf_lt_of_mem hzone
        have := List.sizeOf_lt_of_mem hitem
        Item.induction rendered leaf item
  | .unsupported node => leaf (.unsupported node) rfl
  | .cut node => leaf (.cut node) rfl
  | .failed node fault => leaf (.failed node fault) rfl
termination_by item => sizeOf item
decreasing_by
  simp only [Item.rendered.sizeOf_spec]
  omega

/-- What is met in an item that is met is met. -/
theorem Item.met_subset_met (item : Item) :
    ∀ {mid : Item}, mid ∈ item.met → mid.met ⊆ item.met := by
  induction item using Item.induction with
  | rendered node layout props zones ih =>
    intro mid hmid last hlast
    rcases List.mem_cons.1 hmid with rfl | hmid
    · exact hlast
    · obtain ⟨zone, hzone, hmid⟩ := mem_zonesMet.1 hmid
      obtain ⟨item, hitem, hmid⟩ := mem_itemsMet.1 hmid
      have hmet := mem_itemsMet.2 ⟨item, hitem, ih zone hzone item hitem hmid hlast⟩
      exact List.mem_cons_of_mem _ (mem_zonesMet.2 ⟨zone, hzone, hmet⟩)
  | leaf item hitem =>
    intro mid hmid
    rw [hitem, List.mem_singleton] at hmid
    rw [hmid]
    exact List.Subset.refl _

/-- The node that an item is about. -/
def Item.node : Item → Node
  | .rendered node _ _ _ => node
  | .unsupported node => node
  | .cut node => node
  | .failed node _ => node

/-- The node that an item drops, because the profile has no rule for it. -/
def Item.dropped? : Item → Option Node
  | .unsupported node => some node
  | _ => none

/-! ## The renderings of an item -/

mutual

/-- The renderings in an item, in the order in which they are entered: which node, by which
layout. -/
def Item.renderings : Item → List (Node × Layout)
  | .rendered node layout _ zones => (node, layout) :: zoneRenderings zones
  | .unsupported _ => []
  | .cut _ => []
  | .failed _ _ => []

/-- The renderings in a sequence of items. -/
def itemRenderings : List Item → List (Node × Layout)
  | [] => []
  | item :: rest => item.renderings ++ itemRenderings rest

/-- The renderings in zones. -/
def zoneRenderings : List (List Item) → List (Node × Layout)
  | [] => []
  | zone :: rest => itemRenderings zone ++ zoneRenderings rest

end

theorem mem_itemRenderings {items : List Item} {entry : Node × Layout} :
    entry ∈ itemRenderings items ↔ ∃ item ∈ items, entry ∈ item.renderings := by
  induction items with
  | nil => simp [itemRenderings]
  | cons item rest ih => simp [itemRenderings, ih]

theorem mem_zoneRenderings {zones : List (List Item)} {entry : Node × Layout} :
    entry ∈ zoneRenderings zones ↔ ∃ zone ∈ zones, entry ∈ itemRenderings zone := by
  induction zones with
  | nil => simp [zoneRenderings]
  | cons zone rest ih => simp [zoneRenderings, ih]

/-- The rendering that an item itself is. -/
def Item.rendering? : Item → Option (Node × Layout)
  | .rendered node layout _ _ => some (node, layout)
  | _ => none

mutual

/-- The renderings in an item are those among the items that are met in it. -/
theorem Item.renderings_eq_met :
    ∀ item : Item, item.renderings = item.met.filterMap Item.rendering?
  | .rendered _ _ _ zones => by
    rw [Item.renderings, Item.met, zoneRenderings_eq_met zones]
    rfl
  | .unsupported _ => rfl
  | .cut _ => rfl
  | .failed _ _ => rfl

theorem itemRenderings_eq_met :
    ∀ items : List Item, itemRenderings items = (itemsMet items).filterMap Item.rendering?
  | [] => rfl
  | item :: rest => by
    rw [itemRenderings, itemsMet, List.filterMap_append, item.renderings_eq_met,
      itemRenderings_eq_met rest]

theorem zoneRenderings_eq_met :
    ∀ zones : List (List Item), zoneRenderings zones = (zonesMet zones).filterMap Item.rendering?
  | [] => rfl
  | zone :: rest => by
    rw [zoneRenderings, zonesMet, List.filterMap_append, itemRenderings_eq_met zone,
      zoneRenderings_eq_met rest]

end

theorem Profile.supports_of_rule? {profile : Profile} {type : String} {layout : Layout}
    (h : profile.rule? type = some layout) : profile.supports type = true := by
  rw [Profile.supports, h]
  rfl

/-- Can the profile render the node? -/
def Profile.shows (profile : Profile) (node : Node) : Bool := profile.supports node.type

namespace Page

variable {page : Page} {catalogue : Catalogue} {profile : Profile}

/-! ## The expansion of one node -/

/-- What becomes of one node, where only nodes of the `enterable` ids may be entered. -/
def item (page : Page) (catalogue : Catalogue) (profile : Profile)
    (enterable : List ScalarForm) (node : Node) : Item :=
  match profile.rule? node.type, node.form? with
  | none, _ => .unsupported node
  | some _, none => .failed node .unusableId
  | some layout, some form =>
    if form ∈ enterable then
      match catalogue.openFault? node.type node.props with
      | some fault => .failed node (.entries fault)
      | none =>
        let props := catalogue.resolve node.type node.props
        .rendered node layout props
          ((catalogue.zoneNames node.type props).map fun name =>
            page.expandWith catalogue profile (strike form enterable)
              (page.zone node.id.toText name))
    else .cut node

/-- Nodes expand one by one. -/
theorem expandWith_eq_map (enterable : List ScalarForm) (nodes : List Node) :
    page.expandWith catalogue profile enterable nodes =
      nodes.map (page.item catalogue profile enterable) := by
  induction nodes with
  | nil => rw [expandWith]; rfl
  | cons node rest ih =>
    rw [expandWith, ih, List.map_cons]
    congr 1

/-- The rendering of a node in a catalogue whose components can always be opened. -/
theorem item_rendered (hs : catalogue.Settled) {enterable : List ScalarForm} {node : Node}
    {layout : Layout} {form : ScalarForm} (hr : profile.rule? node.type = some layout)
    (hf : node.form? = some form) (hm : form ∈ enterable) :
    page.item catalogue profile enterable node =
      .rendered node layout (catalogue.resolve node.type node.props)
        ((catalogue.zoneNames node.type node.props).map fun name =>
          page.expandWith catalogue profile (strike form enterable)
            (page.zone node.id.toText name)) := by
  simp only [item, hr, hf, if_pos hm, hs.faultless, hs.zones]

/-- A node is entered, or its item holds nothing further. -/
theorem item_cases (page : Page) (catalogue : Catalogue) (profile : Profile)
    (enterable : List ScalarForm) (node : Node) :
    (∃ layout form, profile.rule? node.type = some layout ∧ node.form? = some form ∧
      form ∈ enterable) ∨
    page.item catalogue profile enterable node = .unsupported node ∨
    page.item catalogue profile enterable node = .cut node ∨
    node.form? = none ∧ page.item catalogue profile enterable node = .failed node .unusableId := by
  cases hr : profile.rule? node.type with
  | none => exact Or.inr (Or.inl (by simp [item, hr]))
  | some layout =>
    cases hf : node.form? with
    | none => exact Or.inr (Or.inr (Or.inr ⟨rfl, by simp [item, hr, hf]⟩))
    | some form =>
      by_cases hm : form ∈ enterable
      · exact Or.inl ⟨layout, form, rfl, rfl, hm⟩
      · exact Or.inr (Or.inr (Or.inl (by simp [item, hr, hf, hm])))

/-- A node that is rendered may be entered, and its zones expand with its id struck. -/
theorem eq_of_item_eq_rendered (hs : catalogue.Settled) {enterable : List ScalarForm}
    {node own : Node} {layout : Layout} {props : Props} {zones : List (List Item)}
    (h : page.item catalogue profile enterable node = .rendered own layout props zones) :
    own = node ∧ profile.rule? node.type = some layout ∧
      props = catalogue.resolve node.type node.props ∧
      ∃ form, node.form? = some form ∧ form ∈ enterable ∧
        zones = (catalogue.zoneNames node.type node.props).map fun name =>
          page.expandWith catalogue profile (strike form enterable)
            (page.zone node.id.toText name) := by
  rcases item_cases page catalogue profile enterable node with
    ⟨layout', form, hr, hf, hm⟩ | heq | heq | ⟨_, heq⟩
  · rw [item_rendered hs hr hf hm] at h
    obtain ⟨rfl, rfl, rfl, rfl⟩ := Item.rendered.inj h
    exact ⟨rfl, hr, rfl, form, hf, hm, rfl⟩
  · rw [heq] at h
    contradiction
  · rw [heq] at h
    contradiction
  · rw [heq] at h
    contradiction

/-- An item renders nothing but its node and what stands in the zones of its node. -/
theorem mem_renderings_item (hs : catalogue.Settled) {enterable : List ScalarForm} {node : Node}
    {entry : Node × Layout}
    (h : entry ∈ (page.item catalogue profile enterable node).renderings) :
    ∃ layout form, profile.rule? node.type = some layout ∧ node.form? = some form ∧
      form ∈ enterable ∧
      (entry = (node, layout) ∨ ∃ name ∈ catalogue.zoneNames node.type node.props,
        entry ∈ itemRenderings (page.expandWith catalogue profile (strike form enterable)
          (page.zone node.id.toText name))) := by
  rcases item_cases page catalogue profile enterable node with
    ⟨layout, form, hr, hf, hm⟩ | heq | heq | ⟨_, heq⟩
  · rw [item_rendered hs hr hf hm, Item.renderings] at h
    refine ⟨layout, form, hr, hf, hm, ?_⟩
    rcases List.mem_cons.1 h with h | h
    · exact Or.inl h
    · obtain ⟨zone, hzone, h⟩ := mem_zoneRenderings.1 h
      obtain ⟨name, hname, rfl⟩ := List.mem_map.1 hzone
      exact Or.inr ⟨name, hname, h⟩
  · rw [heq] at h
    exact absurd h List.not_mem_nil
  · rw [heq] at h
    exact absurd h List.not_mem_nil
  · rw [heq] at h
    exact absurd h List.not_mem_nil

/-! ## Ids on the way -/

/-- The ids that may be entered at the end of a way down, given by the ids of its owners. -/
def openForms (page : Page) (above : List ScalarForm) : List ScalarForm :=
  above.foldr strike (page.content.filterMap Node.form? ++ page.storedForms)

@[simp]
theorem openForms_cons (form : ScalarForm) (above : List ScalarForm) :
    page.openForms (form :: above) = strike form (page.openForms above) := rfl

theorem mem_openForms {above : List ScalarForm} {form : ScalarForm} :
    form ∈ page.openForms above ↔ form ∈ page.storedForms ∧ form ∉ above := by
  induction above with
  | nil =>
    have htop : form ∈ page.content.filterMap Node.form? → form ∈ page.storedForms := by
      intro h
      obtain ⟨node, hnode, hf⟩ := List.mem_filterMap.1 h
      exact form_mem_storedForms (content_subset_stored hnode) hf
    constructor
    · intro h
      exact ⟨(List.mem_append.1 h).elim htop fun hstored => hstored, List.not_mem_nil⟩
    · intro h
      exact List.mem_append_right _ h.1
  | cons own above ih =>
    rw [openForms_cons, mem_strike, ih, List.mem_cons, not_or, and_assoc,
      and_comm (b := form ≠ own)]

/-! ## Ways down and items met -/

/-- The items that the expansion of a page meets, in the order in which they are entered. -/
def met (page : Page) (catalogue : Catalogue) (profile : Profile) : List Item :=
  itemsMet (page.expand catalogue profile page.content)

theorem item_node (enterable : List ScalarForm) (node : Node) :
    (page.item catalogue profile enterable node).node = node := by
  unfold item
  split
  · rfl
  · rfl
  · split
    · split <;> rfl
    · rfl

/-- A node is dropped where it is met exactly when the profile cannot render it. -/
theorem dropped?_item (enterable : List ScalarForm) (node : Node) :
    (page.item catalogue profile enterable node).dropped? =
      if profile.shows node then none else some node := by
  cases hr : profile.rule? node.type with
  | none => simp [item, hr, Profile.shows, Profile.supports, Item.dropped?]
  | some layout =>
    have hshows : profile.shows node = true := Profile.supports_of_rule? hr
    rw [if_pos hshows]
    unfold item
    rw [hr]
    split
    · contradiction
    · rfl
    · split
      · split <;> rfl
      · rfl

/-- What is met in the item of a node is that item, or is met in a zone that the node opens. -/
theorem mem_met_item (hs : catalogue.Settled) {enterable : List ScalarForm} {node : Node}
    {last : Item} (h : last ∈ (page.item catalogue profile enterable node).met) :
    last = page.item catalogue profile enterable node ∨
      ∃ layout form, profile.rule? node.type = some layout ∧ node.form? = some form ∧
        form ∈ enterable ∧ ∃ name ∈ catalogue.zoneNames node.type node.props,
          last ∈ itemsMet (page.expandWith catalogue profile (strike form enterable)
            (page.zone node.id.toText name)) := by
  rcases item_cases page catalogue profile enterable node with
    ⟨layout, form, hr, hf, hm⟩ | heq | heq | ⟨_, heq⟩
  · rw [item_rendered hs hr hf hm] at h ⊢
    rcases List.mem_cons.1 h with h | h
    · exact Or.inl h
    · obtain ⟨zone, hzone, h⟩ := mem_zonesMet.1 h
      obtain ⟨name, hname, rfl⟩ := List.mem_map.1 hzone
      exact Or.inr ⟨layout, form, hr, hf, hm, name, hname, h⟩
  · rw [heq] at h ⊢
    exact Or.inl (List.mem_singleton.1 h)
  · rw [heq] at h ⊢
    exact Or.inl (List.mem_singleton.1 h)
  · rw [heq] at h ⊢
    exact Or.inl (List.mem_singleton.1 h)

/-- **Whatever an expansion meets ends a way down**, which goes on from the way to the nodes that
are expanded, and it is the item of its node with the ids of that way closed. -/
theorem exists_trail_of_mem_itemsMet (hs : catalogue.Settled) {above : List ScalarForm}
    {nodes : List Node}
    (hnodes : ∀ node ∈ nodes, Trail page catalogue profile.supports above node) {last : Item}
    (h : last ∈ itemsMet (page.expandWith catalogue profile (page.openForms above) nodes)) :
    ∃ lower node, Trail page catalogue profile.supports (lower ++ above) node ∧
      last = page.item catalogue profile (page.openForms (lower ++ above)) node := by
  generalize hopen : page.openForms above = enterable at h
  induction enterable using strike_induction generalizing nodes above with
  | step enterable ih =>
    rw [expandWith_eq_map] at h
    obtain ⟨_, hitem, h⟩ := mem_itemsMet.1 h
    obtain ⟨node, hnode, rfl⟩ := List.mem_map.1 hitem
    rcases mem_met_item hs h with rfl | ⟨layout, form, hr, hf, hm, name, hname, h⟩
    · exact ⟨[], node, hnodes node hnode, by rw [List.nil_append, hopen]⟩
    · have hnew : form ∉ above := (mem_openForms.1 (hopen ▸ hm)).2
      have hdown : ∀ child ∈ page.zone node.id.toText name,
          Trail page catalogue profile.supports (form :: above) child := by
        intro child hchild
        exact (hnodes node hnode).down (Profile.supports_of_rule? hr) hf hnew
          (mem_children.2 ⟨name, hname, hchild⟩)
      -- the way to the zone is the way to the node, one id longer
      obtain ⟨lower, last', htrail, heq⟩ :=
        ih form hm hdown (by rw [openForms_cons, hopen]) h
      refine ⟨lower ++ [form], last', ?_, ?_⟩
      · rwa [List.append_assoc]
      · rwa [List.append_assoc]

/-- At the end of a way down the item of the node is met, with all that is met in it. -/
theorem Trail.met_subset (hs : catalogue.Settled) {above : List ScalarForm} {node : Node}
    (h : Trail page catalogue profile.supports above node) :
    (page.item catalogue profile (page.openForms above) node).met ⊆
      page.met catalogue profile := by
  induction h with
  | @top node h =>
    intro last hlast
    rw [Page.met, expand, expandWith_eq_map]
    exact mem_itemsMet.2 ⟨_, List.mem_map.2 ⟨node, h, rfl⟩, hlast⟩
  | @down above owner node form howner hk hf hnew hmem ih =>
    intro last hlast
    apply ih
    obtain ⟨layout, hr⟩ := Option.isSome_iff_exists.1 hk
    obtain ⟨name, hname, hchild⟩ := mem_children.1 hmem
    have hm : form ∈ page.openForms above :=
      mem_openForms.2 ⟨form_mem_storedForms howner.stored hf, hnew⟩
    -- the zone of the owner expands with its id struck, which is the one that joins the way
    rw [item_rendered hs hr hf hm, Item.met]
    refine List.mem_cons_of_mem _ (mem_zonesMet.2 ⟨_, List.mem_map.2 ⟨name, hname, rfl⟩, ?_⟩)
    rw [expandWith_eq_map]
    exact mem_itemsMet.2 ⟨_, List.mem_map.2 ⟨node, hchild, rfl⟩, hlast⟩

/-- **A page meets exactly the items at the ends of ways down.** -/
theorem mem_met_iff (hs : catalogue.Settled) {last : Item} :
    last ∈ page.met catalogue profile ↔
      ∃ above node, Trail page catalogue profile.supports above node ∧
        last = page.item catalogue profile (page.openForms above) node := by
  constructor
  · intro h
    have htop : ∀ node ∈ page.content, Trail page catalogue profile.supports [] node :=
      fun _ hnode => .top hnode
    obtain ⟨lower, node, htrail, heq⟩ := exists_trail_of_mem_itemsMet hs htop h
    exact ⟨lower ++ [], node, htrail, heq⟩
  · rintro ⟨above, node, htrail, rfl⟩
    exact htrail.met_subset hs (Item.mem_met_self _)

/-- **A rendering that is met** is that of a node at the end of a way which does not hold its id,
and its zones expand at the end of the way that goes on through it. -/
theorem rendered_of_mem_met (hs : catalogue.Settled) {node : Node} {layout : Layout}
    {props : Props} {zones : List (List Item)}
    (h : .rendered node layout props zones ∈ page.met catalogue profile) :
    profile.rule? node.type = some layout ∧ props = catalogue.resolve node.type node.props ∧
      ∃ above form, Trail page catalogue profile.supports above node ∧ node.form? = some form ∧
        form ∉ above ∧ zones = (catalogue.zoneNames node.type node.props).map fun name =>
          page.expandWith catalogue profile (page.openForms (form :: above))
            (page.zone node.id.toText name) := by
  obtain ⟨above, owner, htrail, heq⟩ := (mem_met_iff hs).1 h
  obtain ⟨rfl, hr, hprops, form, hf, hm, hzones⟩ := eq_of_item_eq_rendered hs heq.symm
  exact ⟨hr, hprops, above, form, htrail, hf, (mem_openForms.1 hm).2, hzones⟩

/-! ## The dropped nodes of a page -/

/-- The nodes that rendering a page drops, in the order in which they are met. -/
def dropped (page : Page) (catalogue : Catalogue) (profile : Profile) : List Node :=
  (page.met catalogue profile).filterMap Item.dropped?

/-- **A page drops a node exactly when a way down ends at it** and the profile cannot render it. -/
theorem mem_dropped_iff (hs : catalogue.Settled) {node : Node} :
    node ∈ page.dropped catalogue profile ↔
      profile.shows node = false ∧ ∃ above, Trail page catalogue profile.supports above node := by
  rw [dropped, List.mem_filterMap]
  constructor
  · rintro ⟨last, hlast, hdropped⟩
    obtain ⟨above, owner, htrail, rfl⟩ := (mem_met_iff hs).1 hlast
    rw [dropped?_item] at hdropped
    split at hdropped
    · contradiction
    · rename_i hshows
      rw [← Option.some.inj hdropped]
      exact ⟨Bool.eq_false_iff.2 hshows, above, htrail⟩
  · rintro ⟨hshows, above, htrail⟩
    refine ⟨_, (mem_met_iff hs).2 ⟨above, node, htrail, rfl⟩, ?_⟩
    rw [dropped?_item, hshows]
    rfl

/-! ## The renderings of a page -/

/-- The renderings of a page, in the order in which they are entered. -/
def renderings (page : Page) (catalogue : Catalogue) (profile : Profile) :
    List (Node × Layout) :=
  itemRenderings (page.expand catalogue profile page.content)

theorem renderings_eq_met :
    page.renderings catalogue profile = (page.met catalogue profile).filterMap Item.rendering? :=
  itemRenderings_eq_met _

theorem mem_renderings {node : Node} {layout : Layout} :
    (node, layout) ∈ page.renderings catalogue profile ↔
      ∃ props zones, .rendered node layout props zones ∈ page.met catalogue profile := by
  rw [renderings_eq_met, List.mem_filterMap]
  constructor
  · rintro ⟨last, hlast, hrendering⟩
    cases last with
    | rendered own layout' props zones =>
      obtain ⟨rfl, rfl⟩ := Prod.mk.inj (Option.some.inj hrendering)
      exact ⟨props, zones, hlast⟩
    | unsupported => contradiction
    | cut => contradiction
    | failed => contradiction
  · rintro ⟨props, zones, hmet⟩
    exact ⟨_, hmet, rfl⟩

/-- **A page renders a node exactly when a way down ends at it** that does not hold its id. -/
theorem mem_renderings_iff (hs : catalogue.Settled) {node : Node} {layout : Layout} :
    (node, layout) ∈ page.renderings catalogue profile ↔
      profile.rule? node.type = some layout ∧
        ∃ above form, Trail page catalogue profile.supports above node ∧
          node.form? = some form ∧ form ∉ above := by
  rw [mem_renderings]
  constructor
  · rintro ⟨props, zones, hmet⟩
    obtain ⟨hr, _, above, form, htrail, hf, hnew, _⟩ := rendered_of_mem_met hs hmet
    exact ⟨hr, above, form, htrail, hf, hnew⟩
  · rintro ⟨hr, above, form, htrail, hf, hnew⟩
    have hm : form ∈ page.openForms above :=
      mem_openForms.2 ⟨form_mem_storedForms htrail.stored hf, hnew⟩
    have hmet : page.item catalogue profile (page.openForms above) node ∈
        page.met catalogue profile := (mem_met_iff hs).2 ⟨above, node, htrail, rfl⟩
    rw [item_rendered hs hr hf hm] at hmet
    exact ⟨_, _, hmet⟩

/-- A node that the visit of supported nodes reaches is rendered. -/
theorem mem_renderings_of_mem_visitAll (hs : catalogue.Settled) {node : Node} {form : ScalarForm}
    (h : node ∈ page.visitAll catalogue profile.supports) (hf : node.form? = some form) :
    ∃ layout, (node, layout) ∈ page.renderings catalogue profile := by
  obtain ⟨layout, hr⟩ := Option.isSome_iff_exists.1 (of_mem_visit h hf).1
  obtain ⟨above, htrail, hnew⟩ := exists_trail_of_mem_visitAll h
  exact ⟨layout, (mem_renderings_iff hs).2 ⟨hr, above, form, htrail, hf, hnew form hf⟩⟩

end Page

end Pagewright
