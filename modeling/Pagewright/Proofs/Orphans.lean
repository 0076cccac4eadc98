import Pagewright.Proofs.Compiling

/-!
# Orphaned zones are inert

A page may store zones that no node on it owns any more. `readKeys` are the addresses that the
expansion looks up. On a page whose shared ids agree these are the addresses that the walk finds
(`mem_readKeys_iff`), so an orphaned zone is a stored one that is never looked up. And what is
never looked up makes no difference: two pages that agree on their top and on the reachable zones
of one of them have the same visit, the same expansion and the same file
(`Agrees.compile_eq`).

The second page may hold anything elsewhere. All that both runs ever see are the nodes at the top
and those in reachable zones, which `Reached` collects; it is closed under going down.
-/

namespace Pagewright

/-! ## The addresses that an expansion reads -/

mutual

/-- The addresses of the zones that are looked up for an item and for what stands in it. -/
def Item.readKeys (catalogue : Catalogue) : Item → List String
  | .rendered node _ props zones =>
    (catalogue.zoneNames node.type props).map (zoneKey node.id.toText) ++
      zoneReadKeys catalogue zones
  | .unsupported _ => []
  | .cut _ => []
  | .failed _ _ => []

/-- The addresses that are looked up for a sequence of items. -/
def itemReadKeys (catalogue : Catalogue) : List Item → List String
  | [] => []
  | item :: rest => item.readKeys catalogue ++ itemReadKeys catalogue rest

/-- The addresses that are looked up inside zones. -/
def zoneReadKeys (catalogue : Catalogue) : List (List Item) → List String
  | [] => []
  | zone :: rest => itemReadKeys catalogue zone ++ zoneReadKeys catalogue rest

end

/-- The addresses that are looked up for an item itself. -/
def Item.ownKeys (catalogue : Catalogue) : Item → List String
  | .rendered node _ props _ =>
    (catalogue.zoneNames node.type props).map (zoneKey node.id.toText)
  | _ => []

mutual

/-- The addresses that are looked up are those of the items that are met, in their order. -/
theorem Item.readKeys_eq_met (catalogue : Catalogue) :
    ∀ item : Item, item.readKeys catalogue = item.met.flatMap (Item.ownKeys catalogue)
  | .rendered _ _ _ zones => by
    rw [Item.readKeys, Item.met, List.flatMap_cons, zoneReadKeys_eq_met catalogue zones]
    rfl
  | .unsupported _ => rfl
  | .cut _ => rfl
  | .failed _ _ => rfl

theorem itemReadKeys_eq_met (catalogue : Catalogue) :
    ∀ items : List Item,
      itemReadKeys catalogue items = (itemsMet items).flatMap (Item.ownKeys catalogue)
  | [] => rfl
  | item :: rest => by
    rw [itemReadKeys, itemsMet, List.flatMap_append, Item.readKeys_eq_met catalogue item,
      itemReadKeys_eq_met catalogue rest]

theorem zoneReadKeys_eq_met (catalogue : Catalogue) :
    ∀ zones : List (List Item),
      zoneReadKeys catalogue zones = (zonesMet zones).flatMap (Item.ownKeys catalogue)
  | [] => rfl
  | zone :: rest => by
    rw [zoneReadKeys, zonesMet, List.flatMap_append, itemReadKeys_eq_met catalogue zone,
      zoneReadKeys_eq_met catalogue rest]

end

namespace Page

variable {page : Page} {catalogue : Catalogue} {profile : Profile}

/-- The addresses that the expansion of a page looks up. -/
def readKeys (page : Page) (catalogue : Catalogue) (profile : Profile) : List String :=
  itemReadKeys catalogue (page.expand catalogue profile page.content)

/-- **The addresses that a page looks up are those that its rendered nodes own.** -/
theorem mem_readKeys (hs : catalogue.Settled) {key : String} :
    key ∈ page.readKeys catalogue profile ↔
      ∃ entry ∈ page.renderings catalogue profile, key ∈ ownedKeys catalogue entry.1 := by
  -- a rendered node looks up the zones of its resolved props, which are those of its props
  have hown : ∀ {node component props zones},
      .rendered node component props zones ∈ page.met catalogue profile →
      (Item.rendered node component props zones).ownKeys catalogue = ownedKeys catalogue node := by
    intro node component props zones hmet
    rw [Item.ownKeys, (rendered_of_mem_met hs hmet).2.1, hs.zones, ownedKeys]
  rw [readKeys, itemReadKeys_eq_met, ← met, List.mem_flatMap]
  constructor
  · rintro ⟨item, hmet, hkey⟩
    cases item with
    | rendered node component props zones =>
      exact ⟨(node, component), mem_renderings.2 ⟨props, zones, hmet⟩, hown hmet ▸ hkey⟩
    | unsupported => exact absurd hkey List.not_mem_nil
    | cut => exact absurd hkey List.not_mem_nil
    | failed => exact absurd hkey List.not_mem_nil
  · rintro ⟨entry, hentry, hkey⟩
    obtain ⟨props, zones, hmet⟩ := mem_renderings.1 hentry
    exact ⟨_, hmet, (hown hmet).symm ▸ hkey⟩

/-! ## Reachable and read -/

theorem mem_reachableZones {key : String} :
    key ∈ page.reachableZones catalogue ↔
      ∃ node ∈ page.walk catalogue, key ∈ ownedKeys catalogue node := by
  rw [reachableZones, mem_firstOccurrences, List.mem_flatMap]

/-- **The zones that are looked up are the reachable ones**, on a page whose shared ids agree. -/
theorem mem_readKeys_iff (hb : profile.IsBundled) (ht : page.TextIds) (ha : page.SharedIdsAgree)
    {key : String} :
    key ∈ page.readKeys Bundled.catalogue profile ↔
      key ∈ page.reachableZones Bundled.catalogue := by
  rw [mem_readKeys Bundled.settled, mem_reachableZones]
  constructor
  · rintro ⟨entry, hentry, hkey⟩
    obtain ⟨_, above, form, htrail, _, _⟩ := (mem_renderings_iff Bundled.settled).1 hentry
    have hwalk : Trail page Bundled.catalogue (fun _ => true) above entry.1 :=
      htrail.imp fun _ _ _ => rfl
    obtain ⟨met, hmet, hid⟩ := hwalk.met ht ha rfl
    have hagree := ha met (visitAll_subset_stored hmet) entry.1 htrail.stored hid
    refine ⟨met, hmet, ?_⟩
    rwa [ownedKeys, hagree.1, hagree.2, hid]
  · rintro ⟨node, hnode, hkey⟩
    have hzones : Bundled.catalogue.zoneNames node.type node.props ≠ [] := by
      obtain ⟨name, hname, _⟩ := List.mem_map.1 hkey
      exact List.ne_nil_of_mem hname
    obtain ⟨above, htrail, hnew⟩ := exists_trail_of_mem_visitAll hnode
    obtain ⟨form, hf⟩ := Option.isSome_iff_exists.1 (ht.form?_isSome htrail.stored)
    obtain ⟨framework, hfollows⟩ := hb.follows
    exact ⟨(node, framework.layout .grid), (mem_renderings_iff Bundled.settled).2
      ⟨rule?_of_zoneNames_ne_nil hfollows hzones, above, form, htrail.supported hb, hf,
        hnew form hf⟩, hkey⟩

/-! ## What a run sees of a page -/

/-- The nodes that a run can meet: those at the top and those in reachable zones. -/
def Reached (page : Page) (catalogue : Catalogue) (node : Node) : Prop :=
  node ∈ page.content ∨ ∃ key ∈ page.reachableZones catalogue, node ∈ page.zoneAt key

theorem Reached.stored {node : Node} (h : page.Reached catalogue node) : node ∈ page.stored := by
  rcases h with h | ⟨key, _, h⟩
  · exact content_subset_stored h
  · exact zoneAt_subset_stored key h

/-- The walk meets the id of every node that a run can meet. -/
theorem Reached.met (ht : page.TextIds) {node : Node} (h : page.Reached catalogue node) :
    ∃ met ∈ page.walk catalogue, met.id = node.id := by
  obtain ⟨form, hf⟩ := Option.isSome_iff_exists.1 (ht.form?_isSome h.stored)
  obtain ⟨met, hmet, hfm⟩ : ∃ met ∈ page.walk catalogue, met.form? = some form := by
    rcases h with h | ⟨key, hkey, h⟩
    · exact visitAll_meets_top h hf rfl
    · obtain ⟨owner, howner, hown⟩ := mem_reachableZones.1 hkey
      obtain ⟨name, hname, rfl⟩ := List.mem_map.1 hown
      exact visitAll_meets_child howner (ht.form?_isSome (visitAll_subset_stored howner))
        (mem_children.2 ⟨name, hname, h⟩) hf rfl
  exact ⟨met, hmet, ht.id_eq (visitAll_subset_stored hmet) h.stored (hfm.trans hf.symm)⟩

/-- The zones of a node that a run can meet are reachable. -/
theorem Reached.owned (ht : page.TextIds) (ha : page.SharedIdsAgree) {node : Node}
    (h : page.Reached catalogue node) {key : String} (hk : key ∈ ownedKeys catalogue node) :
    key ∈ page.reachableZones catalogue := by
  obtain ⟨met, hmet, hid⟩ := h.met ht
  obtain ⟨htype, hprops⟩ := ha met (visitAll_subset_stored hmet) node h.stored hid
  refine mem_reachableZones.2 ⟨met, hmet, ?_⟩
  rwa [ownedKeys, htype, hprops, hid]

theorem Reached.child (ht : page.TextIds) (ha : page.SharedIdsAgree) {node child : Node}
    (h : page.Reached catalogue node) {name : String}
    (hname : name ∈ catalogue.zoneNames node.type node.props)
    (hchild : child ∈ page.zone node.id.toText name) : page.Reached catalogue child :=
  Or.inr ⟨_, h.owned ht ha (List.mem_map.2 ⟨name, hname, rfl⟩), hchild⟩

/-- Does another page have the same settings, the same top, and the same nodes in every zone that
the page reaches? -/
structure Agrees (page other : Page) (catalogue : Catalogue) : Prop where
  settings : other.settings = page.settings
  content : other.content = page.content
  zones : ∀ key ∈ page.reachableZones catalogue, other.zoneAt key = page.zoneAt key

/-! ## Two runs -/

section TwoRuns

variable {other : Page} (hagree : page.Agrees other catalogue)
include hagree

/-- What a run can meet is stored on both pages. -/
theorem Agrees.form_mem_iff {node : Node} (h : page.Reached catalogue node) {form : ScalarForm}
    (hf : node.form? = some form) : form ∈ other.storedForms ↔ form ∈ page.storedForms := by
  have hother : node ∈ other.stored := by
    rcases h with h | ⟨key, hkey, h⟩
    · exact content_subset_stored (hagree.content ▸ h)
    · exact zoneAt_subset_stored key (hagree.zones key hkey ▸ h)
  exact iff_of_true (form_mem_storedForms hother hf) (form_mem_storedForms h.stored hf)

variable (ht : page.TextIds) (ha : page.SharedIdsAgree)
include ht ha

theorem Agrees.zone_eq {node : Node} (h : page.Reached catalogue node) {name : String}
    (hname : name ∈ catalogue.zoneNames node.type node.props) :
    other.zone node.id.toText name = page.zone node.id.toText name :=
  hagree.zones _ (h.owned ht ha (List.mem_map.2 ⟨name, hname, rfl⟩))

theorem Agrees.children_eq {node : Node} (h : page.Reached catalogue node) :
    other.children catalogue node = page.children catalogue node := by
  unfold children childZones
  rw [List.map_congr_left fun name hname => by rw [hagree.zone_eq ht ha h hname]]

/-- **Both pages are visited alike.** -/
theorem Agrees.visit_eq {keep : String → Bool} {unmet unmet' : List ScalarForm}
    {todo : List Node} (htodo : ∀ node ∈ todo, page.Reached catalogue node)
    (hunmet : ∀ node form, page.Reached catalogue node → node.form? = some form →
      (form ∈ unmet' ↔ form ∈ unmet)) :
    other.visit catalogue keep unmet' todo = page.visit catalogue keep unmet todo := by
  induction unmet, todo using visit_induction page catalogue keep generalizing unmet' with
  | nil unmet => rw [visit, visit]
  | unusable unmet node rest hf ih =>
    rw [visit_unusable hf, visit_unusable hf,
      ih (fun later hlater => htodo later (by simp [hlater])) hunmet]
  | enter unmet node rest form hf hu hk ih =>
    have hnode := htodo node (by simp)
    rw [visit_enter hf hu hk, visit_enter hf ((hunmet node form hnode hf).2 hu) hk,
      hagree.children_eq ht ha hnode]
    refine congrArg _ (ih (fun later hlater => ?_) fun later form' hlater hf' => ?_)
    · rcases List.mem_append.1 hlater with hlater | hlater
      · obtain ⟨name, hname, hchild⟩ := mem_children.1 hlater
        exact hnode.child ht ha hname hchild
      · exact htodo later (by simp [hlater])
    · rw [mem_strike, mem_strike, hunmet later form' hlater hf']
  | pass unmet node rest form hf hn ih =>
    have hiff := hunmet node form (htodo node (by simp)) hf
    rw [visit_pass hf hn, visit_pass hf fun h => hn ⟨hiff.1 h.1, h.2⟩,
      ih (fun later hlater => htodo later (by simp [hlater])) hunmet]

theorem Agrees.visitAll_eq (keep : String → Bool) :
    other.visitAll catalogue keep = page.visitAll catalogue keep := by
  unfold visitAll
  rw [hagree.content]
  exact hagree.visit_eq ht ha (fun _ hnode => Or.inl hnode) fun _ _ h hf => hagree.form_mem_iff h hf

/-- **Both pages expand alike.** -/
theorem Agrees.expandWith_eq (hs : catalogue.Settled) {enterable enterable' : List ScalarForm}
    {nodes : List Node} (hnodes : ∀ node ∈ nodes, page.Reached catalogue node)
    (henterable : ∀ node form, page.Reached catalogue node → node.form? = some form →
      (form ∈ enterable' ↔ form ∈ enterable)) :
    other.expandWith catalogue profile enterable' nodes =
      page.expandWith catalogue profile enterable nodes := by
  induction enterable using strike_induction generalizing enterable' nodes with
  | step enterable ih =>
    rw [expandWith_eq_map, expandWith_eq_map]
    refine List.map_congr_left fun node hnode => ?_
    cases hr : profile.rule? node.type with
    | none => simp [item, hr]
    | some component =>
      cases hf : node.form? with
      | none => simp [item, hr, hf]
      | some form =>
        have hreached := hnodes node hnode
        have hiff := henterable node form hreached hf
        by_cases hm : form ∈ enterable
        · rw [item_rendered hs hr hf hm, item_rendered hs hr hf (hiff.2 hm)]
          refine congrArg _ (List.map_congr_left fun name hname => ?_)
          rw [hagree.zone_eq ht ha hreached hname]
          refine ih form hm (fun child hchild => hreached.child ht ha hname hchild) ?_
          intro later form' hlater hf'
          rw [mem_strike, mem_strike, henterable later form' hlater hf']
        · simp [item, hr, hf, hm, hiff]

theorem Agrees.expand_eq (hs : catalogue.Settled) :
    other.expand catalogue profile other.content = page.expand catalogue profile page.content := by
  unfold expand
  rw [hagree.content]
  refine hagree.expandWith_eq ht ha hs (fun _ hnode => Or.inl hnode) fun node form h hf => ?_
  rw [List.mem_append, List.mem_append, hagree.form_mem_iff h hf]

/-- **Both pages compile alike**, to the same file or with the same fault. -/
theorem Agrees.compile_eq (hs : catalogue.Settled) (identifier : Option String) :
    other.compile catalogue profile identifier = page.compile catalogue profile identifier := by
  have hrender : other.render catalogue profile other.content =
      page.render catalogue profile page.content := by
    rw [render, render, hagree.expand_eq ht ha hs]
  exact compile_congr hagree.settings (hagree.visitAll_eq ht ha profile.supports) hrender identifier

end TwoRuns

/--
**Orphaned zones are inert, and only they are.**

Rendering the page comes to its end, so all of its expansion is looked up.
-/
theorem orphanedZones_inert (hb : profile.IsBundled) (ht : page.TextIds)
    (ha : page.SharedIdsAgree) :
    (∃ markup, page.render Bundled.catalogue profile page.content = .ok markup) ∧
      (∀ key, key ∈ page.readKeys Bundled.catalogue profile ↔
        key ∈ page.reachableZones Bundled.catalogue) ∧
      (∀ key ∈ page.zones.map Prod.fst, key ∈ page.orphanedZones Bundled.catalogue ↔
        key ∉ page.readKeys Bundled.catalogue profile) ∧
      ∀ other, page.Agrees other Bundled.catalogue → ∀ identifier,
        other.compile Bundled.catalogue profile identifier =
          page.compile Bundled.catalogue profile identifier := by
  refine ⟨render_ok hb fun node hnode => ht.form?_isSome hnode,
    fun key => mem_readKeys_iff hb ht ha, fun key hkey => ?_,
    fun other hagree identifier => hagree.compile_eq ht ha Bundled.settled identifier⟩
  rw [mem_readKeys_iff hb ht ha, orphanedZones, List.mem_filter]
  simp [hkey]

/-- A section that is stored in its own zone. -/
def looped : Node := { id := .text "a", type := "Section" }

/-- A badge in the zone of the section. -/
def held : Node := { id := .text "b", type := "Badge" }

/-- A badge whose owner is gone. -/
def lost : Node := { id := .text "c", type := "Badge" }

/-- A page with a zone that leads back to its owner and a zone without an owner. -/
def untidy : Page where
  id := "home"
  content := [looped]
  zones := [("gone:col-0", [lost]), ("a:col-0", [looped, held])]

/-- The page without the zone that has no owner. -/
def tidy : Page := { untidy with zones := [("a:col-0", [looped, held])] }

/-- Dropping the zone without an owner leaves the file as it is. -/
theorem orphanedZones_inert_untidy :
    tidy.compile Bundled.catalogue shadcnProfile none =
      untidy.compile Bundled.catalogue shadcnProfile none := by
  have hstored : untidy.stored = [looped, lost, looped, held] := rfl
  have ht : untidy.TextIds := by
    rw [TextIds, hstored]
    simp [looped, lost, held]
  have ha : untidy.SharedIdsAgree := by
    rw [SharedIdsAgree, hstored]
    simp [looped, lost, held]
  have hzones : ∀ key ∈ untidy.reachableZones Bundled.catalogue, key = "a:col-0" := by
    have howned : ∀ node ∈ [looped, lost, looped, held], ∀ key ∈ ownedKeys Bundled.catalogue node,
        key = "a:col-0" := by decide +kernel
    intro key hkey
    obtain ⟨node, hnode, hown⟩ := mem_reachableZones.1 hkey
    exact howned node (hstored ▸ visitAll_subset_stored hnode) key hown
  have hagree : untidy.Agrees tidy Bundled.catalogue :=
    ⟨rfl, rfl, fun key hkey => by rw [hzones key hkey]; rfl⟩
  exact (orphanedZones_inert shadcnProfile_isBundled ht ha).2.2.2 tidy hagree none

end Page

end Pagewright
