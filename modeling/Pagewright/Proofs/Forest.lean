import Pagewright.Proofs.Identifiers
import Pagewright.Proofs.Notices
import Mathlib.Data.List.Nodup
import Mathlib.Data.List.Pairwise

/-!
# Pages without a repeated id

When no id is stored twice, a page is a forest: a node stands at one place, and the zone there
belongs to one node, because the addresses of zones tell their owners apart (`zoneKey_injective`)
even when an id has colons of its own. Two searches that cut at different ids then cut nowhere.
The walk meets every node with its id unmet, and the expansion enters every node that it can
render, so both list the same nodes in the same order (`renderings_eq_walk`). Zones that lead back
to their owners are stored out of reach and change nothing.

The invariant of the walk is `Front`: the nodes to come are different and unmet, the ids of their
ways are met, and a node that is to come or met has its owner met. The last part is what keeps a
node from being met before the walk comes to its place.
-/

namespace Pagewright

/-! ## Addresses of zones -/

/-- A name without a colon is told apart from its owner. -/
theorem zoneKey_injective {owner owner' name name' : String} (h : ':' ∉ name.toList)
    (h' : ':' ∉ name'.toList) (heq : zoneKey owner name = zoneKey owner' name') :
    owner = owner' ∧ name = name' := by
  have htext : owner.toList ++ ':' :: name.toList = owner'.toList ++ ':' :: name'.toList := by
    simpa [zoneKey] using congrArg String.toList heq
  obtain ⟨howner, hname⟩ := Text.append_separator_inj h h' htext
  exact ⟨String.toList_injective howner, String.toList_injective hname⟩

theorem colon_notMem_columnZone (index : Nat) : ':' ∉ (columnZone index).toList := by
  have hdigits : ':' ∉ Number.natDigits index := by
    intro h
    have := isIdentifierLetter_natDigits h
    revert this
    decide
  simpa [columnZone] using hdigits

theorem columnZone_injective {i j : Nat} (h : columnZone i = columnZone j) : i = j := by
  have htext := congrArg String.toList h
  simp only [columnZone, String.toList_append, String.toList_ofList] at htext
  exact natDigits_injective (List.append_cancel_left htext)

namespace Bundled

/-- The zones of bundled components are columns. -/
theorem zoneNames_columns (type : String) (props : Props) :
    ∃ count, catalogue.zoneNames type props = (List.range count).map columnZone := by
  by_cases htype : type = "Section"
  · subst htype
    exact ⟨_, rfl⟩
  · exact ⟨0, zoneNames_eq_nil htype props⟩

theorem colon_notMem_zoneNames {type name : String} {props : Props}
    (h : name ∈ catalogue.zoneNames type props) : ':' ∉ name.toList := by
  obtain ⟨count, heq⟩ := zoneNames_columns type props
  rw [heq] at h
  obtain ⟨index, _, rfl⟩ := List.mem_map.1 h
  exact colon_notMem_columnZone index

theorem nodup_zoneNames (type : String) (props : Props) :
    (catalogue.zoneNames type props).Nodup := by
  obtain ⟨count, heq⟩ := zoneNames_columns type props
  rw [heq]
  exact List.nodup_range.map fun _ _ => columnZone_injective

end Bundled

/-! ## The cells of a grid -/

/-- What a cell holds: a cell is a block around the body of a zone. -/
def Markup.held? : Markup → Option (List Markup)
  | .block _ _ [.body items] => some items
  | _ => none

/-- What the cells of a grid hold, in order: a grid is a block around a block of cells. -/
def Markup.cells : Markup → List (List Markup)
  | .block _ _ [.block _ _ cells] => cells.filterMap Markup.held?
  | _ => []

/-- A grid has a cell for each zone and holds its markup there. -/
theorem cells_grid {framework : Framework} {node : Node} {props : Props}
    {zones : List (List Markup)} {m : Markup}
    (h : framework.layout .grid node props zones = .ok m) : m.cells = zones := by
  cases framework <;>
  · obtain ⟨_, _, h⟩ := bind_eq_ok.1 h
    rw [← Except.ok.inj h, Markup.cells, List.filterMap_map]
    exact List.filterMap_some

namespace Page

variable {page : Page} {profile : Profile}

/-! ## Where nodes stand -/

/-- No id is stored twice. -/
def DistinctIds (page : Page) : Prop := (page.stored.map Node.id).Nodup

section Places

variable (hd : page.DistinctIds)
include hd

theorem DistinctIds.eq_of_id {a b : Node} (ha : a ∈ page.stored) (hb : b ∈ page.stored)
    (hid : a.id = b.id) : a = b :=
  List.inj_on_of_nodup_map hd ha hb hid

theorem DistinctIds.nodup_content : page.content.Nodup :=
  (List.nodup_append.1 (List.Nodup.of_map _ hd)).1

theorem DistinctIds.nodup_zones : (page.zones.flatMap Prod.snd).Nodup :=
  (List.nodup_append.1 (List.Nodup.of_map _ hd)).2.1

/-- A node at the top stands in no zone. -/
theorem DistinctIds.not_mem_zoneAt {node : Node} (h : node ∈ page.content) (key : String) :
    node ∉ page.zoneAt key := by
  intro hzone
  have hapart := (List.nodup_append.1 (List.Nodup.of_map _ hd)).2.2
  obtain ⟨nodes, hentry, hmem⟩ := exists_zone_of_mem hzone
  exact hapart node h node (List.mem_flatMap.2 ⟨_, hentry, hmem⟩) rfl

/-- A node stands in one zone. -/
theorem DistinctIds.zone_eq {node : Node} {key key' : String} (h : node ∈ page.zoneAt key)
    (h' : node ∈ page.zoneAt key') : key = key' := by
  obtain ⟨nodes, hentry, hmem⟩ := exists_zone_of_mem h
  obtain ⟨nodes', hentry', hmem'⟩ := exists_zone_of_mem h'
  have hpairs := (List.nodup_flatMap.1 hd.nodup_zones).2
  have : Std.Symm (Function.onFun List.Disjoint (Prod.snd : String × List Node → List Node)) :=
    ⟨fun _ _ h _ hb ha => h ha hb⟩
  by_contra hne
  have hentries : (key, nodes) ≠ (key', nodes') := fun heq => hne (congrArg Prod.fst heq)
  exact List.disjoint_left.1 (hpairs.forall hentry hentry' hentries) hmem hmem'

/-- A node stands in a zone once. -/
theorem DistinctIds.nodup_zoneAt (key : String) : (page.zoneAt key).Nodup := by
  rw [zoneAt]
  cases hl : page.zones.lookup key with
  | none => exact List.nodup_nil
  | some nodes => exact (List.nodup_flatMap.1 hd.nodup_zones).1 _ (mem_of_lookup hl)

variable (ht : page.TextIds)
include ht

theorem DistinctIds.eq_of_form {a b : Node} (ha : a ∈ page.stored) (hb : b ∈ page.stored)
    (hf : a.form? = b.form?) : a = b :=
  hd.eq_of_id ha hb (ht.id_eq ha hb hf)

/-- The zones that a node stands in belong to one node. -/
theorem DistinctIds.owner_eq {a b child : Node} (ha : a ∈ page.stored) (hb : b ∈ page.stored)
    (hca : child ∈ page.children Bundled.catalogue a)
    (hcb : child ∈ page.children Bundled.catalogue b) : a = b := by
  obtain ⟨name, hname, hmem⟩ := mem_children.1 hca
  obtain ⟨name', hname', hmem'⟩ := mem_children.1 hcb
  have hkey : zoneKey a.id.toText name = zoneKey b.id.toText name' := hd.zone_eq hmem hmem'
  have htext : a.id.toText = b.id.toText :=
    (zoneKey_injective (Bundled.colon_notMem_zoneNames hname)
      (Bundled.colon_notMem_zoneNames hname') hkey).1
  obtain ⟨s, hs⟩ := ht a ha
  obtain ⟨t, hbt⟩ := ht b hb
  have hst : s = t := by
    rw [hs, hbt] at htext
    exact htext
  exact hd.eq_of_id ha hb (by rw [hs, hbt, hst])

omit ht in
/-- A node stands in the zones of its owner once. -/
theorem DistinctIds.nodup_children (node : Node) :
    (page.children Bundled.catalogue node).Nodup := by
  rw [children, childZones, List.flatMap_map]
  refine List.nodup_flatMap.2 ⟨fun name _ => hd.nodup_zoneAt _, ?_⟩
  refine (Bundled.nodup_zoneNames node.type node.props).imp_of_mem ?_
  intro name name' hname hname' hne
  refine List.disjoint_left.2 fun child hchild hchild' => hne ?_
  exact (zoneKey_injective (Bundled.colon_notMem_zoneNames hname)
    (Bundled.colon_notMem_zoneNames hname') (hd.zone_eq hchild hchild')).2

omit ht in
/-- A node at the top has no owner. -/
theorem DistinctIds.not_mem_children {node : Node} (h : node ∈ page.content) (owner : Node) :
    node ∉ page.children Bundled.catalogue owner := by
  intro hchild
  obtain ⟨name, _, hmem⟩ := mem_children.1 hchild
  exact hd.not_mem_zoneAt h _ hmem

end Places

/-! ## What a walk has before it -/

/-- Has a walk passed a node: is it to come, or its id met? -/
def Passed (unmet : List ScalarForm) (ends : List (List ScalarForm × Node)) (node : Node) : Prop :=
  node ∈ ends.map Prod.snd ∨ ∃ form, node.form? = some form ∧ form ∉ unmet

/-- What a walk has before it: the nodes to come, each with the ids of the way to it. -/
structure Front (page : Page) (unmet : List ScalarForm)
    (ends : List (List ScalarForm × Node)) : Prop where
  /-- The nodes to come are stored. -/
  stored : ∀ e ∈ ends, e.2 ∈ page.stored
  /-- They are different. -/
  nodup : (ends.map Prod.snd).Nodup
  /-- Their ids are not met. -/
  fresh : ∀ e ∈ ends, ∀ form, e.2.form? = some form → form ∈ unmet
  /-- The ids of their ways are met. -/
  above : ∀ e ∈ ends, ∀ form ∈ e.1, form ∉ unmet
  /-- A node that is passed has its owner met. -/
  owners : ∀ owner ∈ page.stored, ∀ child ∈ page.children Bundled.catalogue owner,
    Passed unmet ends child → ∀ form, owner.form? = some form → form ∉ unmet

/-- Before a walk sets out, the nodes at the top are to come. -/
theorem DistinctIds.front (hd : page.DistinctIds) :
    page.Front page.storedForms (page.content.map fun node => ([], node)) where
  stored := by
    intro e he
    obtain ⟨node, hnode, rfl⟩ := List.mem_map.1 he
    exact content_subset_stored hnode
  nodup := by
    rw [List.map_map]
    exact hd.nodup_content.map fun _ _ h => h
  fresh := by
    intro e he form hf
    obtain ⟨node, hnode, rfl⟩ := List.mem_map.1 he
    exact form_mem_storedForms (content_subset_stored hnode) hf
  above := by
    intro e he form hform
    obtain ⟨node, _, rfl⟩ := List.mem_map.1 he
    exact absurd hform List.not_mem_nil
  owners := by
    intro owner _ child hchild hpassed
    rcases hpassed with hcome | ⟨form, hf, hmet⟩
    · rw [List.map_map] at hcome
      obtain ⟨node, hnode, rfl⟩ := List.mem_map.1 hcome
      exact absurd hchild (hd.not_mem_children hnode owner)
    · exact absurd (form_mem_storedForms (children_subset_stored _ hchild) hf) hmet

/-- The ways to the children of a node. -/
def waysBelow (page : Page) (above : List ScalarForm) (node : Node) (form : ScalarForm) :
    List (List ScalarForm × Node) :=
  (page.children Bundled.catalogue node).map fun child => (form :: above, child)

theorem map_snd_waysBelow {above : List ScalarForm} {node : Node} {form : ScalarForm} :
    (page.waysBelow above node form).map Prod.snd = page.children Bundled.catalogue node := by
  rw [waysBelow, List.map_map]
  exact List.map_id _

section Enter

variable {unmet above : List ScalarForm} {node : Node} {rest : List (List ScalarForm × Node)}
  {form : ScalarForm} (h : page.Front unmet ((above, node) :: rest))
  (hf : node.form? = some form)
include h hf

/-- The children of a node that is to come are not passed, since the node is not met. -/
theorem Front.not_passed {child : Node} (hchild : child ∈ page.children Bundled.catalogue node) :
    ¬Passed unmet ((above, node) :: rest) child := by
  intro hpassed
  have hnode : node ∈ page.stored := h.stored _ (List.mem_cons_self ..)
  exact h.owners node hnode child hchild hpassed form hf
    (h.fresh _ (List.mem_cons_self ..) form hf)

variable (hd : page.DistinctIds) (ht : page.TextIds)
include hd ht

/-- Meeting a node lets the walk pass its children and no other node. -/
theorem Front.passed_of_enter {child : Node} (hchild : child ∈ page.stored)
    (hpassed : Passed (strike form unmet) (page.waysBelow above node form ++ rest) child) :
    child ∈ page.children Bundled.catalogue node ∨ Passed unmet ((above, node) :: rest) child := by
  rcases hpassed with hcome | ⟨own, hown, hmet⟩
  · rw [List.map_append, map_snd_waysBelow] at hcome
    rcases List.mem_append.1 hcome with hcome | hcome
    · exact Or.inl hcome
    · exact Or.inr (Or.inl (List.mem_cons_of_mem _ hcome))
  · right
    by_cases heq : own = form
    · -- the id that is struck is that of the node, which was to come
      have hself : child = node :=
        hd.eq_of_form ht hchild (h.stored _ (List.mem_cons_self ..))
          (hown.trans (heq ▸ hf.symm))
      exact Or.inl (hself ▸ List.mem_cons_self ..)
    · exact Or.inr ⟨own, hown, fun hin => hmet (mem_strike.2 ⟨hin, heq⟩)⟩

/-- **Meeting a node puts its children in front of the nodes to come.** -/
theorem Front.enter : page.Front (strike form unmet) (page.waysBelow above node form ++ rest) := by
  have hnode : node ∈ page.stored := h.stored _ (List.mem_cons_self ..)
  obtain ⟨hnotLater, hlater⟩ := List.nodup_cons.1 h.nodup
  refine ⟨?_, ?_, ?_, ?_, ?_⟩
  · intro e he
    rcases List.mem_append.1 he with he | he
    · obtain ⟨child, hchild, rfl⟩ := List.mem_map.1 he
      exact children_subset_stored node hchild
    · exact h.stored e (List.mem_cons_of_mem _ he)
  · rw [List.map_append, map_snd_waysBelow]
    refine List.nodup_append.2 ⟨hd.nodup_children node, hlater, ?_⟩
    intro child hchild other hother heq
    exact h.not_passed hf hchild (Or.inl (List.mem_cons_of_mem _ (heq ▸ hother)))
  · intro e he own hown
    rw [mem_strike]
    rcases List.mem_append.1 he with he | he
    · obtain ⟨child, hchild, rfl⟩ := List.mem_map.1 he
      have hnot := h.not_passed hf hchild
      refine ⟨by_contra fun hmet => hnot (Or.inr ⟨own, hown, hmet⟩), fun heq => hnot (Or.inl ?_)⟩
      have hself : child = node :=
        hd.eq_of_form ht (children_subset_stored node hchild) hnode (hown.trans (heq ▸ hf.symm))
      exact hself ▸ List.mem_cons_self ..
    · have hin : e ∈ (above, node) :: rest := List.mem_cons_of_mem _ he
      refine ⟨h.fresh e hin own hown, fun heq => hnotLater ?_⟩
      have hself : e.2 = node :=
        hd.eq_of_form ht (h.stored e hin) hnode (hown.trans (heq ▸ hf.symm))
      have hlate : e.2 ∈ rest.map Prod.snd := List.mem_map_of_mem he
      exact hself ▸ hlate
  · intro e he own hown hmem
    obtain ⟨hmem, hne⟩ := mem_strike.1 hmem
    rcases List.mem_append.1 he with he | he
    · obtain ⟨child, _, rfl⟩ := List.mem_map.1 he
      rcases List.mem_cons.1 hown with rfl | hown
      · exact hne rfl
      · exact h.above _ (List.mem_cons_self ..) own hown hmem
    · exact h.above e (List.mem_cons_of_mem _ he) own hown hmem
  · intro owner howner child hchild hpassed own hown hmem
    obtain ⟨hmem, hne⟩ := mem_strike.1 hmem
    have hstored : child ∈ page.stored := children_subset_stored owner hchild
    rcases h.passed_of_enter hf hd ht hstored hpassed with hbelow | hbefore
    · -- the owner of the children is the node that is met
      have hself : owner = node := hd.owner_eq ht howner hnode hchild hbelow
      rw [hself, hf] at hown
      exact hne (Option.some.inj hown).symm
    · exact h.owners owner howner child hchild hbefore own hown hmem

end Enter

/-! ## The walk and the expansion -/

/-- The items that are met from the ends of ways on. -/
def metFrom (page : Page) (profile : Profile) (ends : List (List ScalarForm × Node)) : List Item :=
  ends.flatMap fun e => (page.item Bundled.catalogue profile (page.openForms e.1) e.2).met

theorem met_eq_metFrom :
    page.met Bundled.catalogue profile =
      page.metFrom profile (page.content.map fun node => ([], node)) := by
  rw [met, expand, expandWith_eq_map, itemsMet_eq_flatMap, metFrom, List.flatMap_map,
    List.flatMap_map]
  rfl

/-- **A node that may be entered is met first, and then what is met from its children on.** A node
that is dropped has no children. -/
theorem met_item_of_mem (hb : profile.IsBundled) {above : List ScalarForm} {node : Node}
    {form : ScalarForm} (hf : node.form? = some form) (hm : form ∈ page.openForms above) :
    (page.item Bundled.catalogue profile (page.openForms above) node).met =
      page.item Bundled.catalogue profile (page.openForms above) node ::
        page.metFrom profile (page.waysBelow above node form) := by
  cases hr : profile.rule? node.type with
  | none =>
    have hzones : Bundled.catalogue.zoneNames node.type node.props = [] := by
      by_contra hne
      obtain ⟨framework, hfollows⟩ := hb.follows
      rw [rule?_of_zoneNames_ne_nil hfollows hne] at hr
      contradiction
    have hitem : page.item Bundled.catalogue profile (page.openForms above) node =
        .unsupported node := by
      simp [item, hr]
    rw [hitem, Item.met, metFrom, waysBelow, children, childZones, hzones]
    rfl
  | some layout =>
    rw [item_rendered Bundled.settled hr hf hm, Item.met, zonesMet_eq_flatMap, List.flatMap_map,
      metFrom, waysBelow, children, childZones, List.flatMap_map, List.flatMap_map,
      List.flatMap_assoc]
    simp only [expandWith_eq_map, itemsMet_eq_flatMap, List.flatMap_map, openForms_cons]

theorem cut?_item_of_mem {above : List ScalarForm} {node : Node} {form : ScalarForm}
    (hf : node.form? = some form) (hm : form ∈ page.openForms above) :
    (page.item Bundled.catalogue profile (page.openForms above) node).cut? = none := by
  cases hr : profile.rule? node.type with
  | none => simp [item, hr, Item.cut?]
  | some layout =>
    rw [item_rendered Bundled.settled hr hf hm]
    rfl

/-- **The walk goes on as the expansion does**, and the expansion cuts nothing. -/
theorem Front.visit_eq (hb : profile.IsBundled) (ht : page.TextIds) (hd : page.DistinctIds)
    {unmet : List ScalarForm} {ends : List (List ScalarForm × Node)} (h : page.Front unmet ends) :
    page.visit Bundled.catalogue (fun _ => true) unmet (ends.map Prod.snd) =
        (page.metFrom profile ends).map Item.node ∧
      ∀ item ∈ page.metFrom profile ends, item.cut? = none := by
  generalize htodo : ends.map Prod.snd = todo
  induction unmet, todo using visit_induction page Bundled.catalogue fun _ => true
    generalizing ends with
  | nil unmet =>
    rw [List.map_eq_nil_iff.1 htodo, visit]
    exact ⟨rfl, fun item hitem => absurd hitem List.not_mem_nil⟩
  | unusable unmet node rest hf ih =>
    obtain ⟨e, later, rfl, rfl, _⟩ := List.map_eq_cons_iff.1 htodo
    have hsome := ht.form?_isSome (h.stored e (List.mem_cons_self ..))
    rw [hf] at hsome
    contradiction
  | enter unmet node rest form hf hu hk ih =>
    obtain ⟨⟨above, own⟩, later, rfl, rfl, rfl⟩ := List.map_eq_cons_iff.1 htodo
    have hm : form ∈ page.openForms above :=
      mem_openForms.2 ⟨form_mem_storedForms (h.stored _ (List.mem_cons_self ..)) hf,
        fun hmem => h.above _ (List.mem_cons_self ..) form hmem hu⟩
    obtain ⟨hwalk, hcuts⟩ := ih (h.enter hf hd ht) (by rw [List.map_append, map_snd_waysBelow])
    have hmet : page.metFrom profile ((above, own) :: later) =
        page.item Bundled.catalogue profile (page.openForms above) own ::
          page.metFrom profile (page.waysBelow above own form ++ later) := by
      rw [metFrom, List.flatMap_cons, met_item_of_mem hb hf hm, metFrom, metFrom,
        List.flatMap_append, List.cons_append]
    rw [visit_enter hf hu hk, hwalk, hmet, List.map_cons, item_node]
    refine ⟨rfl, fun item hitem => ?_⟩
    rcases List.mem_cons.1 hitem with rfl | hitem
    · exact cut?_item_of_mem hf hm
    · exact hcuts item hitem
  | pass unmet node rest form hf hn ih =>
    -- a node that is to come is not met, so it is never passed over
    obtain ⟨e, later, rfl, rfl, _⟩ := List.map_eq_cons_iff.1 htodo
    exact absurd ⟨h.fresh e (List.mem_cons_self ..) form hf, rfl⟩ hn

/-- The walk of a page without a repeated id meets what the expansion meets. -/
theorem walk_eq_met (hb : profile.IsBundled) (ht : page.TextIds) (hd : page.DistinctIds) :
    page.walk Bundled.catalogue = (page.met Bundled.catalogue profile).map Item.node := by
  have hvisit := (hd.front.visit_eq hb ht hd).1
  have htop : (page.content.map fun node => (([] : List ScalarForm), node)).map Prod.snd =
      page.content := by
    rw [List.map_map]
    exact List.map_id _
  rwa [← met_eq_metFrom, htop] at hvisit

/-- Nothing is cut on a page without a repeated id. -/
theorem cut?_eq_none (hb : profile.IsBundled) (ht : page.TextIds) (hd : page.DistinctIds)
    {item : Item} (h : item ∈ page.met Bundled.catalogue profile) : item.cut? = none :=
  (hd.front.visit_eq hb ht hd).2 item (met_eq_metFrom ▸ h)

/-! ## What is rendered -/

/-- What is met and not cut is rendered if the profile can render its node. -/
theorem rendering?_of_mem_met (ht : page.TextIds) {item : Item}
    (h : item ∈ page.met Bundled.catalogue profile) (hcut : item.cut? = none) :
    item.rendering?.map Prod.fst = if profile.shows item.node then some item.node else none := by
  obtain ⟨above, node, htrail, rfl⟩ := (mem_met_iff Bundled.settled).1 h
  have hdropped : (page.item Bundled.catalogue profile (page.openForms above) node).dropped? =
      if profile.shows node then none else some node := dropped?_item _ node
  rw [item_node]
  rcases item_cases page Bundled.catalogue profile (page.openForms above) node with
    ⟨layout, form, hr, hf, hm⟩ | heq | heq | ⟨hnone, _⟩
  · have hshows : profile.shows node = true := Profile.supports_of_rule? hr
    rw [item_rendered Bundled.settled hr hf hm, if_pos hshows]
    rfl
  · rw [heq] at hdropped ⊢
    split at hdropped
    · contradiction
    · rename_i hshows
      rw [if_neg hshows]
      rfl
  · rw [heq] at hcut
    contradiction
  · have hsome := ht.form?_isSome htrail.stored
    rw [hnone] at hsome
    contradiction

/-- The nodes that are rendered are met, in the same order. -/
theorem renderings_sublist_met (page : Page) (profile : Profile) :
    ((page.renderings Bundled.catalogue profile).map Prod.fst).Sublist
      ((page.met Bundled.catalogue profile).map Item.node) := by
  rw [renderings_eq_met, List.map_filterMap]
  induction page.met Bundled.catalogue profile with
  | nil => exact List.Sublist.slnil
  | cons item rest ih =>
    cases item with
    | rendered node layout props zones => exact ih.cons_cons node
    | unsupported node => exact ih.cons node
    | cut node => exact ih.cons node
    | failed node fault => exact ih.cons node

/-- No two rendered nodes share an id. -/
theorem DistinctIds.nodup_renderings (hd : page.DistinctIds) (hb : profile.IsBundled)
    (ht : page.TextIds) :
    ((page.renderings Bundled.catalogue profile).map fun entry => entry.1.id).Nodup := by
  have hwalk : page.walk Bundled.catalogue = (page.met Bundled.catalogue profile).map Item.node :=
    walk_eq_met hb ht hd
  have hsublist := (renderings_sublist_met page profile).map Node.id
  rw [← hwalk, List.map_map] at hsublist
  exact ht.nodup_walk.sublist hsublist

/-- The nodes that the items of a sequence themselves render. -/
def renderedNodes (items : List Item) : List Node :=
  items.filterMap fun item => item.rendering?.map Prod.fst

/-- The nodes at the end of one way are rendered in their order, if the profile can render them. -/
theorem renderedNodes_expandWith (hb : profile.IsBundled) (ht : page.TextIds)
    (hd : page.DistinctIds) {above : List ScalarForm} {nodes : List Node}
    (hnodes : ∀ node ∈ nodes, Trail page Bundled.catalogue profile.supports above node) :
    renderedNodes (page.expandWith Bundled.catalogue profile (page.openForms above) nodes) =
      nodes.filter profile.shows := by
  rw [expandWith_eq_map, renderedNodes, List.filterMap_map, ← List.filterMap_eq_filter]
  refine List.filterMap_congr fun node hnode => ?_
  have hmet : page.item Bundled.catalogue profile (page.openForms above) node ∈
      page.met Bundled.catalogue profile :=
    (mem_met_iff Bundled.settled).2 ⟨above, node, hnodes node hnode, rfl⟩
  have hrendering := rendering?_of_mem_met ht hmet (cut?_eq_none hb ht hd hmet)
  rw [item_node] at hrendering
  exact hrendering

/-- What becomes of the zones of a rendered node. -/
structure Columns (page : Page) (profile : Profile) (node : Node) (zones : List (List Item))
    (m : Markup) : Prop where
  /-- There is a column for each zone of the node, in order, and it renders those of the stored
  nodes that the profile can render, in order. -/
  nodes : zones.map renderedNodes =
    (Bundled.catalogue.zoneNames node.type node.props).map fun name =>
      (page.zone node.id.toText name).filter profile.shows
  /-- The cells of the markup of the node hold what its columns lay out, in order. -/
  cells : zones ≠ [] → layoutZones zones = .ok m.cells

/-- **Children are laid out in the column of the zone that stores them.** -/
theorem columns_of_mem_met (hb : profile.IsBundled) (ht : page.TextIds) (hd : page.DistinctIds)
    {node : Node} {layout : Layout} {props : Props} {zones : List (List Item)}
    (h : .rendered node layout props zones ∈ page.met Bundled.catalogue profile) :
    ∃ m, (Item.rendered node layout props zones).layout = .ok [m] ∧
      page.Columns profile node zones m := by
  obtain ⟨hr, _, above, form, htrail, hf, hnew, hzones⟩ := rendered_of_mem_met Bundled.settled h
  obtain ⟨own, hown⟩ := layout_of_mem_met hb (fun node hnode => ht.form?_isSome hnode) h
  obtain ⟨bodies, m, hbodies, hlayout, rfl⟩ := layout_rendered hown
  refine ⟨m, hown, ?_, ?_⟩
  · rw [hzones, List.map_map]
    refine List.map_congr_left fun name hname => ?_
    -- the children are at the end of the way of their owner, one id longer
    have hdown : ∀ child ∈ page.zone node.id.toText name,
        Trail page Bundled.catalogue profile.supports (form :: above) child := by
      intro child hchild
      exact htrail.down (Profile.supports_of_rule? hr) hf hnew
        (mem_children.2 ⟨name, hname, hchild⟩)
    exact renderedNodes_expandWith hb ht hd hdown
  · intro hne
    have hnames : Bundled.catalogue.zoneNames node.type node.props ≠ [] := by
      intro hnone
      rw [hzones, hnone] at hne
      exact hne rfl
    obtain ⟨framework, hfollows⟩ := hb.follows
    rw [rule?_of_zoneNames_ne_nil hfollows hnames] at hr
    rw [← Option.some.inj hr] at hlayout
    rw [cells_grid hlayout]
    exact hbodies

/--
**No node is lost, doubled or moved** on a page without a repeated id: rendering it comes to its
end, renders the nodes of the walk that the profile can render, in the order of the walk and each
of them once, lays out children in the columns of their zones, and cuts nothing.
-/
theorem renderings_eq_walk (hb : profile.IsBundled) (ht : page.TextIds) (hd : page.DistinctIds) :
    (∃ markup, page.render Bundled.catalogue profile page.content = .ok markup) ∧
      (page.renderings Bundled.catalogue profile).map Prod.fst =
        (page.walk Bundled.catalogue).filter profile.shows ∧
      ((page.walk Bundled.catalogue).map Node.id).Nodup ∧
      (∀ node layout props zones,
        .rendered node layout props zones ∈ page.met Bundled.catalogue profile →
        ∃ m, (Item.rendered node layout props zones).layout = .ok [m] ∧
          page.Columns profile node zones m) ∧
      ∀ notice ∈ page.notices Bundled.catalogue profile page.content, notice.level ≠ .warning := by
  obtain ⟨markup, hmarkup⟩ := render_ok hb fun node hnode => ht.form?_isSome hnode
  refine ⟨⟨markup, hmarkup⟩, ?_, ht.nodup_walk,
    fun node layout props zones h => columns_of_mem_met hb ht hd h, ?_⟩
  · have hwalk : page.walk Bundled.catalogue =
        (page.met Bundled.catalogue profile).map Item.node := walk_eq_met hb ht hd
    rw [renderings_eq_met, List.map_filterMap, hwalk, ← List.filterMap_eq_filter,
      List.filterMap_map]
    refine List.filterMap_congr fun item hitem => ?_
    exact rendering?_of_mem_met ht hitem (cut?_eq_none hb ht hd hitem)
  · intro notice hnotice hlevel
    have hcuts : page.cuts Bundled.catalogue profile = [] :=
      List.filterMap_eq_nil_iff.2 fun item hitem => cut?_eq_none hb ht hd hitem
    have hwarnings := warning_notices hmarkup
    rw [hcuts] at hwarnings
    have hmem : notice ∈ (page.notices Bundled.catalogue profile page.content).filter
        fun notice => notice.level = .warning :=
      List.mem_filter.2 ⟨hnotice, by simpa using hlevel⟩
    rw [hwarnings] at hmem
    exact List.not_mem_nil hmem

/-- A section with two columns, the first of which holds a section with an id that looks like an
address. Beside them an unknown type, and a section that only its own zone holds. -/
def nested : Page where
  id := "home"
  content := [{ id := .text "s", type := "Section", props := [(.text "columns", .int 2)] }]
  zones := [
    ("gone:col-0", [{ id := .text "gone", type := "Section" }]),
    ("s:col-1", [{ id := .text "b", type := "Badge" }, { id := .text "h", type := "Carousel" }]),
    ("s:col-0", [{ id := .text "s:col-0", type := "Section" }]),
    ("s:col-0:col-0", [{ id := .text "c", type := "Card" }])]

/-- The nested page renders what its walk meets, but for the unknown type. -/
theorem renderings_eq_walk_nested :
    nested.stored.length = 6 ∧
      (nested.renderings Bundled.catalogue shadcnProfile).map Prod.fst =
        (nested.walk Bundled.catalogue).filter shadcnProfile.shows := by
  have ht : nested.TextIds := by decide
  have hd : nested.DistinctIds := by
    simp [DistinctIds, stored, nested]
  exact ⟨rfl, (renderings_eq_walk shadcnProfile_isBundled ht hd).2.1⟩

end Page

end Pagewright
