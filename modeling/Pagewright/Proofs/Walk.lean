import Pagewright.Document.Walk

/-!
# Where a visit goes

A visit keeps one list of ids that it has not met yet, and cuts at every id outside it. Two facts
make it a search. Every node it visits stands at the end of a way down the page on which no id
comes twice (`exists_trail_of_mem_visit`), because the ids on the way were struck when they were
met. And it misses nothing: whatever stands at the top or in a zone of a visited node has its id
visited (`visit_meets`), because an id leaves the list only when a node of it is visited.

A way down is a `Trail`: the ids of the owners that it passes, the nearest first, each owner kept
and none of an id that encloses it. The expansion of a page cuts along the same ways, which is how
the two are compared.
-/

namespace Pagewright

namespace Page

variable {page : Page} {catalogue : Catalogue} {keep : String → Bool}

/-- The nodes in the zones that a node owns. -/
def children (page : Page) (catalogue : Catalogue) (node : Node) : List Node :=
  (page.childZones catalogue node).flatMap Prod.snd

theorem mem_children {node child : Node} :
    child ∈ page.children catalogue node ↔
      ∃ name ∈ catalogue.zoneNames node.type node.props,
        child ∈ page.zone node.id.toText name := by
  rw [children, childZones, List.flatMap_map]
  exact List.mem_flatMap

/-- A node of a zone is stored in it. -/
theorem exists_zone_of_mem {key : String} {node : Node} (h : node ∈ page.zoneAt key) :
    ∃ nodes, (key, nodes) ∈ page.zones ∧ node ∈ nodes := by
  unfold zoneAt at h
  cases hl : page.zones.lookup key with
  | none => simp [hl] at h
  | some nodes =>
    rw [hl] at h
    exact ⟨nodes, mem_of_lookup hl, h⟩

theorem zoneAt_subset_stored (key : String) : page.zoneAt key ⊆ page.stored := by
  intro node h
  obtain ⟨nodes, hentry, hmem⟩ := exists_zone_of_mem h
  exact List.mem_append_right _ (List.mem_flatMap.2 ⟨_, hentry, hmem⟩)

theorem content_subset_stored : page.content ⊆ page.stored :=
  List.subset_append_left _ _

theorem children_subset_stored (node : Node) : page.children catalogue node ⊆ page.stored := by
  intro child h
  obtain ⟨name, _, h⟩ := mem_children.1 h
  exact zoneAt_subset_stored _ h

theorem form_mem_storedForms {node : Node} {form : ScalarForm} (h : node ∈ page.stored)
    (hf : node.form? = some form) : form ∈ page.storedForms :=
  List.mem_filterMap.2 ⟨node, h, hf⟩

/-! ## One step of a visit -/

section Steps

variable {unmet : List ScalarForm} {node : Node} {rest : List Node} {form : ScalarForm}

theorem visit_unusable (h : node.form? = none) :
    page.visit catalogue keep unmet (node :: rest) =
      node :: page.visit catalogue keep unmet rest := by
  rw [visit]; simp [h]

theorem visit_enter (h : node.form? = some form) (hu : form ∈ unmet) (hk : keep node.type = true) :
    page.visit catalogue keep unmet (node :: rest) =
      node :: page.visit catalogue keep (strike form unmet)
        (page.children catalogue node ++ rest) := by
  rw [visit]; simp [h, hu, hk, children]

theorem visit_pass (h : node.form? = some form) (hn : ¬(form ∈ unmet ∧ keep node.type = true)) :
    page.visit catalogue keep unmet (node :: rest) = page.visit catalogue keep unmet rest := by
  rw [visit]; simp [h, hn]

/-- A visit of one node that stands alone. -/
theorem visitAll_eq_singleton (hc : page.content = [node]) (hf : node.form? = some form)
    (hk : keep node.type = true) (hz : page.children catalogue node = []) :
    page.visitAll catalogue keep = [node] := by
  have hstored : node ∈ page.stored := content_subset_stored (by rw [hc]; simp)
  rw [visitAll, hc, visit_enter hf (form_mem_storedForms hstored hf) hk, hz, List.nil_append,
    visit]

end Steps

/-- **Induction along a visit**: what a visit does with the first node, in the three cases. -/
theorem visit_induction (page : Page) (catalogue : Catalogue) (keep : String → Bool)
    {motive : List ScalarForm → List Node → Prop}
    (nil : ∀ unmet, motive unmet [])
    (unusable : ∀ unmet node rest, node.form? = none → motive unmet rest →
      motive unmet (node :: rest))
    (enter : ∀ unmet node rest form, node.form? = some form → form ∈ unmet →
      keep node.type = true →
      motive (strike form unmet) (page.children catalogue node ++ rest) →
      motive unmet (node :: rest))
    (pass : ∀ unmet node rest form, node.form? = some form →
      ¬(form ∈ unmet ∧ keep node.type = true) → motive unmet rest → motive unmet (node :: rest))
    (unmet : List ScalarForm) (todo : List Node) : motive unmet todo := by
  induction unmet, todo using visit.induct page catalogue keep with
  | case1 unmet => exact nil unmet
  | case2 unmet node rest hf ih => exact unusable unmet node rest hf ih
  | case3 unmet node rest form hf h ih => exact enter unmet node rest form hf h.1 h.2 ih
  | case4 unmet node rest form hf h ih => exact pass unmet node rest form hf h ih

/-! ## Ways down a page -/

/-- A way down a page to a node, by the ids of the owners that enclose it. Every owner on it is
kept, and no owner has an id that encloses it. -/
inductive Trail (page : Page) (catalogue : Catalogue) (keep : String → Bool) :
    List ScalarForm → Node → Prop where
  | top {node : Node} : node ∈ page.content → Trail page catalogue keep [] node
  | down {above : List ScalarForm} {owner node : Node} {form : ScalarForm} :
      Trail page catalogue keep above owner → keep owner.type = true →
      owner.form? = some form → form ∉ above → node ∈ page.children catalogue owner →
      Trail page catalogue keep (form :: above) node

theorem Trail.stored {above : List ScalarForm} {node : Node}
    (h : Trail page catalogue keep above node) : node ∈ page.stored := by
  cases h with
  | top h => exact content_subset_stored h
  | down _ _ _ _ h => exact children_subset_stored _ h

/-- A way down stays one when its owners are kept for another reason. -/
theorem Trail.imp {keep' : String → Bool} {above : List ScalarForm} {node : Node}
    (hk : ∀ owner : Node, page.children catalogue owner ≠ [] → keep owner.type = true →
      keep' owner.type = true)
    (h : Trail page catalogue keep above node) : Trail page catalogue keep' above node := by
  induction h with
  | top h => exact .top h
  | down _ hkept hf hnew hmem ih =>
    exact .down ih (hk _ (List.ne_nil_of_mem hmem) hkept) hf hnew hmem

/-! ## What a visit visits -/

/-- A visited node with a usable id is kept, and its id was unmet. -/
theorem of_mem_visit {unmet : List ScalarForm} {todo : List Node} {node : Node}
    {form : ScalarForm} (h : node ∈ page.visit catalogue keep unmet todo)
    (hf : node.form? = some form) : keep node.type = true ∧ form ∈ unmet := by
  induction unmet, todo using visit_induction page catalogue keep with
  | nil unmet => simp [visit] at h
  | unusable unmet first rest hnone ih =>
    rw [visit_unusable hnone] at h
    rcases List.mem_cons.1 h with rfl | h
    · exact absurd hf (by simp [hnone])
    · exact ih h
  | enter unmet first rest own hown hu hk ih =>
    rw [visit_enter hown hu hk] at h
    rcases List.mem_cons.1 h with rfl | h
    · rw [hf] at hown
      exact ⟨hk, Option.some.inj hown ▸ hu⟩
    · exact ⟨(ih h).1, (mem_strike.1 (ih h).2).1⟩
  | pass unmet first rest own hown hn ih =>
    rw [visit_pass hown hn] at h
    exact ih h

/-- A visit meets no id twice. -/
theorem nodup_visit (unmet : List ScalarForm) (todo : List Node) :
    ((page.visit catalogue keep unmet todo).filterMap Node.form?).Nodup := by
  induction unmet, todo using visit_induction page catalogue keep with
  | nil unmet =>
    rw [visit]
    exact List.nodup_nil
  | unusable unmet first rest hnone ih =>
    rwa [visit_unusable hnone, List.filterMap_cons_none hnone]
  | enter unmet first rest own hown hu hk ih =>
    rw [visit_enter hown hu hk, List.filterMap_cons_some hown]
    refine List.nodup_cons.2 ⟨?_, ih⟩
    -- whatever comes later was unmet when the id was struck
    intro h
    obtain ⟨later, hlater, hf⟩ := List.mem_filterMap.1 h
    exact (mem_strike.1 (of_mem_visit hlater hf).2).2 rfl
  | pass unmet first rest own hown hn ih =>
    rwa [visit_pass hown hn]

/--
**A visit goes down the page without passing an id twice.**

The invariant of the list of nodes to come: each of them ends a way down all of whose ids are met.
-/
theorem exists_trail_of_mem_visit {unmet : List ScalarForm} {todo : List Node}
    (htodo : ∀ node ∈ todo, ∃ above, Trail page catalogue keep above node ∧
      ∀ form ∈ above, form ∉ unmet)
    {node : Node} (h : node ∈ page.visit catalogue keep unmet todo) :
    ∃ above, Trail page catalogue keep above node ∧
      ∀ form, node.form? = some form → form ∉ above := by
  induction unmet, todo using visit_induction page catalogue keep with
  | nil unmet => simp [visit] at h
  | unusable unmet first rest hnone ih =>
    rw [visit_unusable hnone] at h
    rcases List.mem_cons.1 h with rfl | h
    · obtain ⟨above, htrail, _⟩ := htodo node (by simp)
      exact ⟨above, htrail, fun form hf => absurd hf (by simp [hnone])⟩
    · exact ih (fun other hother => htodo other (by simp [hother])) h
  | enter unmet first rest own hown hu hk ih =>
    obtain ⟨above, htrail, hmet⟩ := htodo first (by simp)
    have hnew : own ∉ above := fun hmem => hmet own hmem hu
    rw [visit_enter hown hu hk] at h
    rcases List.mem_cons.1 h with rfl | h
    · exact ⟨above, htrail, fun form hf => by rw [hown] at hf; exact Option.some.inj hf ▸ hnew⟩
    · refine ih (fun other hother => ?_) h
      rcases List.mem_append.1 hother with hother | hother
      · -- the children end the way of their owner, one id longer
        refine ⟨own :: above, htrail.down hk hown hnew hother, fun form hform => ?_⟩
        rcases List.mem_cons.1 hform with rfl | hform
        · simp
        · exact fun hmem => hmet form hform (mem_strike.1 hmem).1
      · obtain ⟨above', htrail', hmet'⟩ := htodo other (by simp [hother])
        exact ⟨above', htrail', fun form hform hmem => hmet' form hform (mem_strike.1 hmem).1⟩
  | pass unmet first rest own hown hn ih =>
    rw [visit_pass hown hn] at h
    exact ih (fun other hother => htodo other (by simp [hother])) h

/--
**A visit misses nothing.** An unmet id is visited as soon as a kept node of it is still to come
or stands in a zone of a visited node.
-/
theorem visit_meets {unmet : List ScalarForm} {todo : List Node} {node : Node} {form : ScalarForm}
    (hf : node.form? = some form) (hk : keep node.type = true) (hu : form ∈ unmet)
    (h : node ∈ todo ∨ ∃ owner ∈ page.visit catalogue keep unmet todo, owner.form?.isSome ∧
      node ∈ page.children catalogue owner) :
    ∃ met ∈ page.visit catalogue keep unmet todo, met.form? = some form := by
  induction unmet, todo using visit_induction page catalogue keep with
  | nil unmet => simp [visit] at h
  | unusable unmet first rest hnone ih =>
    rw [visit_unusable hnone] at h ⊢
    obtain ⟨met, hmet, hform⟩ : ∃ met ∈ page.visit catalogue keep unmet rest,
        met.form? = some form := by
      refine ih hu ?_
      rcases h with h | ⟨owner, howner, hsome, hmem⟩
      · rcases List.mem_cons.1 h with rfl | h
        · exact absurd hf (by simp [hnone])
        · exact Or.inl h
      · rcases List.mem_cons.1 howner with rfl | howner
        · exact absurd hsome (by simp [hnone])
        · exact Or.inr ⟨owner, howner, hsome, hmem⟩
    exact ⟨met, List.mem_cons_of_mem _ hmet, hform⟩
  | enter unmet first rest own hown hfirst hkept ih =>
    rw [visit_enter hown hfirst hkept] at h ⊢
    by_cases hsame : form = own
    · exact ⟨first, by simp, hsame ▸ hown⟩
    · -- an id other than the struck one is still unmet, and its node still to come
      obtain ⟨met, hmet, hform⟩ := ih (mem_strike.2 ⟨hu, hsame⟩) (by
        rcases h with h | ⟨owner, howner, hsome, hmem⟩
        · rcases List.mem_cons.1 h with rfl | h
          · exact absurd (Option.some.inj (hf.symm.trans hown)) hsame
          · exact Or.inl (List.mem_append_right _ h)
        · rcases List.mem_cons.1 howner with rfl | howner
          · exact Or.inl (List.mem_append_left _ hmem)
          · exact Or.inr ⟨owner, howner, hsome, hmem⟩)
      exact ⟨met, List.mem_cons_of_mem _ hmet, hform⟩
  | pass unmet first rest own hown hn ih =>
    rw [visit_pass hown hn] at h ⊢
    refine ih hu ?_
    rcases h with h | h
    · rcases List.mem_cons.1 h with rfl | h
      · have : form = own := Option.some.inj (hf.symm.trans hown)
        exact absurd ⟨this ▸ hu, hk⟩ hn
      · exact Or.inl h
    · exact Or.inr h

/-! ## The visit of a whole page -/

/-- A node that a page's visit reaches ends a way down on which its id does not stand. -/
theorem exists_trail_of_mem_visitAll {node : Node} (h : node ∈ page.visitAll catalogue keep) :
    ∃ above, Trail page catalogue keep above node ∧
      ∀ form, node.form? = some form → form ∉ above :=
  exists_trail_of_mem_visit (fun _ hother => ⟨[], .top hother, by simp⟩) h

theorem visitAll_subset_stored : page.visitAll catalogue keep ⊆ page.stored := by
  intro node h
  obtain ⟨above, htrail, _⟩ := exists_trail_of_mem_visitAll h
  exact htrail.stored

theorem visitAll_meets_top {node : Node} {form : ScalarForm} (h : node ∈ page.content)
    (hf : node.form? = some form) (hk : keep node.type = true) :
    ∃ met ∈ page.visitAll catalogue keep, met.form? = some form :=
  visit_meets hf hk (form_mem_storedForms (content_subset_stored h) hf) (Or.inl h)

theorem visitAll_meets_child {owner node : Node} {form : ScalarForm}
    (howner : owner ∈ page.visitAll catalogue keep) (hsome : owner.form?.isSome)
    (h : node ∈ page.children catalogue owner) (hf : node.form? = some form)
    (hk : keep node.type = true) : ∃ met ∈ page.visitAll catalogue keep, met.form? = some form :=
  visit_meets hf hk (form_mem_storedForms (children_subset_stored _ h) hf)
    (Or.inr ⟨owner, howner, hsome, h⟩)

/-! ## Pages whose ids are used consistently -/

/-- Every id is a text. -/
def TextIds (page : Page) : Prop := ∀ node ∈ page.stored, ∃ s, node.id = .text s

instance (page : Page) : Decidable page.TextIds :=
  decidable_of_iff (∀ node ∈ page.stored, node.id.isText = true)
    (forall₂_congr fun _ _ => Value.isText_iff)

/-- Nodes that share an id have one type and the same props. -/
def SharedIdsAgree (page : Page) : Prop :=
  ∀ a ∈ page.stored, ∀ b ∈ page.stored, a.id = b.id → a.type = b.type ∧ a.props = b.props

theorem TextIds.form?_isSome (h : page.TextIds) {node : Node} (hn : node ∈ page.stored) :
    node.form?.isSome := by
  obtain ⟨s, hs⟩ := h node hn
  rw [Node.form?, hs]
  rfl

theorem TextIds.id_eq (h : page.TextIds) {a b : Node} (ha : a ∈ page.stored)
    (hb : b ∈ page.stored) (hf : a.form? = b.form?) : a.id = b.id := by
  obtain ⟨s, hs⟩ := h a ha
  obtain ⟨t, ht⟩ := h b hb
  simp only [Node.form?, hs, ht, Scalar.formAt, Option.some.injEq, ScalarForm.text.injEq] at hf
  rw [hs, ht, hf]

/-- No two nodes of a walk have one id. -/
theorem TextIds.nodup_walk (h : page.TextIds) :
    ((page.walk catalogue).map Node.id).Nodup := by
  have hforms : ((page.walk catalogue).filterMap Node.form?).Nodup := nodup_visit _ _
  refine List.pairwise_map.2 ((List.pairwise_filterMap.1 hforms).imp_of_mem ?_)
  intro a b ha hb hne hid
  obtain ⟨s, hs⟩ := h a (visitAll_subset_stored ha)
  have ht : b.id = .text s := hid ▸ hs
  exact hne (.text s) (by rw [Node.form?, hs]; rfl) (.text s) (by rw [Node.form?, ht]; rfl) rfl

/-- Nodes that share an id own the same zones. -/
theorem SharedIdsAgree.children_eq (h : page.SharedIdsAgree) {a b : Node} (ha : a ∈ page.stored)
    (hb : b ∈ page.stored) (hid : a.id = b.id) :
    page.children catalogue a = page.children catalogue b := by
  obtain ⟨htype, hprops⟩ := h a ha b hb hid
  rw [children, children, childZones, childZones, hid, htype, hprops]

/--
**On consistent pages a way down is visited id by id.**

The visit may have met another node of an owner's id first, but that node owns the same zones.
-/
theorem Trail.met (ht : page.TextIds) (ha : page.SharedIdsAgree) {above : List ScalarForm}
    {node : Node} (h : Trail page catalogue keep above node) (hk : keep node.type = true) :
    ∃ met ∈ page.visitAll catalogue keep, met.id = node.id := by
  have hid : ∀ {node met : Node} {form : ScalarForm}, node ∈ page.stored →
      met ∈ page.visitAll catalogue keep → node.form? = some form → met.form? = some form →
      met.id = node.id := fun hnode hmet hf hfm =>
    ht.id_eq (visitAll_subset_stored hmet) hnode (hfm.trans hf.symm)
  obtain ⟨form, hf⟩ := Option.isSome_iff_exists.1 (ht.form?_isSome h.stored)
  induction h generalizing form with
  | top hmem =>
    obtain ⟨met, hmet, hfm⟩ := visitAll_meets_top hmem hf hk
    exact ⟨met, hmet, hid (content_subset_stored hmem) hmet hf hfm⟩
  | @down above owner node own howner hkept hown _ hmem ih =>
    obtain ⟨met, hmet, hmetid⟩ := ih hkept own hown
    have hmets : met ∈ page.stored := visitAll_subset_stored hmet
    rw [← ha.children_eq hmets howner.stored hmetid] at hmem
    obtain ⟨other, hother, hfo⟩ := visitAll_meets_child hmet (ht.form?_isSome hmets) hmem hf hk
    exact ⟨other, hother, hid (children_subset_stored _ hmem) hother hf hfo⟩

end Page

end Pagewright
