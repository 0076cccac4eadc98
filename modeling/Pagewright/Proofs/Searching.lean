import Pagewright.Catalogue.Bundled
import Pagewright.Proofs.Occurrences
import Pagewright.Proofs.Walk

/-!
# A walk is a depth-first search

A depth-first search enters a node, then searches its zones, and only then goes on to the nodes
behind it; all its loops share one growing set of ids that are met. `Page.Searches` says what such
a search comes to, with nothing but the ids met so far in view. It is a relation, so it holds of a
list of nodes only if the search ends with them. Collecting types is a second search with its own
set of ids and its own list of types found (`Page.Collects`).

The visit of a page has neither the nesting nor the growing set: it keeps a list of nodes to come
and strikes ids from those of the page. Both agree, because the ids still unmet are those of the
page without the met ones, and because a finished search leaves the visit in front of the nodes
behind (`Searches.visit_eq`). That a search ends follows from the ids that it may still meet
(`exists_searches`). Types are collected in step with it, node by node (`collects_iff`).
-/

namespace Pagewright

namespace Page

/-- What a search through nodes in order comes to, if the ids `met` are met before it: the nodes
that it enters, in order, and the ids that are met after it. A node of a met id is passed, as is
one outside `keep`. -/
inductive Searches (page : Page) (catalogue : Catalogue) (keep : String → Bool) :
    List ScalarForm → List Node → List Node → List ScalarForm → Prop where
  | nil {met : List ScalarForm} : Searches page catalogue keep met [] [] met
  | pass {met after : List ScalarForm} {node : Node} {rest entered : List Node}
      {form : ScalarForm} :
      node.form? = some form → (form ∈ met ∨ keep node.type = false) →
      Searches page catalogue keep met rest entered after →
      Searches page catalogue keep met (node :: rest) entered after
  | enter {met below after : List ScalarForm} {node : Node} {rest inner outer : List Node}
      {form : ScalarForm} :
      node.form? = some form → form ∉ met → keep node.type = true →
      Searches page catalogue keep (form :: met) (page.children catalogue node) inner below →
      Searches page catalogue keep below rest outer after →
      Searches page catalogue keep met (node :: rest) (node :: (inner ++ outer)) after

/-- The types that a node brings: its own, and those that come with it. -/
def broughtTypes (catalogue : Catalogue) (node : Node) : List String :=
  node.type :: catalogue.companions node.type

/-- What collecting types from nodes in order comes to, if the ids `met` are met and the types
`found` are found before it: the ids that are met and the types that are found after it. -/
inductive Collects (page : Page) (catalogue : Catalogue) (supports : String → Bool) :
    List ScalarForm → List String → List Node → List ScalarForm → List String → Prop where
  | nil {met : List ScalarForm} {found : List String} :
      Collects page catalogue supports met found [] met found
  | seen {met after : List ScalarForm} {found total : List String} {node : Node}
      {rest : List Node} {form : ScalarForm} :
      node.form? = some form → form ∈ met →
      Collects page catalogue supports met found rest after total →
      Collects page catalogue supports met found (node :: rest) after total
  | unsupported {met after : List ScalarForm} {found total : List String} {node : Node}
      {rest : List Node} {form : ScalarForm} :
      node.form? = some form → form ∉ met → supports node.type = false →
      Collects page catalogue supports met found rest after total →
      Collects page catalogue supports met found (node :: rest) after total
  | add {met below after : List ScalarForm} {found inside total : List String} {node : Node}
      {rest : List Node} {form : ScalarForm} :
      node.form? = some form → form ∉ met → supports node.type = true →
      Collects page catalogue supports (form :: met)
        ((broughtTypes catalogue node).foldl addNew found) (page.children catalogue node) below
        inside →
      Collects page catalogue supports below inside rest after total →
      Collects page catalogue supports met found (node :: rest) after total

variable {page : Page} {catalogue : Catalogue} {keep : String → Bool}

/-! ## The visit as a search -/

/-- The ids of a page that are not met. -/
def unmet (page : Page) (met : List ScalarForm) : List ScalarForm :=
  page.storedForms.filter (· ∉ met)

theorem mem_unmet {met : List ScalarForm} {form : ScalarForm} :
    form ∈ page.unmet met ↔ form ∈ page.storedForms ∧ form ∉ met := by
  simp [unmet]

theorem unmet_nil : page.unmet [] = page.storedForms :=
  List.filter_eq_self.2 fun form _ => by simp

/-- An id that is met is struck. -/
theorem unmet_cons (form : ScalarForm) (met : List ScalarForm) :
    page.unmet (form :: met) = strike form (page.unmet met) := by
  rw [unmet, unmet, strike, List.filter_filter]
  exact List.filter_congr fun other _ => by simp [not_or]

/-- **A visit goes on where a search ends**: it enters the nodes of the search, and has the ids
that are met by then struck in front of what stands behind. -/
theorem Searches.visit_eq {met after : List ScalarForm} {nodes entered : List Node}
    (h : Searches page catalogue keep met nodes entered after) (hstored : nodes ⊆ page.stored)
    (behind : List Node) :
    page.visit catalogue keep (page.unmet met) (nodes ++ behind) =
      entered ++ page.visit catalogue keep (page.unmet after) behind := by
  induction h generalizing behind with
  | nil => rfl
  | pass hf hpass _ ih =>
    have hnot : ¬(_ ∈ page.unmet _ ∧ keep _ = true) := fun hin =>
      hpass.elim (mem_unmet.1 hin.1).2 fun hk => Bool.false_ne_true (hk.symm.trans hin.2)
    rw [List.cons_append, visit_pass hf hnot, ih (List.cons_subset.1 hstored).2]
  | @enter met _ _ node _ _ _ form hf hnew hk _ _ ihinner ihouter =>
    obtain ⟨hnode, hrest⟩ := List.cons_subset.1 hstored
    have hunmet : form ∈ page.unmet met := mem_unmet.2 ⟨form_mem_storedForms hnode hf, hnew⟩
    -- the zones of the node come first, and the nodes behind it are behind them too
    rw [List.cons_append, visit_enter hf hunmet hk, ← unmet_cons,
      ihinner (children_subset_stored node), ihouter hrest, List.cons_append, List.append_assoc]

/-- What is met before a search is met after it. -/
theorem Searches.subset {met after : List ScalarForm} {nodes entered : List Node}
    (h : Searches page catalogue keep met nodes entered after) : met ⊆ after := by
  induction h with
  | nil => exact List.Subset.refl _
  | pass _ _ _ ih => exact ih
  | enter _ _ _ _ _ ihinner ihouter => exact fun _ hform => ihouter (ihinner (by simp [hform]))

/-- **A search ends**, whatever the zones lead to: each time it goes down, an id of the page is
met for good. -/
theorem exists_searches (hids : ∀ node ∈ page.stored, node.form?.isSome)
    {met : List ScalarForm} {nodes : List Node} (hstored : nodes ⊆ page.stored) :
    ∃ entered after, Searches page catalogue keep met nodes entered after := by
  have hsearch : ∀ left : List ScalarForm, ∀ met, page.unmet met ⊆ left → ∀ nodes,
      nodes ⊆ page.stored →
      ∃ entered after, Searches page catalogue keep met nodes entered after := by
    intro left
    induction left using strike_induction with
    | step left ih =>
      intro met hleft nodes
      induction nodes with
      | nil => exact fun _ => ⟨[], met, .nil⟩
      | cons node rest ihrest =>
        intro hstored
        obtain ⟨hnode, hrest⟩ := List.cons_subset.1 hstored
        obtain ⟨form, hf⟩ := Option.isSome_iff_exists.1 (hids node hnode)
        by_cases hpass : form ∈ met ∨ keep node.type = false
        · obtain ⟨entered, after, hsearches⟩ := ihrest hrest
          exact ⟨entered, after, .pass hf hpass hsearches⟩
        · obtain ⟨hnew, hk⟩ := not_or.1 hpass
          have hform : form ∈ left :=
            hleft (mem_unmet.2 ⟨form_mem_storedForms hnode hf, hnew⟩)
          -- whoever has met the id has one id less to meet
          have hless : ∀ later : List ScalarForm, form :: met ⊆ later →
              page.unmet later ⊆ strike form left := by
            intro later hlater other hother
            obtain ⟨hin, hout⟩ := mem_unmet.1 hother
            have hstill : other ∉ met := fun h => hout (hlater (by simp [h]))
            refine mem_strike.2 ⟨hleft (mem_unmet.2 ⟨hin, hstill⟩), ?_⟩
            rintro rfl
            exact hout (hlater (by simp))
          obtain ⟨inner, below, hinner⟩ := ih form hform (form :: met)
            (hless _ (List.Subset.refl _)) _ (children_subset_stored node)
          obtain ⟨outer, after, houter⟩ := ih form hform below (hless _ hinner.subset) _ hrest
          exact ⟨_, after, .enter hf hnew (by simpa using hk) hinner houter⟩
  exact hsearch _ met (List.Subset.refl _) nodes hstored

/-- **The visit of a page is its search**: the search from the top ends, and with nothing but the
nodes of the visit. -/
theorem searches_iff (hids : ∀ node ∈ page.stored, node.form?.isSome) {entered : List Node} :
    (∃ after, Searches page catalogue keep [] page.content entered after) ↔
      entered = page.visitAll catalogue keep := by
  have heq : ∀ {entered after}, Searches page catalogue keep [] page.content entered after →
      entered = page.visitAll catalogue keep := by
    intro entered after h
    have hvisit := h.visit_eq content_subset_stored []
    rw [unmet_nil, List.append_nil, visit, List.append_nil] at hvisit
    exact hvisit.symm
  constructor
  · rintro ⟨after, h⟩
    exact heq h
  · rintro rfl
    obtain ⟨entered, after, h⟩ := exists_searches hids content_subset_stored
    exact ⟨after, heq h ▸ h⟩

/-! ## Collecting types -/

/-- **Types are collected in step with a search**: the types found are those of the nodes that it
enters, and each of them is added once. -/
theorem collects_iff {met after : List ScalarForm} {found total : List String}
    {nodes : List Node} :
    Collects page catalogue keep met found nodes after total ↔
      ∃ entered, Searches page catalogue keep met nodes entered after ∧
        total = (entered.flatMap (broughtTypes catalogue)).foldl addNew found := by
  constructor
  · intro h
    induction h with
    | nil => exact ⟨[], .nil, rfl⟩
    | seen hf hmet _ ih =>
      obtain ⟨entered, hsearches, htotal⟩ := ih
      exact ⟨entered, .pass hf (Or.inl hmet) hsearches, htotal⟩
    | unsupported hf _ hs _ ih =>
      obtain ⟨entered, hsearches, htotal⟩ := ih
      exact ⟨entered, .pass hf (Or.inr hs) hsearches, htotal⟩
    | add hf hnew hs _ _ ihinner ihouter =>
      obtain ⟨inner, hinner, rfl⟩ := ihinner
      obtain ⟨outer, houter, rfl⟩ := ihouter
      refine ⟨_, .enter hf hnew hs hinner houter, ?_⟩
      rw [List.flatMap_cons, List.flatMap_append, List.foldl_append, List.foldl_append]
  · rintro ⟨entered, h, rfl⟩
    induction h generalizing found with
    | nil => exact .nil
    | @pass met after node rest entered form hf hpass _ ih =>
      by_cases hmet : form ∈ met
      · exact .seen hf hmet ih
      · exact .unsupported hf hmet (hpass.resolve_left hmet) ih
    | enter hf hnew hk _ _ ihinner ihouter =>
      rw [List.flatMap_cons, List.flatMap_append, List.foldl_append, List.foldl_append]
      exact .add hf hnew hk ihinner ihouter

/-- **Collecting types from the top of a page ends with its types.** -/
theorem collects_iff_collectTypes (hids : ∀ node ∈ page.stored, node.form?.isSome)
    {supports : String → Bool} {types : List String} :
    (∃ after, Collects page catalogue supports [] [] page.content after types) ↔
      types = page.collectTypes catalogue supports := by
  have htypes : page.collectTypes catalogue supports =
      ((page.visitAll catalogue supports).flatMap (broughtTypes catalogue)).foldl addNew [] :=
    (foldl_addNew_nil _).symm
  constructor
  · rintro ⟨after, h⟩
    obtain ⟨entered, hsearches, rfl⟩ := collects_iff.1 h
    rw [htypes, (searches_iff hids).1 ⟨after, hsearches⟩]
  · rintro rfl
    obtain ⟨after, hsearches⟩ : ∃ after, Searches page catalogue supports [] page.content
        (page.visitAll catalogue supports) after := (searches_iff hids).2 rfl
    exact ⟨after, collects_iff.2 ⟨_, hsearches, htypes⟩⟩

/-! ## Where the nodes of a walk come from -/

/-- A visited node was to come, or stands in a zone of a node that is visited before it. -/
theorem visit_split {unmet : List ScalarForm} {todo before after : List Node} {node : Node}
    (h : page.visit catalogue keep unmet todo = before ++ node :: after) :
    node ∈ todo ∨ ∃ owner ∈ before, node ∈ page.children catalogue owner := by
  induction unmet, todo using visit_induction page catalogue keep generalizing before with
  | nil unmet =>
    rw [visit] at h
    exact absurd h.symm (by simp)
  | unusable unmet first rest hnone ih =>
    rw [visit_unusable hnone] at h
    rcases List.cons_eq_append_iff.1 h with ⟨rfl, heq⟩ | ⟨more, rfl, heq⟩
    · exact Or.inl (by simp [(List.cons.inj heq).1])
    · rcases ih heq with hrest | ⟨owner, howner, hchild⟩
      · exact Or.inl (by simp [hrest])
      · exact Or.inr ⟨owner, by simp [howner], hchild⟩
  | enter unmet first rest form hf hu hk ih =>
    rw [visit_enter hf hu hk] at h
    rcases List.cons_eq_append_iff.1 h with ⟨rfl, heq⟩ | ⟨more, rfl, heq⟩
    · exact Or.inl (by simp [(List.cons.inj heq).1])
    · rcases ih heq with htodo | ⟨owner, howner, hchild⟩
      · rcases List.mem_append.1 htodo with hchild | hrest
        · exact Or.inr ⟨first, by simp, hchild⟩
        · exact Or.inl (by simp [hrest])
      · exact Or.inr ⟨owner, by simp [howner], hchild⟩
  | pass unmet first rest form hf hn ih =>
    rw [visit_pass hf hn] at h
    rcases ih h with hrest | howner
    · exact Or.inl (by simp [hrest])
    · exact Or.inr howner

/-- Only a node whose zones cannot be told stops a visit of usable ids. -/
theorem visitFault?_eq_none_iff (hids : ∀ node ∈ page.stored, node.form?.isSome) :
    page.visitFault? catalogue keep = none ↔
      ∀ node ∈ page.visitAll catalogue keep, catalogue.zoneFault? node.type node.props = none := by
  rw [visitFault?, List.findSome?_eq_none_iff]
  refine forall₂_congr fun node hnode => ?_
  obtain ⟨form, hf⟩ := Option.isSome_iff_exists.1 (hids node (visitAll_subset_stored hnode))
  rw [nodeFault?, hf]
  exact Option.map_eq_none_iff

/-! ## The walk of a page -/

/--
**A walk computes what is reachable, and types are collected along it**, on every page and for
every catalogue.

The search from the top ends, with the nodes of the walk and with no others, and nothing but zones
that cannot be told stops it. The walk has no id twice. Each of its nodes stands at the top or in a
zone of a node in front of it, and the ids of all that stands there are among its own. The search
that collects types ends as well, with the types that the nodes of the walk bring, each at its
first place.
-/
theorem walk_reaches (ht : page.TextIds) (catalogue : Catalogue) :
    (∀ entered, (∃ after, Searches page catalogue (fun _ => true) [] page.content entered after) ↔
        entered = page.walk catalogue) ∧
      (page.visitFault? catalogue (fun _ => true) = none ↔
        ∀ node ∈ page.walk catalogue, catalogue.zoneFault? node.type node.props = none) ∧
      ((page.walk catalogue).map Node.id).Nodup ∧
      (∀ before node after, page.walk catalogue = before ++ node :: after →
        node ∈ page.content ∨ ∃ owner ∈ before,
          ∃ name ∈ catalogue.zoneNames owner.type owner.props,
            node ∈ page.zone owner.id.toText name) ∧
      (∀ node ∈ page.content, node.id ∈ (page.walk catalogue).map Node.id) ∧
      (∀ owner ∈ page.walk catalogue, ∀ name ∈ catalogue.zoneNames owner.type owner.props,
        ∀ node ∈ page.zone owner.id.toText name, node.id ∈ (page.walk catalogue).map Node.id) ∧
      (∀ types, (∃ after,
          Collects page catalogue (fun _ => true) [] [] page.content after types) ↔
        types = page.collectTypes catalogue fun _ => true) ∧
      page.collectTypes catalogue (fun _ => true) =
        firstOccurrences ((page.walk catalogue).flatMap fun node =>
          node.type :: catalogue.companions node.type) := by
  have hids : ∀ node ∈ page.stored, node.form?.isSome := fun node hnode => ht.form?_isSome hnode
  -- what was met has the id itself, since all ids are texts
  have hid : ∀ {node : Node} {form : ScalarForm}, node ∈ page.stored → node.form? = some form →
      (∃ met ∈ page.walk catalogue, met.form? = some form) →
      node.id ∈ (page.walk catalogue).map Node.id := by
    rintro node form hnode hf ⟨met, hmet, hform⟩
    exact List.mem_map.2 ⟨met, hmet,
      ht.id_eq (visitAll_subset_stored hmet) hnode (hform.trans hf.symm)⟩
  refine ⟨fun _ => searches_iff hids, visitFault?_eq_none_iff hids, ht.nodup_walk, ?_, ?_, ?_,
    fun _ => collects_iff_collectTypes hids, rfl⟩
  · intro before node after hsplit
    refine (visit_split hsplit).imp_right ?_
    rintro ⟨owner, howner, hchild⟩
    exact ⟨owner, howner, mem_children.1 hchild⟩
  · intro node hnode
    have hstored : node ∈ page.stored := content_subset_stored hnode
    obtain ⟨form, hf⟩ := Option.isSome_iff_exists.1 (hids node hstored)
    exact hid hstored hf (visitAll_meets_top hnode hf rfl)
  · intro owner howner name hname node hnode
    have hstored : node ∈ page.stored := zoneAt_subset_stored _ hnode
    obtain ⟨form, hf⟩ := Option.isSome_iff_exists.1 (hids node hstored)
    exact hid hstored hf (visitAll_meets_child howner (hids owner (visitAll_subset_stored howner))
      (mem_children.2 ⟨name, hname, hnode⟩) hf rfl)

/-- A section that its own zone holds. -/
def ringed : Node := { id := .text "s", type := "Section" }

/-- An input in the zone of the section. -/
def ringedInput : Node := { id := .text "x", type := "Input" }

/-- An alert with the id of the input. -/
def ringedAlert : Node := { id := .text "x", type := "Alert" }

/-- A page whose section leads back to itself, and on which an id is used for two nodes. -/
def ring : Page where
  id := "home"
  content := [ringed, ringedAlert]
  zones := [("s:col-0", [ringedInput, ringed])]

/-- The zone is walked before the alert, so the input is met and the alert is passed. -/
theorem walk_reaches_ring :
    ring.TextIds ∧ ring.walk Bundled.catalogue = [ringed, ringedInput] ∧
      ring.collectTypes Bundled.catalogue (fun _ => true) = ["Section", "Input", "Label"] := by
  have ht : ring.TextIds := by decide
  obtain ⟨hsearch, _, _, _, _, _, _, htypes⟩ := walk_reaches ht Bundled.catalogue
  have hnames : Bundled.catalogue.zoneNames ringed.type ringed.props = ["col-0"] := by
    decide +kernel
  have hsection : ring.children Bundled.catalogue ringed = [ringedInput, ringed] := by
    rw [children, childZones, hnames]
    rfl
  have hleaf : ring.children Bundled.catalogue ringedInput = [] := rfl
  have hs : ringed.form? = some (.text "s") := rfl
  have hx : ringedInput.form? = some (.text "x") := rfl
  have hinput : Searches ring Bundled.catalogue (fun _ => true) [.text "x", .text "s"]
      (ring.children Bundled.catalogue ringedInput) [] [.text "x", .text "s"] := by
    rw [hleaf]
    exact .nil
  have hagain : Searches ring Bundled.catalogue (fun _ => true) [.text "x", .text "s"] [ringed] []
      [.text "x", .text "s"] := .pass hs (Or.inl (by decide)) .nil
  have hzone : Searches ring Bundled.catalogue (fun _ => true) [.text "s"]
      (ring.children Bundled.catalogue ringed) [ringedInput] [.text "x", .text "s"] := by
    rw [hsection]
    exact Searches.enter hx (by decide) rfl hinput hagain
  have halert : Searches ring Bundled.catalogue (fun _ => true) [.text "x", .text "s"]
      [ringedAlert] [] [.text "x", .text "s"] := .pass hx (Or.inl (by decide)) .nil
  have hwalk : [ringed, ringedInput] = ring.walk Bundled.catalogue :=
    (hsearch _).1 ⟨_, Searches.enter hs List.not_mem_nil rfl hzone halert⟩
  refine ⟨ht, hwalk.symm, ?_⟩
  rw [htypes, ← hwalk]
  decide

end Page

end Pagewright
