import Pagewright.Proofs.Forest

/-!
# Ids of elements

The parts of an accordion find each other by ids that are made of the id of its node. The ids of
one accordion are all different, since the numbers of its entries are told apart. The ids of two
accordions are different exactly when neither has the name of the other or that of one of its
entries (`Accordion.apart_iff`), and nothing makes sure of that: a name keeps the letters and digits
of an id only, and the number of an entry may as well be the end of an id. So two accordions with
different ids can have one name.

`accordion_ids_nodup_iff` is the exact condition for a page, which holds on pages whose ids are
plain: then every target names the one element that it is meant for.
-/

namespace Pagewright

open Pagewright.Text Pagewright.Markup

/-! ## Links of markup -/

/-- The attributes by which elements find each other. -/
def linkNames : List String := ["id", "data-bs-target", "data-bs-parent"]

/-- An attribute by which elements find each other, with its value. -/
def Markup.Attribute.link? : Attribute → Option (String × List Char)
  | .quoted name value => if name ∈ linkNames then some (name, value) else none
  | _ => none

mutual

/-- The links of a piece of markup, in the order in which they are written. -/
def Markup.links : Markup → List (String × List Char)
  | .passage _ => []
  | .single _ attributes => attributes.filterMap Attribute.link?
  | .short _ attributes _ => attributes.filterMap Attribute.link?
  | .block _ attributes children => attributes.filterMap Attribute.link? ++ markupLinks children
  | .body items => markupLinks items
  | .verbatim _ => []

/-- The links of pieces of markup. -/
def markupLinks : List Markup → List (String × List Char)
  | [] => []
  | piece :: rest => piece.links ++ markupLinks rest

end

/-- The ids among links. -/
def idsOf (links : List (String × List Char)) : List (List Char) :=
  links.filterMap fun link => if link.1 = "id" then some link.2 else none

theorem markupLinks_append (first more : List Markup) :
    markupLinks (first ++ more) = markupLinks first ++ markupLinks more := by
  induction first with
  | nil => rfl
  | cons piece rest ih =>
    rw [List.cons_append, markupLinks, ih, markupLinks, List.append_assoc]

/-! ## Accordions -/

/-- What the links of an accordion are made of: its own id and the number of its entries. -/
structure Accordion where
  name : List Char
  count : Nat
deriving DecidableEq

namespace Accordion

/-- The links of an entry: its head targets its body, and its body belongs to the accordion. -/
def entryLinks (a : Accordion) (index : Nat) : List (String × List Char) :=
  [("data-bs-target", '#' :: Bootstrap.collapseId a.name index),
   ("id", Bootstrap.collapseId a.name index), ("data-bs-parent", '#' :: a.name)]

/-- The links of an accordion. -/
def links (a : Accordion) : List (String × List Char) :=
  ("id", a.name) :: (List.range a.count).flatMap a.entryLinks

/-- The ids of an accordion: its own, and those of what its entries unfold. -/
def ids (a : Accordion) : List (List Char) :=
  a.name :: (List.range a.count).map (Bootstrap.collapseId a.name)

theorem idsOf_links (a : Accordion) : idsOf a.links = a.ids := by
  have hentries : ∀ indices : List Nat, idsOf (indices.flatMap a.entryLinks) =
      indices.map (Bootstrap.collapseId a.name) := by
    intro indices
    induction indices with
    | nil => rfl
    | cons index rest ih =>
      rw [List.flatMap_cons, idsOf, List.filterMap_append, ← idsOf, ← idsOf, ih]
      simp [entryLinks, idsOf]
  have hown := hentries (List.range a.count)
  simp [links, ids, idsOf] at hown ⊢
  exact hown

/-- **The number of an entry and the name of its accordion are told apart.** -/
theorem collapseId_inj {name name' : List Char} {i j : Nat}
    (h : Bootstrap.collapseId name i = Bootstrap.collapseId name' j) : name = name' ∧ i = j := by
  have hdigits : ∀ k, '-' ∉ Number.natDigits k := fun k hmem =>
    absurd (isIdentifierLetter_natDigits hmem) (by decide)
  have hsplit : ∀ name k, Bootstrap.collapseId name k =
      (name ++ "-item".toList) ++ '-' :: Number.natDigits k := by
    intro name k
    have hmark : "-item-".toList = "-item".toList ++ ['-'] := by decide
    rw [Bootstrap.collapseId, hmark]
    simp only [List.append_assoc, List.singleton_append]
  rw [hsplit, hsplit] at h
  obtain ⟨hname, hnumber⟩ := append_separator_inj (hdigits i) (hdigits j) h
  exact ⟨List.append_cancel_right hname, natDigits_injective hnumber⟩

theorem collapseId_ne (name : List Char) (index : Nat) :
    Bootstrap.collapseId name index ≠ name := by
  intro h
  have hlength := congrArg List.length h
  have hmark : "-item-".toList.length = 6 := by decide
  rw [Bootstrap.collapseId, List.length_append, List.length_append, hmark] at hlength
  omega

/-- The ids of one accordion are different. -/
theorem nodup_ids (a : Accordion) : a.ids.Nodup := by
  refine List.nodup_cons.2 ⟨fun hmem => ?_, ?_⟩
  · obtain ⟨index, _, heq⟩ := List.mem_map.1 hmem
    exact collapseId_ne a.name index heq
  · exact List.nodup_range.map fun _ _ heq => (collapseId_inj heq).2

/-- Two accordions have no name in common: neither is called like the other, or like what an entry
of the other unfolds. -/
structure Apart (a b : Accordion) : Prop where
  name : a.name ≠ b.name
  left : ∀ index < a.count, Bootstrap.collapseId a.name index ≠ b.name
  right : ∀ index < b.count, Bootstrap.collapseId b.name index ≠ a.name

/-- **When two accordions have no id in common.** -/
theorem apart_iff {a b : Accordion} : a.Apart b ↔ List.Disjoint a.ids b.ids := by
  have hmem : ∀ (c : Accordion) (id : List Char), id ∈ c.ids ↔
      id = c.name ∨ ∃ index < c.count, Bootstrap.collapseId c.name index = id := by
    intro c id
    simp only [ids, List.mem_cons, List.mem_map, List.mem_range]
  constructor
  · intro h id ha hb
    rcases (hmem a id).1 ha with rfl | ⟨i, hi, rfl⟩
    · rcases (hmem b a.name).1 hb with heq | ⟨j, hj, heq⟩
      · exact h.name heq
      · exact h.right j hj heq
    · rcases (hmem b _).1 hb with heq | ⟨j, hj, heq⟩
      · exact h.left i hi heq
      · exact h.name (collapseId_inj heq).1.symm
  · intro h
    refine ⟨fun heq => ?_, fun index hindex heq => ?_, fun index hindex heq => ?_⟩
    · exact h ((hmem a _).2 (Or.inl rfl)) ((hmem b _).2 (Or.inl heq))
    · exact h ((hmem a _).2 (Or.inr ⟨index, hindex, heq⟩)) ((hmem b _).2 (Or.inl rfl))
    · exact h ((hmem a _).2 (Or.inl rfl)) ((hmem b _).2 (Or.inr ⟨index, hindex, heq⟩))

/-- The ids of accordions are different exactly when the accordions are apart. -/
theorem nodup_flatMap_ids {accordions : List Accordion} :
    (accordions.flatMap ids).Nodup ↔ accordions.Pairwise Apart := by
  rw [List.nodup_flatMap]
  constructor
  · rintro ⟨_, h⟩
    exact h.imp fun h => apart_iff.2 h
  · exact fun h => ⟨fun a _ => a.nodup_ids, h.imp fun h => apart_iff.1 h⟩

/-- Every target of an accordion is one of its own ids. -/
theorem mem_ids_of_link {a : Accordion} {name : String} {value : List Char}
    (h : (name, value) ∈ a.links) (hname : name ≠ "id") : ∃ id ∈ a.ids, value = '#' :: id := by
  rcases List.mem_cons.1 h with heq | h
  · exact absurd (Prod.mk.inj heq).1 hname
  obtain ⟨index, hindex, h⟩ := List.mem_flatMap.1 h
  simp only [entryLinks, List.mem_cons, Prod.mk.injEq, List.not_mem_nil, or_false] at h
  rcases h with ⟨_, rfl⟩ | ⟨heq, _⟩ | ⟨_, rfl⟩
  · exact ⟨_, List.mem_cons_of_mem _ (List.mem_map.2 ⟨index, hindex, rfl⟩), rfl⟩
  · exact absurd heq hname
  · exact ⟨a.name, List.mem_cons_self .., rfl⟩

end Accordion

theorem idsOf_flatMap_links (accordions : List Accordion) :
    idsOf (accordions.flatMap Accordion.links) = accordions.flatMap Accordion.ids := by
  induction accordions with
  | nil => rfl
  | cons a rest ih =>
    rw [List.flatMap_cons, List.flatMap_cons, idsOf, List.filterMap_append, ← idsOf, ← idsOf, ih,
      a.idsOf_links]

/-! ## The links of a layout -/

/-- The number of entries that props give. -/
def Props.entryCount (props : Props) : Nat :=
  match props.foldedEntries with
  | .ok entries => entries.length
  | .error _ => 0

/-- The accordion that a component is laid out as, if it is one. -/
def Component.accordion? (component : Component) (id : Value) (props : Props) : Option Accordion :=
  match component with
  | .accordion => some ⟨Bootstrap.accordionId id, props.entryCount⟩
  | _ => none

theorem links_accordion {id : Value} {props : Props} {m : Markup}
    (h : Bootstrap.accordion id props = .ok m) :
    m.links = (Accordion.mk (Bootstrap.accordionId id) props.entryCount).links := by
  obtain ⟨entries, hentries, h⟩ := bind_eq_ok.1 h
  have hcount : props.entryCount = entries.length := by rw [Props.entryCount, hentries]
  have hitems : ∀ (entries : List FoldedEntry) (start : Nat),
      markupLinks ((entries.zipIdx start).map fun entry =>
        Bootstrap.accordionItem (Bootstrap.accordionId id) entry.2 entry.1) =
      (List.range' start entries.length).flatMap
        (Accordion.mk (Bootstrap.accordionId id) props.entryCount).entryLinks := by
    intro entries
    induction entries with
    | nil => exact fun _ => rfl
    | cons entry rest ih =>
      intro start
      rw [List.zipIdx_cons, List.map_cons, markupLinks, ih, List.length_cons, List.range'_succ,
        List.flatMap_cons]
      rfl
  rw [← Except.ok.inj h, Markup.links, hitems, Accordion.links, hcount, ← List.range_eq_range']
  rfl

theorem links_grid {props : Props} {zones : List (List Markup)} {m : Markup}
    (h : Bootstrap.grid props zones = .ok m) : m.links = zones.flatMap markupLinks := by
  obtain ⟨_, _, h⟩ := bind_eq_ok.1 h
  have hcells : ∀ (column : List Char) (zones : List (List Markup)),
      markupLinks (zones.map fun items => .block "div" [.quoted "className" column]
        [.body items]) = zones.flatMap markupLinks := by
    intro column zones
    induction zones with
    | nil => rfl
    | cons zone rest ih =>
      rw [List.map_cons, markupLinks, ih, List.flatMap_cons, Markup.links, markupLinks,
        Markup.links, markupLinks, List.append_nil]
      rfl
  rw [← Except.ok.inj h, Markup.links, markupLinks, Markup.links, hcells, markupLinks,
    List.append_nil]
  rfl

/-- **A layout links what an accordion links, and what its zones do.** No other component has
links of its own. -/
theorem links_layout {component : Component} {node : Node} {props : Props}
    {zones : List (List Markup)} {m : Markup}
    (h : Framework.bootstrap.layout component node props zones = .ok m)
    (hz : component ≠ .grid → zones = []) :
    m.links = (component.accordion? node.id props).toList.flatMap Accordion.links ++
      zones.flatMap markupLinks := by
  cases component with
  | grid => exact links_grid h
  | accordion =>
    rw [links_accordion h, hz nofun, List.flatMap_nil, List.append_nil]
    exact (List.append_nil _).symm
  | card =>
    rw [hz nofun]
    obtain ⟨_, _, h⟩ := bind_eq_ok.1 h
    obtain ⟨_, _, h⟩ := bind_eq_ok.1 h
    obtain ⟨_, _, h⟩ := bind_eq_ok.1 h
    obtain ⟨footer, _, h⟩ := bind_eq_ok.1 h
    rw [← Except.ok.inj h, Markup.links, markupLinks_append]
    split <;> rfl
  | button =>
    rw [hz nofun]
    obtain ⟨_, _, h⟩ := bind_eq_ok.1 h
    obtain ⟨_, _, h⟩ := bind_eq_ok.1 h
    obtain ⟨_, _, h⟩ := bind_eq_ok.1 h
    have hclick : props.clickAttributes.filterMap Attribute.link? = [] := by
      rw [Props.clickAttributes, List.filterMap_map]
      exact List.filterMap_eq_nil_iff.2 fun _ _ => rfl
    rw [← Except.ok.inj h, Markup.links, List.filterMap_append, hclick]
    rfl
  | badge =>
    rw [hz nofun]
    obtain ⟨_, _, h⟩ := bind_eq_ok.1 h
    obtain ⟨_, _, h⟩ := bind_eq_ok.1 h
    rw [← Except.ok.inj h]
    rfl
  | separator =>
    rw [hz nofun, ← Except.ok.inj h]
    rfl
  | alert =>
    rw [hz nofun]
    obtain ⟨_, _, h⟩ := bind_eq_ok.1 h
    obtain ⟨_, _, h⟩ := bind_eq_ok.1 h
    obtain ⟨_, _, h⟩ := bind_eq_ok.1 h
    rw [← Except.ok.inj h]
    rfl
  | progress =>
    rw [hz nofun]
    obtain ⟨_, _, h⟩ := bind_eq_ok.1 h
    rw [← Except.ok.inj h]
    rfl
  | input =>
    rw [hz nofun]
    obtain ⟨_, _, h⟩ := bind_eq_ok.1 h
    obtain ⟨_, _, h⟩ := bind_eq_ok.1 h
    obtain ⟨_, _, h⟩ := bind_eq_ok.1 h
    rw [← Except.ok.inj h]
    rfl

/-- A canvas links what stands on it. -/
theorem links_canvas (settings : PageSettings) (nodes : List Markup) :
    markupLinks [Framework.bootstrap.canvas settings nodes] = markupLinks nodes := by
  have hbody : markupLinks [Markup.body nodes] = markupLinks nodes := by
    rw [markupLinks, markupLinks, List.append_nil, Markup.links]
  rw [Framework.canvas, markupLinks, markupLinks, List.append_nil, Markup.links, markupLinks,
    markupLinks, List.append_nil, Markup.links, hbody]
  rfl

/-! ## Plain ids -/

/-- An id that is an identifier of an element as it stands. -/
structure IsPlainId (s : List Char) : Prop where
  nonempty : s ≠ []
  chars : ∀ c ∈ s, isIdentifierChar c = true
  front : s.head? ≠ some '-'
  back : s.getLast? ≠ some '-'

theorem collapseFrom_eq_self {keep : Char → Bool} {s : List Char} (h : ∀ c ∈ s, keep c = true)
    (mark : Char) (inRun : Bool) : collapseFrom keep mark inRun s = s := by
  induction s generalizing inRun with
  | nil => rfl
  | cons c rest ih =>
    rw [collapseFrom, if_pos (h c (by simp)), ih fun d hd => h d (by simp [hd])]

/-- **A plain id is kept.** -/
theorem IsPlainId.elementIdentifier {s : List Char} (h : IsPlainId s) :
    elementIdentifier s = s := by
  have hdrop : ∀ s : List Char, s.head? ≠ some '-' → s.dropWhile (fun c => c == '-') = s := by
    intro s hs
    cases s with
    | nil => rfl
    | cons c rest =>
      have hc : c ≠ '-' := fun heq => hs (by rw [heq]; rfl)
      rw [List.dropWhile_cons_of_neg (by simpa using hc)]
  have htrim : trimBy (fun c => c == '-') s = s := by
    rw [trimBy, hdrop s h.front, hdrop s.reverse (by rw [List.head?_reverse]; exact h.back),
      List.reverse_reverse]
  rw [Markup.elementIdentifier, elementIdentifier?, collapse, collapseFrom_eq_self h.chars, htrim]
  cases s with
  | nil => exact absurd rfl h.nonempty
  | cons c rest => rfl

/-! ## The links of a page -/

/-- The accordion that a node is laid out as, if it is one. -/
def Node.accordion? (node : Node) : Option Accordion :=
  (bundledRules.lookup node.type).bind fun component =>
    component.accordion? node.id (Bundled.catalogue.resolve node.type node.props)

/-- The links of accordions among renderings. -/
def renderingLinks (entries : List (Node × Layout)) : List (String × List Char) :=
  (entries.filterMap fun entry => entry.1.accordion?).flatMap Accordion.links

theorem renderingLinks_append (first more : List (Node × Layout)) :
    renderingLinks (first ++ more) = renderingLinks first ++ renderingLinks more := by
  rw [renderingLinks, List.filterMap_append, List.flatMap_append]
  rfl

theorem renderingLinks_cons (entry : Node × Layout) (rest : List (Node × Layout)) :
    renderingLinks (entry :: rest) =
      entry.1.accordion?.toList.flatMap Accordion.links ++ renderingLinks rest := by
  rw [renderingLinks, List.filterMap_cons]
  cases entry.1.accordion? with
  | none => rfl
  | some a =>
    rw [Option.toList_some, List.flatMap_singleton]
    rfl

/-- A sequence links what its items do. -/
theorem links_items {items : List Item} {markup : List Markup}
    (h : layoutItems items = .ok markup)
    (hitem : ∀ item ∈ items, ∀ own, item.layout = .ok own →
      markupLinks own = renderingLinks item.renderings) :
    markupLinks markup = renderingLinks (itemRenderings items) := by
  induction items generalizing markup with
  | nil =>
    rw [← Except.ok.inj h]
    rfl
  | cons item rest ih =>
    obtain ⟨own, hown, h⟩ := bind_eq_ok.1 (layoutItems.eq_2 .. ▸ h)
    obtain ⟨more, hmore, h⟩ := bind_eq_ok.1 h
    have hrest := ih hmore fun other hother => hitem other (by simp [hother])
    rw [← Except.ok.inj h, markupLinks_append, hitem item (by simp) own hown, hrest,
      itemRenderings, renderingLinks_append]

/-- The bodies of zones link what the zones do. -/
theorem links_zones {zones : List (List Item)} {bodies : List (List Markup)}
    (h : layoutZones zones = .ok bodies)
    (hzone : ∀ zone ∈ zones, ∀ body, layoutItems zone = .ok body →
      markupLinks body = renderingLinks (itemRenderings zone)) :
    bodies.flatMap markupLinks = renderingLinks (zoneRenderings zones) := by
  induction zones generalizing bodies with
  | nil =>
    rw [← Except.ok.inj h]
    rfl
  | cons zone rest ih =>
    obtain ⟨body, hbody, h⟩ := bind_eq_ok.1 (layoutZones.eq_2 .. ▸ h)
    obtain ⟨more, hmore, h⟩ := bind_eq_ok.1 h
    have hrest := ih hmore fun other hother => hzone other (by simp [hother])
    rw [← Except.ok.inj h, List.flatMap_cons, hzone zone (by simp) body hbody, hrest,
      zoneRenderings, renderingLinks_append]

namespace Page

variable {page : Page}

/-- **An expansion links what its accordions link**, in the order in which they are rendered. -/
theorem links_expandWith {enterable : List ScalarForm} {nodes : List Node} {markup : List Markup}
    (h : layoutItems (page.expandWith Bundled.catalogue bootstrapProfile enterable nodes) =
      .ok markup) :
    markupLinks markup = renderingLinks (itemRenderings
      (page.expandWith Bundled.catalogue bootstrapProfile enterable nodes)) := by
  induction enterable using strike_induction generalizing nodes markup with
  | step enterable ih =>
    rw [expandWith_eq_map] at h ⊢
    refine links_items h fun item hitem own hown => ?_
    obtain ⟨node, _, rfl⟩ := List.mem_map.1 hitem
    rcases item_cases page Bundled.catalogue bootstrapProfile enterable node with
      ⟨layout, form, hr, hf, hm⟩ | heq | heq | ⟨_, heq⟩
    · rw [item_rendered Bundled.settled hr hf hm] at hown ⊢
      obtain ⟨bodies, m, hbodies, hlayout, rfl⟩ := layout_rendered hown
      obtain ⟨component, hlookup, rfl⟩ := bootstrapProfile_follows.rule?_eq_some.1 hr
      -- only a grid has zones
      have hempty : component ≠ .grid → bodies = [] := by
        intro hne
        have hnames : Bundled.catalogue.zoneNames node.type node.props = [] := by
          by_contra hzones
          rw [Bundled.type_of_zoneNames_ne_nil hzones] at hlookup
          exact hne (Option.some.inj hlookup).symm
        rw [hnames] at hbodies
        exact (Except.ok.inj hbodies).symm
      have hzones := links_zones hbodies fun zone hzone body hbody => by
        obtain ⟨name, _, rfl⟩ := List.mem_map.1 hzone
        exact ih form hm hbody
      rw [markupLinks, markupLinks, List.append_nil, links_layout hlayout hempty, hzones,
        Item.renderings, renderingLinks_cons, Node.accordion?, hlookup]
      rfl
    · rw [heq] at hown ⊢
      rw [← Except.ok.inj hown]
      rfl
    · rw [heq] at hown ⊢
      rw [← Except.ok.inj hown]
      rfl
    · rw [heq, Item.layout] at hown
      contradiction

/-- The accordions of a page, in the order in which they are rendered. -/
def accordions (page : Page) : List Accordion :=
  (page.renderings Bundled.catalogue bootstrapProfile).filterMap fun entry => entry.1.accordion?

/-- The ids of accordions are plain, and none of them is that of another with the number of an
entry. -/
structure PlainIds (page : Page) : Prop where
  plain : ∀ node ∈ page.stored, node.type = "Accordion" → IsPlainId node.id.content
  numbers : ∀ node ∈ page.stored, ∀ other ∈ page.stored, node.type = "Accordion" →
    other.type = "Accordion" → ∀ index,
      Bootstrap.collapseId node.id.content index ≠ other.id.content

/-- A node that is laid out as an accordion is one. -/
theorem accordion?_eq_some {node : Node} {a : Accordion} (h : node.accordion? = some a) :
    node.type = "Accordion" ∧ a.name = Bootstrap.accordionId node.id := by
  obtain ⟨component, hlookup, ha⟩ := Option.bind_eq_some_iff.1 h
  cases component with
  | accordion =>
    have htype : ∀ rule ∈ bundledRules, rule.2 = .accordion → rule.1 = "Accordion" := by decide
    exact ⟨htype _ (mem_of_lookup hlookup) rfl, by rw [← Option.some.inj ha]⟩
  | _ => exact absurd ha nofun

/-- **The accordions of a page with plain ids are apart.** -/
theorem PlainIds.pairwise_apart (hp : page.PlainIds) (ht : page.TextIds)
    (hd : page.DistinctIds) : page.accordions.Pairwise Accordion.Apart := by
  have hids := hd.nodup_renderings bootstrapProfile_isBundled ht
  rw [List.Nodup, List.pairwise_map] at hids
  rw [accordions, List.pairwise_filterMap]
  refine hids.imp_of_mem fun {entry other} hentry hother hne a ha b hb => ?_
  obtain ⟨_, _, _, htrail, _, _⟩ := (mem_renderings_iff Bundled.settled).1 hentry
  obtain ⟨_, _, _, htrail', _, _⟩ := (mem_renderings_iff Bundled.settled).1 hother
  have hstored := htrail.stored
  have hstored' := htrail'.stored
  obtain ⟨htype, hname⟩ := accordion?_eq_some ha
  obtain ⟨htype', hname'⟩ := accordion?_eq_some hb
  have hplain : ∀ id : Value, IsPlainId id.content →
      Bootstrap.accordionId id = "accordion-".toList ++ id.content :=
    fun _ hid => congrArg ("accordion-".toList ++ ·) hid.elementIdentifier
  rw [hplain _ (hp.plain _ hstored htype)] at hname
  rw [hplain _ (hp.plain _ hstored' htype')] at hname'
  have hcollapse : ∀ (id : List Char) (index : Nat),
      Bootstrap.collapseId ("accordion-".toList ++ id) index =
        "accordion-".toList ++ Bootstrap.collapseId id index := by
    intro id index
    simp only [Bootstrap.collapseId, List.append_assoc]
  refine ⟨fun heq => hne ?_, fun index _ heq => ?_, fun index _ heq => ?_⟩
  · -- ids of one content are one id, since they are texts
    obtain ⟨s, hs⟩ := ht _ hstored
    obtain ⟨t, hst⟩ := ht _ hstored'
    rw [hname, hname'] at heq
    have hcontent : s.toList = t.toList := by
      have hcancel := List.append_cancel_left heq
      rw [hs, hst] at hcancel
      exact hcancel
    rw [hs, hst, String.toList_injective hcontent]
  · rw [hname, hname', hcollapse] at heq
    exact hp.numbers _ hstored _ hstored' htype htype' index (List.append_cancel_left heq)
  · rw [hname, hname', hcollapse] at heq
    exact hp.numbers _ hstored' _ hstored htype' htype index (List.append_cancel_left heq)

/--
**When the ids of a page are unique.**

All links of a file are those of its accordions. Their ids are different exactly when no two
accordions have a name in common, and then every target names one element, which belongs to its own
accordion. On a page with different ids that are plain this holds; ids that are not can be folded
to one name.
-/
theorem accordion_ids_nodup_iff {identifier : List Char} {c : CompiledPage}
    (h : page.compileAs Bundled.catalogue bootstrapProfile identifier = .ok c) :
    ∃ nodes links, c.fileText = String.ofList (pageSource .bootstrap
        (bootstrapProfile.resolveImports c.usedTypes) c.componentName.toList page.settings nodes) ∧
      links = markupLinks [Framework.bootstrap.canvas page.settings nodes] ∧
      links = page.accordions.flatMap Accordion.links ∧
      ((idsOf links).Nodup ↔ page.accordions.Pairwise Accordion.Apart) ∧
      ((idsOf links).Nodup → ∀ a ∈ page.accordions, ∀ link ∈ a.links, link.1 ≠ "id" →
        ∃ id ∈ a.ids, link.2 = '#' :: id ∧ (idsOf links).count id = 1) ∧
      (page.TextIds → page.DistinctIds → page.PlainIds → (idsOf links).Nodup) := by
  obtain ⟨nodes, hnodes, _, htext⟩ := fileText_eq_source bootstrapProfile_follows.frame h
  have hlinks : markupLinks [Framework.bootstrap.canvas page.settings nodes] =
      page.accordions.flatMap Accordion.links := by
    rw [links_canvas, links_expandWith hnodes]
    rfl
  have hids : idsOf (markupLinks [Framework.bootstrap.canvas page.settings nodes]) =
      page.accordions.flatMap Accordion.ids := by
    rw [hlinks, idsOf_flatMap_links]
  refine ⟨nodes, _, htext, rfl, hlinks, ?_, ?_, ?_⟩
  · rw [hids, Accordion.nodup_flatMap_ids]
  · intro hnodup a ha link hlink hname
    obtain ⟨id, hid, heq⟩ := Accordion.mem_ids_of_link hlink hname
    refine ⟨id, hid, heq, List.count_eq_one_of_mem hnodup ?_⟩
    rw [hids]
    exact List.mem_flatMap.2 ⟨a, ha, hid⟩
  · intro ht hd hp
    rw [hids, Accordion.nodup_flatMap_ids]
    exact hp.pairwise_apart ht hd

/-- Two accordions with ids that differ in a character which no name keeps. -/
def foldedIds : Page where
  id := "home"
  content := [{ id := .text "a b", type := "Accordion" },
    { id := .text "a.b", type := "Accordion", serial := 1 }]

/-- The page compiles, and two of its elements have one id. -/
theorem accordion_ids_nodup_iff_foldedIds :
    foldedIds.TextIds ∧ foldedIds.DistinctIds ∧
      ∃ c nodes, foldedIds.compileAs Bundled.catalogue bootstrapProfile "home".toList = .ok c ∧
        c.fileText = String.ofList (pageSource .bootstrap
          (bootstrapProfile.resolveImports c.usedTypes) c.componentName.toList foldedIds.settings
          nodes) ∧
        ¬(idsOf (markupLinks [Framework.bootstrap.canvas foldedIds.settings nodes])).Nodup := by
  have ht : foldedIds.TextIds := by decide
  have hd : foldedIds.DistinctIds := by
    simp [DistinctIds, stored, foldedIds]
  obtain ⟨c, hc⟩ := compileAs_ok bootstrapProfile_isBundled
    (fun node hnode => ht.form?_isSome hnode) "home".toList
  obtain ⟨nodes, _, htext, rfl, _, hiff, _⟩ := accordion_ids_nodup_iff hc
  refine ⟨ht, hd, c, nodes, hc, htext, fun hnodup => ?_⟩
  have hitem : ∀ node ∈ foldedIds.content,
      (foldedIds.item Bundled.catalogue bootstrapProfile (foldedIds.openForms []) node).renderings =
        [(node, Framework.bootstrap.layout .accordion)] := by
    intro node hnode
    have hopen : ∀ form, node.form? = some form → form ∈ foldedIds.openForms [] := fun _ hf =>
      mem_openForms.2 ⟨form_mem_storedForms (content_subset_stored hnode) hf, List.not_mem_nil⟩
    simp only [foldedIds, List.mem_cons, List.not_mem_nil, or_false] at hnode
    rcases hnode with rfl | rfl
    · rw [item_rendered Bundled.settled rfl rfl (hopen _ rfl)]
      rfl
    · rw [item_rendered Bundled.settled rfl rfl (hopen _ rfl)]
      rfl
  have hrenderings : foldedIds.renderings Bundled.catalogue bootstrapProfile =
      [({ id := .text "a b", type := "Accordion" }, Framework.bootstrap.layout .accordion),
        ({ id := .text "a.b", type := "Accordion", serial := 1 },
          Framework.bootstrap.layout .accordion)] := by
    have hfirst := hitem _ (List.mem_cons_self ..)
    have hsecond := hitem _ (List.mem_cons_of_mem _ (List.mem_cons_self ..))
    rw [renderings, expand, expandWith_eq_map]
    show (foldedIds.item _ _ (foldedIds.openForms []) _).renderings ++
      ((foldedIds.item _ _ (foldedIds.openForms []) _).renderings ++ []) = _
    rw [hfirst, hsecond]
    rfl
  -- the names of both accordions are equal
  have hapart := hiff.1 hnodup
  rw [accordions, hrenderings] at hapart
  have hnames := (List.pairwise_cons.1 hapart).1 _ (List.mem_singleton_self _)
  exact hnames.name (by decide)

end Page

end Pagewright
