import Pagewright.Proofs.Forest
import Pagewright.Proofs.Payloads

/-!
# Ids that are made of places

A node or a page without an id of its own is known by its place. The places of one list differ by
their numbers, and the places of different zones by the keys of the zones, so two ids that are made
of places differ, with one exception: a zone can be stored under the place of the nodes at the top.
Nothing keeps a document from giving an id that has the form of a place. `Value.PlacesFree` says
that neither happens on a page, and then, and only then, its nodes have different ids.

The ids of a list are, in some order, the given ones and the places of the rest
(`perm_given_places`), and this is what all results on different ids come from.
-/

namespace Pagewright

/-! ## Given ids and places -/

section Ids

variable {α : Type} {own : α → Option String} {place : α → String}

/-- The ids of a list are the given ones and the places of all that have none. -/
theorem perm_given_places (items : List α) :
    (items.map fun item => (own item).getD (place item)).Perm
      (items.filterMap own ++ (items.filter fun item => (own item).isNone).map place) := by
  induction items with
  | nil => exact .nil
  | cons item rest ih =>
    rw [List.map_cons]
    cases hown : own item with
    | some id =>
      rw [List.filterMap_cons_some hown, List.filter_cons_of_neg (by simp [hown])]
      exact ih.cons id
    | none =>
      -- the place of the item stands behind all given ids
      rw [List.filterMap_cons_none hown, List.filter_cons_of_pos (by simp [hown]), List.map_cons]
      exact (ih.cons _).trans List.perm_middle.symm

/-- The ids of a list differ if the given ones do, the places do, and no place is given. -/
theorem nodup_ids_iff {items : List α} (hgiven : (items.filterMap own).Nodup) :
    (items.map fun item => (own item).getD (place item)).Nodup ↔
      (∀ item ∈ items, own item = none → ∀ other ∈ items, own other ≠ some (place item)) ∧
        ((items.filter fun item => (own item).isNone).map place).Nodup := by
  rw [(perm_given_places items).nodup_iff, List.nodup_append]
  constructor
  · rintro ⟨_, hplaces, hapart⟩
    refine ⟨fun item hitem hnone other hother heq => ?_, hplaces⟩
    have hmem : place item ∈ (items.filter fun item => (own item).isNone).map place :=
      List.mem_map_of_mem (List.mem_filter.2 ⟨hitem, by simp [hnone]⟩)
    exact hapart _ (List.mem_filterMap.2 ⟨other, hother, heq⟩) _ hmem rfl
  · rintro ⟨hfree, hplaces⟩
    refine ⟨hgiven, hplaces, fun id hid taken htaken heq => ?_⟩
    obtain ⟨other, hother, hsome⟩ := List.mem_filterMap.1 hid
    obtain ⟨item, hitem, rfl⟩ := List.mem_map.1 htaken
    obtain ⟨hmem, hnone⟩ := List.mem_filter.1 hitem
    exact hfree item hmem (Option.isNone_iff_eq_none.1 hnone) other hother (heq ▸ hsome)

end Ids

/-! ## Places -/

theorem toString_injective {m n : Nat} (h : toString m = toString n) : m = n := by
  have hdigits : Number.natDigits m = Number.natDigits n :=
    String.ofList_injective h
  exact natDigits_injective hdigits

theorem slash_notMem_toString (n : Nat) : '/' ∉ (toString n).toList := by
  have hdigits : (toString n).toList = Number.natDigits n := String.toList_ofList
  rw [hdigits]
  intro h
  have hletter := isIdentifierLetter_natDigits h
  revert hletter
  decide

/-- A place tells its list and its number. -/
theorem place_injective {list other : String} {m n : Nat}
    (h : list ++ "/" ++ toString m = other ++ "/" ++ toString n) : list = other ∧ m = n := by
  have htext : list.toList ++ '/' :: (toString m).toList =
      other.toList ++ '/' :: (toString n).toList := by
    simpa using congrArg String.toList h
  obtain ⟨hlist, hnumber⟩ :=
    Text.append_separator_inj (slash_notMem_toString m) (slash_notMem_toString n) htext
  exact ⟨String.toList_injective hlist, toString_injective (String.toList_injective hnumber)⟩

section Places

variable {v : Value} {place : String}

theorem mem_spots {spot : String × Value} : spot ∈ v.spots place ↔
    ∃ index : Nat, v.listed[index]? = some spot.2 ∧ spot.1 = place ++ "/" ++ toString index := by
  rw [Value.spots, List.mem_map]
  constructor
  · rintro ⟨item, hitem, rfl⟩
    exact ⟨item.2, List.mem_zipIdx_iff_getElem?.1 hitem, rfl⟩
  · rintro ⟨index, hget, hplace⟩
    refine ⟨(spot.2, index), List.mem_zipIdx_iff_getElem?.2 hget, ?_⟩
    exact Prod.ext hplace.symm rfl

theorem nodup_places (v : Value) (place : String) : ((v.spots place).map Prod.fst).Nodup := by
  have hplaces : (v.spots place).map Prod.fst =
      (v.listed.zipIdx.map Prod.snd).map fun index => place ++ "/" ++ toString index := by
    rw [Value.spots, List.map_map, List.map_map]
    rfl
  rw [hplaces, List.zipIdx_map_snd]
  have hnumbers : (List.range' 0 v.listed.length).Nodup := List.nodup_range'
  exact hnumbers.map fun m n h => (place_injective h).2

theorem nodup_storeZone {α : Type} {key : String} {nodes : α} {zones : List (String × α)}
    (h : (zones.map Prod.fst).Nodup) : ((storeZone key nodes zones).map Prod.fst).Nodup := by
  by_cases hmem : key ∈ zones.map Prod.fst
  · -- a key that is there keeps its place
    have hkeys : (storeZone key nodes zones).map Prod.fst = zones.map Prod.fst := by
      clear h
      induction zones with
      | nil => exact absurd hmem List.not_mem_nil
      | cons zone rest ih =>
        rw [storeZone]
        by_cases hsame : zone.1 = key
        · rw [if_pos hsame, List.map_cons, List.map_cons, hsame]
        · rw [if_neg hsame, List.map_cons, List.map_cons, ih]
          exact (List.mem_cons.1 hmem).resolve_left (Ne.symm hsame)
    rw [hkeys]
    exact h
  · rw [storeZone_of_notMem hmem, List.map_append, List.nodup_append]
    refine ⟨h, List.nodup_singleton _, fun other hother own hown heq => hmem ?_⟩
    rw [heq, List.mem_singleton.1 hown] at hother
    exact hother

theorem nodup_zoneValues (zones : Props) : ((zoneValues zones).map Prod.fst).Nodup := by
  have hbehind : ∀ kept : List (String × Value), (kept.map Prod.fst).Nodup →
      ((zones.foldl (fun kept zone => storeZone zone.1.toText zone.2 kept) kept).map
        Prod.fst).Nodup := by
    induction zones with
    | nil => exact fun kept h => h
    | cons zone rest ih => exact fun kept h => ih _ (nodup_storeZone h)
  exact hbehind [] List.nodup_nil

theorem nodup_zonePlaces {zones : List (String × Value)} (h : (zones.map Prod.fst).Nodup) :
    ((zones.flatMap fun zone => zone.2.spots zone.1).map Prod.fst).Nodup := by
  rw [List.map_flatMap, List.nodup_flatMap]
  refine ⟨fun zone _ => nodup_places zone.2 zone.1, ?_⟩
  -- a place has the key of its zone in it
  refine (List.pairwise_map.1 h).imp fun {zone other} hne => List.disjoint_left.2 ?_
  intro place hplace hother
  obtain ⟨spot, hspot, rfl⟩ := List.mem_map.1 hplace
  obtain ⟨own, hown, heq⟩ := List.mem_map.1 hother
  obtain ⟨_, _, hspotPlace⟩ := mem_spots.1 hspot
  obtain ⟨_, _, hownPlace⟩ := mem_spots.1 hown
  rw [hspotPlace, hownPlace] at heq
  exact hne (place_injective heq).1.symm

end Places

/-! ## The nodes of a page -/

namespace Value

/-- The zones that a page keeps, with the values of their nodes. -/
def zonesKept (page : Value) : List (String × Value) :=
  zoneValues ((page.body.field "zones").mapping?.getD [])

/-- The items of a page at their places: those at the top, and those of each zone that is kept. -/
def pageSpots (page : Value) (id : String) : List (String × Value) :=
  (page.body.field "content").spots (id ++ ":content") ++
    page.zonesKept.flatMap fun zone => zone.2.spots zone.1

/-- A zone that is kept under the place of the nodes at the top has no node without an id at the
number of such a node at the top. -/
def TopApart (page : Value) (id : String) : Prop :=
  ∀ zone ∈ page.zonesKept, zone.1 = id ++ ":content" → ∀ (index : Nat) (item own : Value),
    (page.body.field "content").listed[index]? = some item → zone.2.listed[index]? = some own →
      item.ownId? = none → own.ownId? ≠ none

/-- The ids that are made of places on a page are free. -/
structure PlacesFree (page : Value) (id : String) : Prop where
  /-- No node is given the id of a place. -/
  given : ∀ spot ∈ page.pageSpots id, spot.2.ownId? = none →
    ∀ other ∈ page.pageSpots id, other.2.ownId? ≠ some ("node@" ++ spot.1)
  apart : page.TopApart id

/-- The places of the items without an id. -/
def unnamedPlaces (spots : List (String × Value)) : List String :=
  (spots.filter fun spot => spot.2.ownId?.isNone).map Prod.fst

theorem mem_unnamedPlaces {spots : List (String × Value)} {place : String} :
    place ∈ unnamedPlaces spots ↔ ∃ item, (place, item) ∈ spots ∧ item.ownId? = none := by
  rw [unnamedPlaces, List.mem_map]
  constructor
  · rintro ⟨spot, hspot, rfl⟩
    obtain ⟨hmem, hnone⟩ := List.mem_filter.1 hspot
    exact ⟨spot.2, hmem, Option.isNone_iff_eq_none.1 hnone⟩
  · rintro ⟨item, hitem, hnone⟩
    exact ⟨(place, item), List.mem_filter.2 ⟨hitem, Option.isNone_iff_eq_none.2 hnone⟩, rfl⟩

variable {page : Value} {id : String}

/-- The places of a page that stand for ids differ, if none at the top is one in a zone. -/
theorem nodup_unnamedPlaces_iff :
    (unnamedPlaces (page.pageSpots id)).Nodup ↔ page.TopApart id := by
  have htop := nodup_places (page.body.field "content") (id ++ ":content")
  have hzones := nodup_zonePlaces (nodup_zoneValues ((page.body.field "zones").mapping?.getD []))
  have hsplit : unnamedPlaces (page.pageSpots id) =
      unnamedPlaces ((page.body.field "content").spots (id ++ ":content")) ++
        unnamedPlaces (page.zonesKept.flatMap fun zone => zone.2.spots zone.1) := by
    rw [unnamedPlaces, pageSpots, List.filter_append, List.map_append]
    rfl
  rw [hsplit, List.nodup_append]
  constructor
  · rintro ⟨_, _, hapart⟩ zone hzone hkey index item own hitem hown hnone hsome
    have hfirst : id ++ ":content" ++ "/" ++ toString index ∈
        unnamedPlaces ((page.body.field "content").spots (id ++ ":content")) :=
      mem_unnamedPlaces.2 ⟨item, mem_spots.2 ⟨index, hitem, rfl⟩, hnone⟩
    have hsecond : id ++ ":content" ++ "/" ++ toString index ∈
        unnamedPlaces (page.zonesKept.flatMap fun zone => zone.2.spots zone.1) := by
      refine mem_unnamedPlaces.2 ⟨own, List.mem_flatMap.2 ⟨zone, hzone, ?_⟩, hsome⟩
      exact mem_spots.2 ⟨index, hown, by rw [hkey]⟩
    exact hapart _ hfirst _ hsecond rfl
  · intro hapart
    refine ⟨htop.sublist (List.filter_sublist.map _),
      hzones.sublist (List.filter_sublist.map _), ?_⟩
    intro place hplace other hother heq
    obtain ⟨item, hspot, hnone⟩ := mem_unnamedPlaces.1 hplace
    obtain ⟨own, hown, hsome⟩ := mem_unnamedPlaces.1 hother
    obtain ⟨index, hitem, hfirst⟩ := mem_spots.1 hspot
    obtain ⟨zone, hzone, hspot⟩ := List.mem_flatMap.1 hown
    obtain ⟨number, hget, hsecond⟩ := mem_spots.1 hspot
    -- equal places belong to one list and stand at one number
    have hplaces : id ++ ":content" ++ "/" ++ toString index = zone.1 ++ "/" ++ toString number :=
      hfirst.symm.trans (heq.trans hsecond)
    obtain ⟨hkey, rfl⟩ := place_injective hplaces
    exact hapart zone hzone hkey.symm index item own hitem hget hnone hsome

end Value

namespace Page

variable {catalogue : Catalogue} {page : Page} {value : Value} {index : Nat}

/-- The stored nodes of a page are those of its items, place by place. -/
theorem ReadFrom.forall₂_stored (h : page.ReadFrom catalogue value index) :
    List.Forall₂ (Node.ReadAt catalogue) (value.pageSpots page.id) page.stored := by
  obtain ⟨zones, hzones, hread⟩ := h.zones
  have hkept : value.zonesKept = zoneValues zones := by
    rw [Value.zonesKept, hzones, Option.getD_some]
  rw [Value.pageSpots, hkept, stored]
  exact List.rel_append h.content (List.rel_flatMap hread fun _ _ hzone => hzone.2)

theorem ReadFrom.map_id_stored (h : page.ReadFrom catalogue value index) :
    page.stored.map Node.id = (value.pageSpots page.id).map fun spot =>
      .text (spot.2.ownId?.getD ("node@" ++ spot.1)) :=
  map_eq_of_forall₂ (fun _ _ hnode => hnode.id) h.forall₂_stored

/-- **The nodes of a page that is read have different ids if the given ones differ and the ids
of places are free**, and only then. -/
theorem ReadFrom.distinctIds_iff (h : page.ReadFrom catalogue value index)
    (hgiven : ((value.pageSpots page.id).filterMap fun spot => spot.2.ownId?).Nodup) :
    page.DistinctIds ↔ value.PlacesFree page.id := by
  have htext : Function.Injective fun s : String => Value.text s := by
    intro s t heq
    cases heq
    rfl
  have hids : page.stored.map Node.id = ((value.pageSpots page.id).map fun spot =>
      spot.2.ownId?.getD ("node@" ++ spot.1)).map fun s => Value.text s := by
    rw [h.map_id_stored, List.map_map]
    rfl
  have hmarked : ((value.pageSpots page.id).filter fun spot => spot.2.ownId?.isNone).map
      (fun spot => "node@" ++ spot.1) =
        (Value.unnamedPlaces (value.pageSpots page.id)).map fun place => "node@" ++ place := by
    rw [Value.unnamedPlaces, List.map_map]
    rfl
  have hmark : Function.Injective fun place : String => "node@" ++ place :=
    fun _ _ heq => (String.append_right_inj "node@").1 heq
  rw [DistinctIds, hids, List.nodup_map_iff htext, nodup_ids_iff hgiven, hmarked,
    List.nodup_map_iff hmark, Value.nodup_unnamedPlaces_iff]
  exact ⟨fun h => ⟨h.1, h.2⟩, fun hplaces => ⟨hplaces.given, hplaces.apart⟩⟩

/-- Different nodes of a page with different ids own different zones. -/
theorem DistinctIds.eq_of_zoneKey (hd : page.DistinctIds) (ht : page.TextIds) {a b : Node}
    (ha : a ∈ page.stored) (hb : b ∈ page.stored) {name other : String}
    (hname : name ∈ Bundled.catalogue.zoneNames a.type a.props)
    (hother : other ∈ Bundled.catalogue.zoneNames b.type b.props)
    (hkey : zoneKey a.id.toText name = zoneKey b.id.toText other) : a = b := by
  obtain ⟨s, hs⟩ := ht a ha
  obtain ⟨t, hta⟩ := ht b hb
  obtain ⟨howner, _⟩ := zoneKey_injective (Bundled.colon_notMem_zoneNames hname)
    (Bundled.colon_notMem_zoneNames hother) hkey
  rw [hs, hta] at howner
  have hid : a.id = b.id := by
    rw [hs, hta]
    exact congrArg Value.text howner
  exact hd.eq_of_id ha hb hid

end Page

/-! ## The pages of a document -/

/-- No page is given the id of the position of a page without one. -/
def PositionsFree (pages : List Value) : Prop :=
  ∀ (index : Nat) (page : Value), pages[index]? = some page → page.ownPageId? = none →
    ∀ other ∈ pages, other.ownPageId? ≠ some ("page-" ++ toString index)

section Pages

variable {catalogue : Catalogue} {values : List Value} {pages : List Page}

theorem map_id_of_read (h : List.Forall₂
    (fun value page => page.ReadFrom catalogue value.1 value.2) values.zipIdx pages) :
    pages.map Page.id = values.zipIdx.map fun value =>
      value.1.ownPageId?.getD ("page-" ++ toString value.2) :=
  map_eq_of_forall₂ (fun _ _ hpage => hpage.id) h

theorem nodup_positions (values : List Value) :
    (values.zipIdx.map fun value => "page-" ++ toString value.2).Nodup := by
  have hnumbers : (values.zipIdx.map fun value => "page-" ++ toString value.2) =
      (values.zipIdx.map Prod.snd).map fun index => "page-" ++ toString index := by
    rw [List.map_map]
    rfl
  have hrange : (List.range' 0 values.length).Nodup := List.nodup_range'
  rw [hnumbers, List.zipIdx_map_snd]
  exact hrange.map fun m n heq => toString_injective ((String.append_right_inj "page-").1 heq)

/-- **The pages that are read have different ids if the given ones differ and the positions are
free**, and only then. -/
theorem nodup_pageIds_iff (h : List.Forall₂
    (fun value page => page.ReadFrom catalogue value.1 value.2) values.zipIdx pages)
    (hgiven : (values.filterMap Value.ownPageId?).Nodup) :
    (pages.map Page.id).Nodup ↔ PositionsFree values := by
  have hnumbered : (values.zipIdx.filterMap fun value => value.1.ownPageId?).Nodup := by
    have hsame : values.zipIdx.filterMap (fun value => value.1.ownPageId?) =
        (values.zipIdx.map Prod.fst).filterMap Value.ownPageId? := by
      rw [List.filterMap_map]
      rfl
    rw [hsame, List.zipIdx_map_fst]
    exact hgiven
  rw [map_id_of_read h, nodup_ids_iff hnumbered]
  constructor
  · rintro ⟨hfree, _⟩ index page hget hnone other hother
    obtain ⟨number, hnumber⟩ := List.getElem?_of_mem hother
    exact hfree (page, index) (List.mem_zipIdx_iff_getElem?.2 hget) hnone (other, number)
      (List.mem_zipIdx_iff_getElem?.2 hnumber)
  · intro hfree
    refine ⟨fun value hvalue hnone other hother => ?_,
      (nodup_positions values).sublist (List.filter_sublist.map _)⟩
    exact hfree value.2 value.1 (List.mem_zipIdx_iff_getElem?.1 hvalue) hnone other.1
      (List.fst_mem_of_mem_zipIdx hother)

end Pages

namespace Document

/-- Every page of a document whose pages have different ids is found by its id. -/
theorem page_eq_ok {document : Document} (h : (document.pages.map Page.id).Nodup) {page : Page}
    (hp : page ∈ document.pages) : document.page page.id = .ok page := by
  unfold Document.page
  cases hfind : document.pages.find? (fun own => own.id == page.id) with
  | none => exact absurd (List.find?_eq_none.1 hfind page hp) (by simp)
  | some own =>
    have hid : own.id = page.id := by simpa using List.find?_some hfind
    have hsame : own = page :=
      List.inj_on_of_nodup_map h (List.mem_of_find?_eq_some hfind) hp hid
    rw [hsame]

/-- **What the ids that a document gets from places address.** When the given ids differ, the pages
have different ids exactly if no page is given the id of a position, and the nodes of a page exactly
if the ids of its places are free. Then every page is found by its id, and no zone has two
owners. -/
theorem ofPayload_addressed {payload : Value} {document : Document}
    (h : ofPayload Bundled.catalogue payload = .ok document) :
    ∃ pages, payload.GivesPages pages ∧
      ((pages.filterMap Value.ownPageId?).Nodup →
        ((document.pages.map Page.id).Nodup ↔ PositionsFree pages)) ∧
      List.Forall₂ (fun value page =>
        ((value.pageSpots page.id).filterMap fun spot => spot.2.ownId?).Nodup →
          (page.DistinctIds ↔ value.PlacesFree page.id)) pages document.pages ∧
      ((document.pages.map Page.id).Nodup →
        ∀ page ∈ document.pages, document.page page.id = .ok page) ∧
      ∀ page ∈ document.pages, page.DistinctIds → ∀ a ∈ page.stored, ∀ b ∈ page.stored,
        ∀ name ∈ Bundled.catalogue.zoneNames a.type a.props,
        ∀ other ∈ Bundled.catalogue.zoneNames b.type b.props,
          zoneKey a.id.toText name = zoneKey b.id.toText other → a = b := by
  obtain ⟨pages, hpages, hread⟩ := ofPayload_readFrom h
  have hnodes : List.Forall₂ (fun value page =>
      ((value.pageSpots page.id).filterMap fun spot => spot.2.ownId?).Nodup →
        (page.DistinctIds ↔ value.PlacesFree page.id)) (pages.zipIdx.map Prod.fst)
      document.pages := by
    rw [List.forall₂_map_left_iff]
    exact hread.imp fun value page hpage => hpage.distinctIds_iff
  rw [List.zipIdx_map_fst] at hnodes
  refine ⟨pages, hpages, nodup_pageIds_iff hread, hnodes, fun hd page => page_eq_ok hd, ?_⟩
  intro page hpage hd a ha b hb name hname other hother hkey
  exact hd.eq_of_zoneKey (ofPayload_textIds h page hpage) ha hb hname hother hkey

end Document

/-- A page on which a section is given the id of the place behind it, where a section without an id
stands. -/
def givenPlace : Value :=
  .map [(.text "id", .text "home"),
    (.text "content", .list [
      .map [(.text "type", .text "Section"), (.text "id", .text "node@home:content/1")],
      .map [(.text "type", .text "Section")]]),
    (.text "zones", .map [(.text "node@home:content/1:col-0", .list [
      .map [(.text "type", .text "Badge"), (.text "id", .text "b")]])])]

/-- Both sections of the page have one id, although the given ids differ. -/
theorem Document.ofPayload_addressed_givenPlace :
    ∃ document page, ofPayload Bundled.catalogue (.map [(.text "pages", .list [givenPlace])]) =
        .ok document ∧ document.pages = [page] ∧
      ((givenPlace.pageSpots page.id).filterMap fun spot => spot.2.ownId?).Nodup ∧
      ¬ page.DistinctIds := by
  have hids : (ofPayload Bundled.catalogue
      (.map [(.text "pages", .list [givenPlace])])).toOption.map
      (fun document => document.pages.map Page.id) = some ["home"] := by decide +kernel
  obtain ⟨document, hdocument, hnames⟩ := Option.map_eq_some_iff.1 hids
  have hread := toOption_eq_some.1 hdocument
  obtain ⟨pages, hpages, _, hnodes, _⟩ := ofPayload_addressed hread
  have hone : pages = [givenPlace] := by
    rcases hpages with hlist | ⟨entries, hentries, hlist⟩
    · cases hlist
    · cases hentries
      exact (Option.some.inj hlist).symm
  rw [hone] at hnodes
  obtain ⟨page, rest, hpage, hrest, hpages⟩ := List.forall₂_cons_left_iff.1 hnodes
  rw [List.forall₂_nil_left_iff.1 hrest] at hpages
  have hid : page.id = "home" := by
    rw [hpages] at hnames
    exact (List.cons.inj hnames).1
  have hgiven : ((givenPlace.pageSpots page.id).filterMap fun spot => spot.2.ownId?).Nodup := by
    rw [hid]
    decide +kernel
  refine ⟨document, page, hread, hpages, hgiven, fun hdistinct => ?_⟩
  have hfree := (hpage hgiven).1 hdistinct
  rw [hid] at hfree
  have hnamed : ("home:content/0",
      Value.map [(.text "type", .text "Section"), (.text "id", .text "node@home:content/1")]) ∈
        givenPlace.pageSpots "home" := List.mem_append_left _ (mem_spots.2 ⟨0, rfl, by decide⟩)
  have hunnamed : ("home:content/1", Value.map [(.text "type", .text "Section")]) ∈
      givenPlace.pageSpots "home" := List.mem_append_left _ (mem_spots.2 ⟨1, rfl, by decide⟩)
  exact hfree.given _ hunnamed (by decide) _ hnamed (by decide)

end Pagewright
