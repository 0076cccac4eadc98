import Mathlib.Data.List.Forall2
import Pagewright.Document.Payload
import Pagewright.Proofs.Layouts

/-!
# What a document is read from

A payload is a value, and so is everything that stands at a name of it (`Value.field`). The
relations below say what a node, a page and a document have from the value that they stand for, and
from its place, without a word on how the values are gone through: `Node.ReadAt`, `Page.ReadFrom`,
`Document.ReadFrom`. The lists of a payload and the lists of a document are related item by item, so
nothing is left out, nothing is added and everything stays in order.

A zone is stored under the text of its key. Keys of one text share a place, and the value of the
last of them is the one that is kept (`zoneValues`); when all texts differ, all values are.
-/

namespace Pagewright

variable {catalogue : Catalogue}

/-! ## The parts of a value -/

namespace Value

/-- What a mapping holds at a name, or the absent value. -/
def field (v : Value) (name : String) : Value := (v.entries?.getD []).get name

/-- The items of a list; any other value has none. -/
def listed (v : Value) : List Value := v.items?.getD []

/-- The items of a list at their places, which are made of the place of the list and a number. -/
def spots (v : Value) (place : String) : List (String × Value) :=
  v.listed.zipIdx.map fun item => (place ++ "/" ++ toString item.2, item.1)

/-- The id that an item gives its node. -/
def ownId? (item : Value) : Option String :=
  givenId? (item.entries?.getD []) ((item.field "props").mapping?.getD [])

/-- The id that a page gives itself; one that holds nothing is none. -/
def ownPageId? (page : Value) : Option String :=
  if (page.field "id").isVoid then none else some (page.field "id").toText

/-- The mapping with the settings, the nodes and the zones of a page: the one under `data` if there
is one, or the page. -/
def body (page : Value) : Value :=
  match (page.field "data").entries? with
  | some _ => page.field "data"
  | none => page

variable {v page : Value} {entries : Props}

theorem field_eq (h : v.entries? = some entries) (name : String) :
    v.field name = entries.get name := by
  rw [field, h, Option.getD_some]

theorem entries?_body (h : page.entries? = some entries) :
    page.body.entries? = some ((entries.get "data").entries?.getD entries) := by
  rw [body, field_eq h]
  cases hdata : (entries.get "data").entries? with
  | none => rw [h, Option.getD_none]
  | some data => rw [hdata, Option.getD_some]

end Value

/-- The zones that entries leave, each at the place of the first key of its text. -/
def zoneValues (zones : Props) : List (String × Value) :=
  zones.foldl (fun kept zone => storeZone zone.1.toText zone.2 kept) []

section Zones

variable {α β : Type}

theorem storeZone_of_notMem {key : String} {nodes : α} {zones : List (String × α)}
    (h : key ∉ zones.map Prod.fst) : storeZone key nodes zones = zones ++ [(key, nodes)] := by
  induction zones with
  | nil => rfl
  | cons zone rest ih =>
    rw [List.map_cons, List.mem_cons, not_or] at h
    rw [storeZone, if_neg (Ne.symm h.1), ih h.2, List.cons_append]

/-- Keys of different texts keep all that they were given. -/
theorem zoneValues_of_nodup {zones : Props}
    (h : (zones.map fun zone => zone.1.toText).Nodup) :
    zoneValues zones = zones.map fun zone => (zone.1.toText, zone.2) := by
  -- the zones that are kept already are apart from those to come
  have hbehind : ∀ kept : List (String × Value),
      (kept.map Prod.fst ++ zones.map fun zone => zone.1.toText).Nodup →
        zones.foldl (fun kept zone => storeZone zone.1.toText zone.2 kept) kept =
          kept ++ zones.map fun zone => (zone.1.toText, zone.2) := by
    intro kept hnodup
    clear h
    induction zones generalizing kept with
    | nil => rw [List.foldl_nil, List.map_nil, List.append_nil]
    | cons zone rest ih =>
      have hfresh : zone.1.toText ∉ kept.map Prod.fst := by
        intro hmem
        exact (List.nodup_append.1 hnodup).2.2 _ hmem _ (List.mem_cons_self ..) rfl
      rw [List.foldl_cons, storeZone_of_notMem hfresh, ih, List.map_cons, List.append_assoc,
        List.singleton_append]
      simpa using hnodup
  exact hbehind [] (by simpa using h)

/-- Zones that are related stay so when both lists get a zone under one key. -/
theorem forall₂_storeZone {R : String × α → String × β → Prop}
    (hkey : ∀ given zone, R given zone → zone.1 = given.1) {key : String} {value : α} {nodes : β}
    (h : R (key, value) (key, nodes)) {kept : List (String × α)} {read : List (String × β)}
    (hread : List.Forall₂ R kept read) :
    List.Forall₂ R (storeZone key value kept) (storeZone key nodes read) := by
  induction hread with
  | nil => exact .cons h .nil
  | @cons given zone kept read hzone hrest ih =>
    rw [storeZone, storeZone, hkey given zone hzone]
    by_cases hsame : given.1 = key
    · rw [if_pos hsame, if_pos hsame]
      exact .cons h hrest
    · rw [if_neg hsame, if_neg hsame]
      exact .cons hzone ih

end Zones

/-- What is related to a list item by item is related to some item of it. -/
theorem exists_of_forall₂ {α β : Type} {R : α → β → Prop} {given : List α} {read : List β}
    (h : List.Forall₂ R given read) {b : β} (hb : b ∈ read) : ∃ a ∈ given, R a b := by
  induction h with
  | nil => exact absurd hb List.not_mem_nil
  | @cons a first _ _ hfirst _ ih =>
    rcases List.mem_cons.1 hb with rfl | hb
    · exact ⟨a, List.mem_cons_self .., hfirst⟩
    · obtain ⟨other, hother, hrel⟩ := ih hb
      exact ⟨other, List.mem_cons_of_mem _ hother, hrel⟩

theorem map_eq_of_forall₂ {α β γ : Type} {R : α → β → Prop} {f : α → γ} {g : β → γ}
    (hR : ∀ a b, R a b → g b = f a) {given : List α} {read : List β}
    (h : List.Forall₂ R given read) : read.map g = given.map f := by
  induction h with
  | nil => rfl
  | cons hfirst _ ih => rw [List.map_cons, List.map_cons, ih, hR _ _ hfirst]

/-! ## Nodes -/

/-- The node is the one of an item at its place. -/
structure Node.ReadAt (catalogue : Catalogue) (spot : String × Value) (node : Node) : Prop where
  type : spot.2.field "type" = .text node.type
  /-- The props are the given ones without the id, once the schema of the type is applied. -/
  props : ∃ given, (spot.2.field "props").mapping? = some given ∧
    node.props = catalogue.resolve node.type (given.without "id")
  /-- A node without an id of its own is known by its place. -/
  id : node.id = .text (spot.2.ownId?.getD ("node@" ++ spot.1))

/-- The nodes are those of the items of a value at a place. -/
abbrev NodesRead (catalogue : Catalogue) (place : String) (v : Value) (nodes : List Node) : Prop :=
  List.Forall₂ (Node.ReadAt catalogue) (v.spots place) nodes

theorem Node.ofPayload_readAt {place : String} {item : Value} {entries : Props} {node : Node}
    (hentries : item.entries? = some entries)
    (h : Node.ofPayload catalogue place entries = .ok node) :
    node.ReadAt catalogue (place, item) := by
  unfold Node.ofPayload at h
  split at h
  · next type htype =>
    dsimp only at h
    split at h
    · obtain ⟨_, hthrow, _⟩ := bind_eq_ok.1 h
      cases hthrow
    · split at h
      · cases h
      · next given hgiven =>
        have hfield : (item.field "props").mapping? = some given := by
          rw [Value.field_eq hentries, hgiven]
        have hid : item.ownId? = givenId? entries given := by
          rw [Value.ownId?, hentries, hfield]
          rfl
        split at h
        · cases h
        · rw [← Except.ok.inj h]
          exact ⟨by rw [Value.field_eq hentries, htype], ⟨given, hfield, rfl⟩, by rw [hid]⟩
  · cases h

theorem nodesFrom_read {place : String} {index : Nat} {items : List Value} {nodes : List Node}
    (h : nodesFrom catalogue place index items = .ok nodes) :
    List.Forall₂ (Node.ReadAt catalogue)
      ((items.zipIdx index).map fun item => (place ++ "/" ++ toString item.2, item.1)) nodes := by
  induction items generalizing index nodes with
  | nil =>
    rw [← Except.ok.inj h]
    exact .nil
  | cons item rest ih =>
    rw [nodesFrom] at h
    split at h
    · next entries hentries =>
      obtain ⟨first, hfirst, h⟩ := bind_eq_ok.1 h
      obtain ⟨more, hmore, h⟩ := bind_eq_ok.1 h
      rw [← Except.ok.inj h]
      exact .cons (Node.ofPayload_readAt hentries hfirst) (ih hmore)
    · cases h

theorem nodesOfPayload_read {place : String} {v : Value} {nodes : List Node}
    (h : nodesOfPayload catalogue place v = .ok nodes) : NodesRead catalogue place v nodes := by
  unfold nodesOfPayload at h
  split at h
  · rw [← Except.ok.inj h]
    exact .nil
  · unfold NodesRead Value.spots Value.listed
    cases hitems : v.items? with
    | none =>
      rw [hitems] at h
      cases h
    | some items =>
      rw [hitems] at h
      exact nodesFrom_read h

/-! ## Zones -/

/-- The zone is the one of a key and its value. -/
def ZoneRead (catalogue : Catalogue) (given : String × Value) (zone : String × List Node) : Prop :=
  zone.1 = given.1 ∧ NodesRead catalogue given.1 given.2 zone.2

theorem zonesFrom_read {read zones : List (String × List Node)} {kept : List (String × Value)}
    {entries : Props} (hread : List.Forall₂ (ZoneRead catalogue) kept read)
    (h : zonesFrom catalogue read entries = .ok zones) :
    List.Forall₂ (ZoneRead catalogue)
      (entries.foldl (fun kept zone => storeZone zone.1.toText zone.2 kept) kept) zones := by
  induction entries generalizing read kept with
  | nil =>
    rw [← Except.ok.inj h]
    exact hread
  | cons entry rest ih =>
    obtain ⟨nodes, hnodes, h⟩ := bind_eq_ok.1 h
    have hstored : List.Forall₂ (ZoneRead catalogue)
        (storeZone entry.1.toText entry.2 kept) (storeZone entry.1.toText nodes read) :=
      forall₂_storeZone (fun _ _ hzone => hzone.1) ⟨rfl, nodesOfPayload_read hnodes⟩ hread
    exact ih hstored h

/-! ## Pages -/

/-- The page is the one of a value at a position. -/
structure Page.ReadFrom (page : Page) (catalogue : Catalogue) (value : Value) (index : Nat) :
    Prop where
  id : page.id = value.ownPageId?.getD ("page-" ++ toString index)
  /-- The settings are the given ones, once their schema is applied. -/
  settings : ∃ given, settingsPayload (value.body.field "root") = some given ∧
    PageSettings.ofProps (catalogue.resolveRoot given) = .ok page.settings
  content : NodesRead catalogue (page.id ++ ":content") (value.body.field "content") page.content
  zones : ∃ zones, (value.body.field "zones").mapping? = some zones ∧
    List.Forall₂ (ZoneRead catalogue) (zoneValues zones) page.zones

theorem Page.ofPayload_readFrom {index : Nat} {value : Value} {entry : Props} {page : Page}
    (hentry : value.entries? = some entry) (h : Page.ofPayload catalogue index entry = .ok page) :
    page.ReadFrom catalogue value index := by
  have hbody := Value.field_eq (Value.entries?_body hentry)
  unfold Page.ofPayload at h
  dsimp only at h
  rw [← hbody, ← hbody, ← hbody] at h
  split at h
  · cases h
  · next given hgiven =>
    obtain ⟨content, hcontent, h⟩ := bind_eq_ok.1 h
    split at h
    · cases h
    · next own hown =>
      obtain ⟨zones, hzones, h⟩ := bind_eq_ok.1 h
      split at h
      · obtain ⟨_, hthrow, _⟩ := bind_eq_ok.1 h
        cases hthrow
      · obtain ⟨settings, hsettings, h⟩ := bind_eq_ok.1 h
        rw [← Except.ok.inj h]
        refine ⟨?_, ⟨given, hgiven, mapError_eq_ok.1 hsettings⟩, nodesOfPayload_read hcontent,
          own, hown, zonesFrom_read .nil hzones⟩
        rw [Value.ownPageId?, Value.field_eq hentry]
        split <;> rfl

theorem pagesFrom_read {index : Nat} {values : List Value} {pages : List Page}
    (h : pagesFrom catalogue index values = .ok pages) :
    List.Forall₂ (fun value page => page.ReadFrom catalogue value.1 value.2)
      (values.zipIdx index) pages := by
  induction values generalizing index pages with
  | nil =>
    rw [← Except.ok.inj h]
    exact .nil
  | cons value rest ih =>
    rw [pagesFrom] at h
    split at h
    · next entry hentry =>
      obtain ⟨first, hfirst, h⟩ := bind_eq_ok.1 h
      obtain ⟨more, hmore, h⟩ := bind_eq_ok.1 h
      rw [← Except.ok.inj h]
      exact .cons (Page.ofPayload_readFrom hentry hfirst) (ih hmore)
    · cases h

/-! ## Numbering -/

theorem forall₂_numberNodes {spots : List (String × Value)} {nodes : List Node}
    (h : List.Forall₂ (Node.ReadAt catalogue) spots nodes) (first : Nat) :
    List.Forall₂ (Node.ReadAt catalogue) spots (numberNodes first nodes) := by
  unfold numberNodes
  induction h generalizing first with
  | nil => exact .nil
  | cons hnode _ ih => exact .cons ⟨hnode.type, hnode.props, hnode.id⟩ (ih (first + 1))

theorem forall₂_numberZones {given : List (String × Value)} {zones : List (String × List Node)}
    (h : List.Forall₂ (ZoneRead catalogue) given zones) (first : Nat) :
    List.Forall₂ (ZoneRead catalogue) given (numberZones first zones) := by
  induction h generalizing first with
  | nil => exact .nil
  | cons hzone _ ih => exact .cons ⟨hzone.1, forall₂_numberNodes hzone.2 first⟩ (ih _)

theorem Page.ReadFrom.number {page : Page} {value : Value} {index : Nat}
    (h : page.ReadFrom catalogue value index) (first : Nat) :
    (page.number first).ReadFrom catalogue value index where
  id := h.id
  settings := h.settings
  content := forall₂_numberNodes h.content first
  zones :=
    let ⟨zones, hzones, hread⟩ := h.zones
    ⟨zones, hzones, forall₂_numberZones hread _⟩

theorem forall₂_numberPages {values : List (Value × Nat)} {pages : List Page}
    (h : List.Forall₂ (fun value page => page.ReadFrom catalogue value.1 value.2) values pages)
    (first : Nat) :
    List.Forall₂ (fun value page => page.ReadFrom catalogue value.1 value.2) values
      (numberPages first pages) := by
  induction h generalizing first with
  | nil => exact .nil
  | cons hpage _ ih => exact .cons (hpage.number first) (ih _)

/-! ## Documents -/

/-- The values are the pages of a payload: a list of them, or the list that a mapping has under
`pages`. -/
def Value.GivesPages (payload : Value) (pages : List Value) : Prop :=
  payload.items? = some pages ∨ ∃ entries, payload.entries? = some entries ∧
    (entries.get "pages").items? = some pages

/-- The document is the one of a payload. -/
def Document.ReadFrom (document : Document) (catalogue : Catalogue) (payload : Value) : Prop :=
  ∃ pages, payload.GivesPages pages ∧
    List.Forall₂ (fun value page => page.ReadFrom catalogue value.1 value.2) pages.zipIdx
      document.pages

/-- No list is a mapping. -/
theorem Value.entries?_of_items? {v : Value} {items : List Value} (h : v.items? = some items) :
    v.entries? = none := by
  unfold items? at h
  unfold entries?
  split at h
  · next hlist => rw [hlist]
  · cases h

theorem pageList_eq_ok {payload : Value} {pages : List Value} :
    pageList payload = .ok pages ↔ payload.GivesPages pages := by
  unfold pageList Value.GivesPages
  cases hitems : payload.items? with
  | some items =>
    have hnone := Value.entries?_of_items? hitems
    simp [hnone]
  | none =>
    cases hentries : payload.entries? with
    | none => simp
    | some entries =>
      cases hpages : (entries.get "pages").items? with
      | none => simp [hpages]
      | some values => simp [hpages]

theorem Document.ofPages_pages {pages : List Page} {document : Document}
    (h : ofPages pages = .ok document) : document.pages = numberPages 0 pages := by
  cases pages with
  | nil => cases h
  | cons first rest => rw [← Except.ok.inj h]

/-- **A document is read from its payload.** -/
theorem Document.ofPayload_readFrom {payload : Value} {document : Document}
    (h : ofPayload catalogue payload = .ok document) : document.ReadFrom catalogue payload := by
  obtain ⟨values, hvalues, h⟩ := bind_eq_ok.1 h
  obtain ⟨pages, hpages, h⟩ := bind_eq_ok.1 h
  refine ⟨values, pageList_eq_ok.1 hvalues, ?_⟩
  rw [ofPages_pages (mapError_eq_ok.1 h)]
  exact forall₂_numberPages (pagesFrom_read hpages) 0

end Pagewright
