import Pagewright.Proofs.Reading

/-!
# Which values are documents

The shapes that a document is read from, one for each of its parts: `Value.IsNode`,
`Value.IsNodeList`, `Value.IsPage` and `Value.IsDocument`. A shape only looks at the value, while
reading also resolves props and settings; with the bundled catalogue nothing goes wrong there, so
each reader succeeds exactly on its shape and reports everything else (`Decides`). A sequence of
readings decides the shapes of all of them together, and this is all that carries the result from a
node up to a document.

Only the list of pages decides what is read from a payload, and of a page only its id and the three
parts of its body, wherever they are written (`Value.SamePage`). So the same pages can be spelled in
several ways without a difference.
-/

namespace Pagewright

/-! ## Shapes -/

namespace Value

/-- The value is a mapping. -/
def IsMapping (v : Value) : Prop := ∃ entries, v.entries? = some entries

/-- The value is a mapping or holds nothing. -/
def IsMappingOrVoid (v : Value) : Prop := v.isVoid = true ∨ v.IsMapping

/-- The value describes a node. -/
structure IsNode (v : Value) : Prop where
  mapping : v.IsMapping
  type : ∃ type, v.field "type" = .text type ∧ type ≠ ""
  props : (v.field "props").IsMappingOrVoid

/-- The value describes a list of nodes; the absent value is an empty one. -/
structure IsNodeList (v : Value) : Prop where
  list : v = .null ∨ ∃ items, v.items? = some items
  nodes : ∀ item ∈ v.listed, item.IsNode

/-- The value describes a page. -/
structure IsPage (v : Value) : Prop where
  mapping : v.IsMapping
  root : (v.body.field "root").IsMappingOrVoid
  content : (v.body.field "content").IsNodeList
  zones : (v.body.field "zones").IsMappingOrVoid
  lists : ∀ zone ∈ (v.body.field "zones").entries?.getD [], zone.2.IsNodeList

/-- The value describes a document: it gives pages, and at least one. -/
def IsDocument (payload : Value) : Prop :=
  ∃ pages, payload.GivesPages pages ∧ pages ≠ [] ∧ ∀ page ∈ pages, page.IsPage

variable {v : Value}

theorem not_isMapping (h : v.entries? = none) : ¬ v.IsMapping := by
  rintro ⟨entries, hentries⟩
  rw [h] at hentries
  cases hentries

theorem mapping?_eq_none : v.mapping? = none ↔ ¬ v.IsMappingOrVoid := by
  unfold mapping? IsMappingOrVoid IsMapping
  cases v.entries? with
  | some entries => simp
  | none => by_cases hvoid : v.isVoid = true <;> simp [hvoid]

theorem eq_of_mapping? {entries : Props} (h : v.mapping? = some entries) :
    entries = v.entries?.getD [] := by
  unfold mapping? at h
  split at h
  · next own hown =>
    rw [hown, Option.getD_some, Option.some.inj h]
  · next hnone =>
    rw [hnone, Option.getD_none]
    by_cases hvoid : v.isVoid = true
    · rw [if_pos hvoid] at h
      exact (Option.some.inj h).symm
    · rw [if_neg hvoid] at h
      cases h

theorem isMappingOrVoid_of_mapping? {entries : Props} (h : v.mapping? = some entries) :
    v.IsMappingOrVoid := by
  by_contra hnot
  rw [mapping?_eq_none.2 hnot] at h
  cases h

end Value

/-! ## Deciding a shape -/

/-- Is the fault a report on the payload? -/
def PayloadFault.isReport : PayloadFault → Bool
  | .missingSetting _ => false
  | .entries _ => false
  | _ => true

/-- A reading succeeds on what is accepted and reports everything else. -/
inductive Decides {α : Type} (reading : Except PayloadFault α) (accepted : Prop) : Prop where
  | reads {a : α} : reading = .ok a → accepted → Decides reading accepted
  | reports {fault : PayloadFault} : reading = .error fault → fault.isReport = true →
      ¬ accepted → Decides reading accepted

namespace Decides

variable {α β : Type} {reading : Except PayloadFault α} {accepted other : Prop}

theorem congr (h : Decides reading accepted) (hiff : accepted ↔ other) : Decides reading other := by
  cases h with
  | reads hread haccepted => exact .reads hread (hiff.1 haccepted)
  | reports hread hreport hnot => exact .reports hread hreport (hnot ∘ hiff.2)

theorem bind {rest : α → Except PayloadFault β} (h : Decides reading accepted)
    (hrest : ∀ a, reading = .ok a → Decides (rest a) other) :
    Decides (reading >>= rest) (accepted ∧ other) := by
  cases h with
  | @reads a hread haccepted =>
    rw [hread]
    exact (hrest a hread).congr ⟨fun hother => ⟨haccepted, hother⟩, And.right⟩
  | reports hread hreport hnot =>
    rw [hread]
    exact .reports rfl hreport fun hboth => hnot hboth.1

/-- A last step that cannot fail decides nothing. -/
theorem bind_ok {rest : α → Except PayloadFault β} (h : Decides reading accepted)
    (hrest : ∀ a, reading = .ok a → ∃ b, rest a = .ok b) : Decides (reading >>= rest) accepted := by
  have hlast : ∀ a, reading = .ok a → Decides (rest a) True := by
    intro a ha
    obtain ⟨b, hb⟩ := hrest a ha
    exact .reads hb trivial
  exact (h.bind hlast).congr ⟨And.left, fun haccepted => ⟨haccepted, trivial⟩⟩

end Decides

/-! ## Nodes -/

section Readers

theorem Bundled.resolveFault?_eq_none (type : String) (props : Props) :
    Bundled.catalogue.resolveFault? type props = none :=
  (Option.or_eq_none_iff.1 (Bundled.settled.faultless type props)).1

theorem Node.ofPayload_decides (place : String) {item : Value} {entries : Props}
    (h : item.entries? = some entries) :
    Decides (Node.ofPayload Bundled.catalogue place entries) item.IsNode := by
  unfold Node.ofPayload
  split
  · next type htype =>
    have hfield : item.field "type" = .text type := by rw [Value.field_eq h, htype]
    dsimp only
    by_cases hempty : type.isEmpty = true
    · rw [if_pos hempty]
      refine .reports rfl rfl fun hnode => ?_
      obtain ⟨own, hown, hne⟩ := hnode.type
      rw [hfield] at hown
      cases hown
      exact hne (String.isEmpty_iff.1 hempty)
    · rw [if_neg hempty]
      cases hprops : (entries.get "props").mapping? with
      | none =>
        refine .reports rfl rfl fun hnode => ?_
        have hvalue := hnode.props
        rw [Value.field_eq h] at hvalue
        exact Value.mapping?_eq_none.1 hprops hvalue
      | some given =>
        have hvalue := Value.isMappingOrVoid_of_mapping? hprops
        rw [← Value.field_eq h] at hvalue
        dsimp only
        -- a bundled schema takes whatever the props hold
        rw [Bundled.resolveFault?_eq_none]
        exact .reads rfl ⟨⟨entries, h⟩,
          ⟨type, hfield, fun heq => hempty (String.isEmpty_iff.2 heq)⟩, hvalue⟩
  · next hother =>
    refine .reports rfl rfl fun hnode => ?_
    obtain ⟨type, htype, _⟩ := hnode.type
    rw [Value.field_eq h] at htype
    exact hother type htype

theorem nodesFrom_decides (place : String) (index : Nat) (items : List Value) :
    Decides (nodesFrom Bundled.catalogue place index items) (∀ item ∈ items, item.IsNode) := by
  induction items generalizing index with
  | nil => exact .reads rfl nofun
  | cons item rest ih =>
    rw [nodesFrom]
    cases hentries : item.entries? with
    | none =>
      exact .reports rfl rfl fun hnodes =>
        Value.not_isMapping hentries (hnodes item (by simp)).mapping
    | some entries =>
      have hfirst := Node.ofPayload_decides (place ++ "/" ++ toString index) hentries
      have hboth := hfirst.bind fun node _ =>
        (ih (index + 1)).bind_ok fun nodes _ => ⟨node :: nodes, rfl⟩
      exact hboth.congr List.forall_mem_cons.symm

theorem nodesOfPayload_decides (place : String) (v : Value) :
    Decides (nodesOfPayload Bundled.catalogue place v) v.IsNodeList := by
  unfold nodesOfPayload
  split
  · exact .reads rfl ⟨Or.inl rfl, nofun⟩
  · next hnull =>
    cases hitems : v.items? with
    | none =>
      refine .reports rfl rfl fun hlist => ?_
      rcases hlist.list with hvoid | ⟨items, hsome⟩
      · exact hnull hvoid
      · rw [hitems] at hsome
        cases hsome
    | some items =>
      have hlisted : v.listed = items := by rw [Value.listed, hitems, Option.getD_some]
      refine (nodesFrom_decides place 0 items).congr ⟨fun hnodes => ?_, fun hlist => ?_⟩
      · exact ⟨Or.inr ⟨items, hitems⟩, by rw [hlisted]; exact hnodes⟩
      · rw [← hlisted]
        exact hlist.nodes

theorem zonesFrom_decides (read : List (String × List Node)) (entries : Props) :
    Decides (zonesFrom Bundled.catalogue read entries) (∀ zone ∈ entries, zone.2.IsNodeList) := by
  induction entries generalizing read with
  | nil => exact .reads rfl fun zone hzone => absurd hzone List.not_mem_nil
  | cons entry rest ih =>
    -- a value is read even when a later key of its text takes its place
    have hfirst := nodesOfPayload_decides entry.1.toText entry.2
    have hall : (∀ zone ∈ entry :: rest, zone.2.IsNodeList) ↔
        entry.2.IsNodeList ∧ ∀ zone ∈ rest, zone.2.IsNodeList := List.forall_mem_cons
    exact (hfirst.bind fun nodes _ => ih _).congr hall.symm

/-! ## Pages -/

/-- The settings of a page can always be read, once their schema is applied. -/
theorem Bundled.ofProps_resolveRoot (props : Props) :
    ∃ settings, PageSettings.ofProps (Bundled.catalogue.resolveRoot props) = .ok settings := by
  have hprop : ∀ field ∈ Bundled.page.fields, ∃ v,
      (Bundled.catalogue.resolveRoot props).get? field.name = some v :=
    fun field hfield => ⟨_, Schema.get?_conform (by decide) hfield props⟩
  have hnamed : ∀ name ∈ Bundled.page.fields.map Field.name, ∃ v,
      ((Bundled.catalogue.resolveRoot props).get? name).elim (.error name) .ok =
        (.ok v : Except String Value) := by
    intro name hname
    obtain ⟨field, hfield, rfl⟩ := List.mem_map.1 hname
    obtain ⟨v, hv⟩ := hprop field hfield
    exact ⟨v, by rw [hv]; rfl⟩
  exact bind_ok (hnamed "pageTitle" (by decide)) fun _ =>
    bind_ok (hnamed "pageRoute" (by decide)) fun _ =>
    bind_ok (hnamed "canvasColor" (by decide)) fun _ =>
    bind_ok (hnamed "maxWidth" (by decide)) fun _ => ⟨_, rfl⟩

theorem Bundled.root_fault?_eq_none (props : Props) :
    Bundled.catalogue.root.fault? props = none :=
  Schema.fault?_eq_none (by decide) props

theorem settingsPayload_eq_none {root : Value} :
    settingsPayload root = none ↔ ¬ root.IsMappingOrVoid := by
  rw [settingsPayload, Option.map_eq_none_iff]
  exact Value.mapping?_eq_none

theorem Page.ofPayload_decides (index : Nat) {value : Value} {entry : Props}
    (h : value.entries? = some entry) :
    Decides (Page.ofPayload Bundled.catalogue index entry) value.IsPage := by
  have hbody := Value.field_eq (Value.entries?_body h)
  unfold Page.ofPayload
  dsimp only
  rw [← hbody, ← hbody, ← hbody]
  cases hroot : settingsPayload (value.body.field "root") with
  | none => exact .reports rfl rfl fun hpage => settingsPayload_eq_none.1 hroot hpage.root
  | some settings =>
    have hsettings : (value.body.field "root").IsMappingOrVoid := by
      by_contra hnot
      rw [settingsPayload_eq_none.2 hnot] at hroot
      cases hroot
    cases hzones : (value.body.field "zones").mapping? with
    | none =>
      -- the nodes at the top are read first, and a fault in them is the one that is reported
      have hnot := Value.mapping?_eq_none.1 hzones
      have hpage : (value.body.field "content").IsNodeList ∧
          (value.body.field "zones").IsMappingOrVoid ↔ value.IsPage :=
        iff_of_false (fun hboth => hnot hboth.2) fun hpage => hnot hpage.zones
      refine Decides.congr (Decides.bind (nodesOfPayload_decides _ _) fun content _ => ?_) hpage
      exact .reports rfl rfl hnot
    | some zones =>
      have hvalue := Value.isMappingOrVoid_of_mapping? hzones
      have hpage : ((value.body.field "content").IsNodeList ∧ ∀ zone ∈ zones, zone.2.IsNodeList) ↔
          value.IsPage := by
        rw [Value.eq_of_mapping? hzones]
        exact ⟨fun hboth => ⟨⟨entry, h⟩, hsettings, hboth.1, hvalue, hboth.2⟩,
          fun hpage => ⟨hpage.content, hpage.lists⟩⟩
      refine Decides.congr (Decides.bind (nodesOfPayload_decides _ _) fun content _ =>
        Decides.bind_ok (zonesFrom_decides _ _) fun read _ => ?_) hpage
      -- what is left is to resolve the settings, which cannot fail
      obtain ⟨resolved, hresolved⟩ := Bundled.ofProps_resolveRoot settings
      rw [Bundled.root_fault?_eq_none, hresolved]
      exact ⟨_, rfl⟩

theorem pagesFrom_decides (index : Nat) (values : List Value) :
    Decides (pagesFrom Bundled.catalogue index values) (∀ value ∈ values, value.IsPage) := by
  induction values generalizing index with
  | nil => exact .reads rfl nofun
  | cons value rest ih =>
    rw [pagesFrom]
    cases hentry : value.entries? with
    | none =>
      exact .reports rfl rfl fun hpages =>
        Value.not_isMapping hentry (hpages value (by simp)).mapping
    | some entry =>
      have hfirst := Page.ofPayload_decides index hentry
      have hboth := hfirst.bind fun page _ =>
        (ih (index + 1)).bind_ok fun pages _ => ⟨page :: pages, rfl⟩
      exact hboth.congr List.forall_mem_cons.symm

/-! ## Documents -/

theorem pageList_decides (payload : Value) :
    Decides (pageList payload) (∃ pages, payload.GivesPages pages) := by
  cases hlist : pageList payload with
  | ok pages => exact .reads rfl ⟨pages, pageList_eq_ok.1 hlist⟩
  | error fault =>
    have hreport : fault.isReport = true := by
      unfold pageList at hlist
      split at hlist
      · cases hlist
      · split at hlist
        · next entries _ =>
          cases hpages : (entries.get "pages").items? with
          | none =>
            rw [hpages] at hlist
            cases hlist
            rfl
          | some pages =>
            rw [hpages] at hlist
            cases hlist
        · cases hlist
          rfl
    refine .reports rfl hreport fun ⟨pages, hpages⟩ => ?_
    rw [pageList_eq_ok.2 hpages] at hlist
    cases hlist

theorem Document.ofPages_decides {values : List Value} {pages : List Page}
    (h : pages.length = values.length) :
    Decides ((ofPages pages).mapError fun _ => .noPages) (values ≠ []) := by
  cases pages with
  | nil =>
    have hnil : values = [] := List.eq_nil_of_length_eq_zero h.symm
    exact .reports rfl rfl fun hne => hne hnil
  | cons first rest =>
    refine .reads rfl fun hnil => ?_
    rw [hnil] at h
    cases h

theorem Document.ofPayload_decides (payload : Value) :
    Decides (ofPayload Bundled.catalogue payload) payload.IsDocument := by
  have hgiven : (∃ pages, payload.GivesPages pages) ∧ payload.IsDocument ↔ payload.IsDocument :=
    ⟨And.right, fun ⟨pages, hpages, hall⟩ => ⟨⟨pages, hpages⟩, pages, hpages, hall⟩⟩
  unfold ofPayload
  refine Decides.congr (Decides.bind (pageList_decides payload) fun values hvalues => ?_) hgiven
  have hgives : payload.GivesPages values := pageList_eq_ok.1 hvalues
  -- the list of pages is the only one that the payload gives
  have hdocument : (∀ value ∈ values, value.IsPage) ∧ values ≠ [] ↔ payload.IsDocument := by
    refine ⟨fun hboth => ⟨values, hgives, hboth.2, hboth.1⟩, ?_⟩
    rintro ⟨pages, hpages, hne, hall⟩
    have hsame : values = pages := by
      have hother := pageList_eq_ok.2 hpages
      rw [hvalues] at hother
      exact Except.ok.inj hother
    rw [hsame]
    exact ⟨hall, hne⟩
  refine Decides.congr (Decides.bind (pagesFrom_decides 0 values) fun pages hpages => ?_) hdocument
  have hlength := (pagesFrom_read hpages).length_eq
  rw [List.length_zipIdx] at hlength
  exact ofPages_decides hlength.symm

end Readers

/-! ## Spellings of the same pages -/

section Spellings

variable {catalogue : Catalogue}

/-- The values describe the same page: they agree on its id and on the parts of its body. -/
structure Value.SamePage (v w : Value) : Prop where
  mapping : v.IsMapping ↔ w.IsMapping
  id : v.field "id" = w.field "id"
  root : v.body.field "root" = w.body.field "root"
  content : v.body.field "content" = w.body.field "content"
  zones : v.body.field "zones" = w.body.field "zones"

theorem Value.SamePage.refl (v : Value) : v.SamePage v := ⟨Iff.rfl, rfl, rfl, rfl, rfl⟩

theorem Page.ofPayload_congr {v w : Value} {entry other : Props} (h : v.SamePage w)
    (hv : v.entries? = some entry) (hw : w.entries? = some other) (index : Nat) :
    Page.ofPayload catalogue index entry = Page.ofPayload catalogue index other := by
  have hentry := Value.field_eq (Value.entries?_body hv)
  have hother := Value.field_eq (Value.entries?_body hw)
  unfold Page.ofPayload
  dsimp only
  rw [← hentry, ← hentry, ← hentry, ← hother, ← hother, ← hother, ← Value.field_eq hv,
    ← Value.field_eq hw, h.id, h.root, h.content, h.zones]

theorem pagesFrom_congr {values others : List Value}
    (h : List.Forall₂ Value.SamePage values others) (index : Nat) :
    pagesFrom catalogue index values = pagesFrom catalogue index others := by
  induction h generalizing index with
  | nil => rfl
  | @cons v w _ _ hpage _ ih =>
    rw [pagesFrom, pagesFrom, ih]
    cases hv : v.entries? with
    | none =>
      cases hw : w.entries? with
      | none => rfl
      | some other => exact absurd (hpage.mapping.2 ⟨other, hw⟩) (Value.not_isMapping hv)
    | some entry =>
      obtain ⟨other, hw⟩ := hpage.mapping.1 ⟨entry, hv⟩
      rw [hw]
      dsimp only
      rw [Page.ofPayload_congr hpage hv hw]

/-- **Payloads that give the same pages are the same document**, or fail alike. -/
theorem Document.ofPayload_congr {payload other : Value} {pages others : List Value}
    (hpages : payload.GivesPages pages) (hothers : other.GivesPages others)
    (h : List.Forall₂ Value.SamePage pages others) :
    ofPayload catalogue payload = ofPayload catalogue other := by
  unfold ofPayload
  rw [pageList_eq_ok.2 hpages, pageList_eq_ok.2 hothers]
  show pagesFrom catalogue 0 pages >>= _ = pagesFrom catalogue 0 others >>= _
  rw [pagesFrom_congr h]

/-- A key of one text has no other text. -/
theorem Key.same_text_of_ne {key : Key} {a b : String} (h : a ≠ b)
    (ha : key.same (.text a) = true) : key.same (.text b) = false := by
  rw [Bool.eq_false_iff]
  intro hb
  obtain ⟨f, hf, hfa⟩ := Key.same_eq_true_iff.1 ha
  obtain ⟨g, hg, hgb⟩ := Key.same_eq_true_iff.1 hb
  rw [hf] at hg
  rw [Key.form?_text] at hfa hgb
  cases hg
  cases hfa
  cases hgb
  exact h rfl

theorem Props.get_without (props : Props) {name other : String} (h : other ≠ name) :
    (props.without other).get name = props.get name := by
  have hpair : ∀ entry : Key × Value, decide ((!entry.1.same (.text other)) = true ∧
      entry.1.same (.text name) = true) = entry.1.same (.text name) := by
    intro entry
    cases hother : entry.1.same (.text other) with
    | false => simp
    | true => simp [Key.same_text_of_ne h hother]
  rw [Props.get, Props.get, Props.get?, Props.get?, Props.find?, Props.find?, Props.without,
    List.find?_filter]
  simp only [hpair]

/-- The entries of a page with everything but its id in a mapping under `data`. -/
def Props.nested (entries : Props) : Props :=
  entries.filter (fun entry => entry.1.same (.text "id")) ++
    [(.text "data", .map (entries.without "id"))]

theorem Props.get_nested_id (entries : Props) : entries.nested.get "id" = entries.get "id" := by
  have hkept : (entries.filter fun entry => entry.1.same (.text "id")).find?
      (fun entry => entry.1.same (.text "id")) =
        List.find? (fun entry => entry.1.same (.text "id")) entries := by
    rw [List.find?_filter]
    simp only [and_self, Bool.decide_eq_true]
  rw [Props.get, Props.get, Props.get?, Props.get?, Props.find?, Props.find?, nested,
    List.find?_append, hkept]
  cases List.find? (fun entry => entry.1.same (.text "id")) entries with
  | some entry => rfl
  | none => rfl

theorem Props.get_nested_data (entries : Props) :
    entries.nested.get "data" = .map (entries.without "id") := by
  -- nothing but the id stands in front of the data
  have hnone : (entries.filter fun entry => entry.1.same (.text "id")).find?
      (fun entry => entry.1.same (.text "data")) = none := by
    rw [List.find?_eq_none]
    intro entry hentry
    have hid : entry.1.same (.text "id") = true := (List.mem_filter.1 hentry).2
    rw [Key.same_text_of_ne (by decide) hid]
    exact Bool.noConfusion
  rw [Props.get, Props.get?, Props.find?, nested, List.find?_append, hnone]
  rfl

/-- The page with everything but its id in a mapping under `data`. -/
def Value.nested (page : Value) : Value :=
  match page.entries? with
  | some entries => .map entries.nested
  | none => page

theorem Value.samePage_nested {page : Value} (h : ¬ (page.field "data").IsMapping) :
    page.SamePage page.nested := by
  cases hentries : page.entries? with
  | none =>
    rw [nested, hentries]
    exact .refl page
  | some entries =>
    have hnested : page.nested.entries? = some entries.nested := by
      rw [nested, hentries]
      rfl
    have hflat : page.body = page := by
      rw [body]
      cases hdata : (page.field "data").entries? with
      | none => rfl
      | some data => exact absurd ⟨data, hdata⟩ h
    have hbody : page.nested.body = .map (entries.without "id") := by
      rw [body, field_eq hnested, Props.get_nested_data]
      rfl
    have hid : page.field "id" = page.nested.field "id" := by
      rw [field_eq hentries, field_eq hnested, Props.get_nested_id]
    have hpart : ∀ name, "id" ≠ name → page.body.field name = page.nested.body.field name := by
      intro name hname
      rw [hflat, hbody, field_eq hentries]
      exact (Props.get_without entries hname).symm
    exact ⟨iff_of_true ⟨entries, hentries⟩ ⟨_, hnested⟩, hid, hpart "root" (by decide),
      hpart "content" (by decide), hpart "zones" (by decide)⟩

theorem Value.forall₂_samePage_nested {pages : List Value}
    (h : ∀ page ∈ pages, ¬ (page.field "data").IsMapping) :
    List.Forall₂ Value.SamePage pages (pages.map nested) := by
  rw [List.forall₂_map_right_iff, List.forall₂_same]
  exact fun page hpage => samePage_nested (h page hpage)

end Spellings

end Pagewright
