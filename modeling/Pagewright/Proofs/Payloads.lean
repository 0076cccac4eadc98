import Pagewright.Proofs.Reading
import Pagewright.Proofs.Walk

/-!
# Ids and titles of loaded documents

A payload may give any value as an id, and the id of a node is the text of that value, or a text
that is made of its place. Titles are brought to texts by the schema of the page settings. So the
pages of a loaded document have text ids and text titles, which is what the results on compiling
ask for, and whatever is proved of such pages holds of every document that a command loads.
-/

namespace Pagewright

variable {catalogue : Catalogue}

/-- Is the id of the node a text? -/
def Node.HasTextId (node : Node) : Prop := ∃ s, node.id = .text s

/-- The nodes of a page have text ids if those at the top and those of each zone do. -/
theorem Page.textIds_iff {page : Page} :
    page.TextIds ↔ (∀ node ∈ page.content, node.HasTextId) ∧
      ∀ zone ∈ page.zones, ∀ node ∈ zone.2, node.HasTextId := by
  simp only [TextIds, stored, List.mem_append, List.mem_flatMap, Node.HasTextId]
  constructor
  · exact fun h => ⟨fun node hnode => h node (Or.inl hnode),
      fun zone hzone node hnode => h node (Or.inr ⟨zone, hzone, hnode⟩)⟩
  · rintro ⟨hcontent, hzones⟩ node (hnode | ⟨zone, hzone, hnode⟩)
    · exact hcontent node hnode
    · exact hzones zone hzone node hnode

theorem hasTextId_of_read {spots : List (String × Value)} {nodes : List Node}
    (h : List.Forall₂ (Node.ReadAt catalogue) spots nodes) : ∀ node ∈ nodes, node.HasTextId := by
  intro node hnode
  obtain ⟨spot, _, hread⟩ := exists_of_forall₂ h hnode
  exact ⟨_, hread.id⟩

theorem Page.ReadFrom.textIds {page : Page} {value : Value} {index : Nat}
    (h : page.ReadFrom catalogue value index) : page.TextIds := by
  obtain ⟨zones, _, hzones⟩ := h.zones
  refine textIds_iff.2 ⟨hasTextId_of_read h.content, fun zone hzone => ?_⟩
  obtain ⟨given, _, hread⟩ := exists_of_forall₂ hzones hzone
  exact hasTextId_of_read hread.2

namespace Document

/-- Every page of a document is read from a value. -/
theorem ReadFrom.exists_of_mem {payload : Value} {document : Document}
    (h : document.ReadFrom catalogue payload) {page : Page} (hp : page ∈ document.pages) :
    ∃ value index, page.ReadFrom catalogue value index := by
  obtain ⟨values, _, hpages⟩ := h
  obtain ⟨value, _, hread⟩ := exists_of_forall₂ hpages hp
  exact ⟨value.1, value.2, hread⟩

/-- **Every page of a loaded document has text ids.** -/
theorem ofPayload_textIds {payload : Value} {document : Document}
    (h : ofPayload catalogue payload = .ok document) : ∀ page ∈ document.pages, page.TextIds := by
  intro page hpage
  obtain ⟨value, index, hread⟩ := (ofPayload_readFrom h).exists_of_mem hpage
  exact hread.textIds

end Document

/-! ## Titles -/

theorem PageSettings.ofProps_title {props : Props} {settings : PageSettings}
    (h : PageSettings.ofProps props = .ok settings) :
    props.get? "pageTitle" = some settings.title := by
  obtain ⟨title, htitle, h⟩ := bind_eq_ok.1 h
  obtain ⟨_, _, h⟩ := bind_eq_ok.1 h
  obtain ⟨_, _, h⟩ := bind_eq_ok.1 h
  obtain ⟨_, _, h⟩ := bind_eq_ok.1 h
  rw [← Except.ok.inj h]
  dsimp only at htitle
  cases hget : props.get? "pageTitle" with
  | none =>
    rw [hget] at htitle
    cases htitle
  | some v =>
    rw [hget] at htitle
    rw [Except.ok.inj htitle]

/-- The title among resolved settings is a text. -/
theorem Bundled.resolveRoot_title (props : Props) :
    ∃ s, (Bundled.catalogue.resolveRoot props).get? "pageTitle" = some (.text s) := by
  have hmem : labelled "pageTitle" .line "Page Title" ∈ page.fields := List.mem_cons_self ..
  exact ⟨_, Schema.get?_conform (by decide) hmem props⟩

/-- **Every page of a loaded document has a title of text.** -/
theorem Document.ofPayload_titles {payload : Value} {document : Document}
    (h : ofPayload Bundled.catalogue payload = .ok document) :
    ∀ page ∈ document.pages, ∃ title, page.settings.title = .text title := by
  intro page hpage
  obtain ⟨value, index, hread⟩ := (ofPayload_readFrom h).exists_of_mem hpage
  obtain ⟨given, _, hgiven⟩ := hread.settings
  obtain ⟨s, hs⟩ := Bundled.resolveRoot_title given
  have htitle := PageSettings.ofProps_title hgiven
  rw [hs] at htitle
  exact ⟨s, (Option.some.inj htitle).symm⟩

end Pagewright
