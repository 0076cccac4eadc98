import Pagewright.Proofs.Compiling
import Pagewright.Proofs.Pieces

/-!
# Given texts in the file of a page

The nodes of a page stand in the body of its canvas, so everything they write is moved at least
once on its way into the file. A given text that has no line end when it is written arrives as it
was written, at any depth, and is read back. Every other one arrives changed: attributes keep all
line ends of a text, single-line children keep the rare ones, and literals keep one.
-/

namespace Pagewright

open Pagewright.Text Pagewright.Markup

/-- The body of a page stands in its source file. -/
theorem infix_pageSource (framework : Framework) (imports : List Import) (name : List Char)
    (settings : PageSettings) (nodes : List Markup) :
    (Markup.body nodes).text 8 <:+: pageSource framework imports name settings nodes := by
  have hcanvas : (Markup.body nodes).text 8 <:+: (framework.canvas settings nodes).text 4 := by
    cases framework with
    | shadcn => exact (infix_block _ _ (.body nodes) 6).trans (infix_block _ _ _ 4)
    | bootstrap => exact (infix_block _ _ (.body nodes) 6).trans (infix_block _ _ _ 4)
  exact hcanvas.trans ⟨_, _, rfl⟩

namespace Page

variable {page : Page} {profile : Profile} {identifier : List Char} {c : CompiledPage}

/--
**What becomes of the texts that nodes are given.**

The pieces of the body are a part of the file. They hold the given texts in order, and a text
stands there as it was written exactly when its slot keeps it. Then it is read back.
-/
theorem compiled_values_kept_iff {catalogue : Catalogue} {framework : Framework}
    (hframe : profile.frame = framework.frame)
    (h : page.compileAs catalogue profile identifier = .ok c) :
    ∃ nodes, page.render catalogue profile page.content = .ok nodes ∧
      pieceText ((Markup.body nodes).pieces 8) <:+: c.fileText.toList ∧
      pieceValues ((Markup.body nodes).pieces 8) = markupValues nodes ∧
      ∀ slot value image, .written slot value image ∈ (Markup.body nodes).pieces 8 →
        (image = slot.write value ↔ slot.keeps value = true) ∧
          (slot.keeps value = true → slot.read image = some value) := by
  obtain ⟨nodes, hnodes, _, htext⟩ := fileText_eq_source hframe h
  refine ⟨nodes, hnodes, ?_, values_pieces (.body nodes) 8, fun slot value image himage => ?_⟩
  · rw [pieceText_pieces, htext, String.toList_ofList]
    exact infix_pageSource ..
  · have hiff := image_eq_write_iff (by decide) himage
    exact ⟨hiff, fun hkeeps => by rw [hiff.2 hkeeps, Slot.read_write]⟩

/-- An input line whose placeholder has two lines. -/
def twoLines : Node where
  id := .text "x"
  type := "Input"
  props := [(.text "placeholder", .text "a\nb")]

/-- A page with nothing else on it. -/
def inputPage : Page := { id := "home", content := [twoLines] }

/-- The placeholder is one of the texts that the page is given. -/
theorem placeholder_mem_values {nodes : List Markup}
    (h : inputPage.render Bundled.catalogue shadcnProfile inputPage.content = .ok nodes) :
    (Slot.quoted, "a\nb".toList) ∈ markupValues nodes := by
  have hitem : inputPage.item Bundled.catalogue shadcnProfile
      (inputPage.content.filterMap Node.form? ++ inputPage.storedForms) twoLines =
      .rendered twoLines (Framework.shadcn.layout .input)
        (Bundled.catalogue.resolve twoLines.type twoLines.props) [] :=
    item_rendered Bundled.settled rfl rfl (by decide)
  rw [render, expand, expandWith_eq_map, show inputPage.content = [twoLines] from rfl,
    List.map_singleton, ← show inputPage.content = [twoLines] from rfl, hitem] at h
  obtain ⟨own, hown⟩ := layout_of_mem h (List.mem_singleton.2 rfl)
  obtain ⟨bodies, m, _, hlayout, rfl⟩ := layout_rendered hown
  have hm : m ∈ nodes := (mem_layoutItems h).2 ⟨_, List.mem_singleton.2 rfl, _, hown, by simp⟩
  obtain ⟨_, _, hlayout⟩ := bind_eq_ok.1 hlayout
  obtain ⟨_, _, hlayout⟩ := bind_eq_ok.1 hlayout
  obtain ⟨placeholder, hplaceholder, hlayout⟩ := bind_eq_ok.1 hlayout
  obtain rfl : placeholder = "a\nb".toList := (Except.ok.inj hplaceholder).symm
  refine mem_markupValues.2 ⟨m, hm, ?_⟩
  rw [← Except.ok.inj hlayout]
  simp only [Markup.values, markupValues, Attribute.values, List.flatMap_cons, List.mem_append,
    List.mem_singleton, true_or, or_true]

/-- The placeholder of an input line does not arrive as it was written if it has two lines. -/
theorem compiled_values_kept_twoLines :
    ∃ c, inputPage.compileAs Bundled.catalogue shadcnProfile "home".toList = .ok c ∧
      ∃ nodes image, pieceText ((Markup.body nodes).pieces 8) <:+: c.fileText.toList ∧
        .written .quoted "a\nb".toList image ∈ (Markup.body nodes).pieces 8 ∧
          image ≠ Slot.quoted.write "a\nb".toList := by
  obtain ⟨c, hc⟩ := compileAs_ok shadcnProfile_isBundled (by decide : ∀ node ∈ inputPage.stored,
    node.form?.isSome) "home".toList
  obtain ⟨nodes, hnodes, hinfix, hvalues, hall⟩ :=
    compiled_values_kept_iff shadcnProfile_follows.frame hc
  have hgiven := placeholder_mem_values hnodes
  rw [← hvalues] at hgiven
  obtain ⟨piece, hpiece, hvalue⟩ := List.mem_filterMap.1 hgiven
  cases piece with
  | plain s => cases hvalue
  | written slot value image =>
    cases hvalue
    refine ⟨c, hc, nodes, image, hinfix, hpiece, fun heq => ?_⟩
    exact absurd ((hall _ _ _ hpiece).1.1 heq) (by decide)

end Page

end Pagewright
