import Pagewright.Proofs.Forest

/-!
# The columns of a section

The number of columns of a section is used in three places: the section owns a zone for each of
them, its markup has a cell for each zone, and the markup says how the cells share the width. All
three take the number that the resolved props ask for (`Page.hasColumns_section`). It is between
one and twelve, so the cells that share the twelve columns of a grid always fit into one row.
-/

namespace Pagewright

open Pagewright.Text Pagewright.Markup Pagewright.Number

theorem columnCount_pos (props : Props) : 1 ≤ columnCount props := Nat.le_max_left ..

theorem columnCount_le (props : Props) : columnCount props ≤ maxColumns :=
  Nat.max_le.2 ⟨by decide, Nat.min_le_left ..⟩

/-- Up to twelve columns get an equal share of twelve. -/
theorem columnSpan_eq {count : Nat} (hpos : 1 ≤ count) (hle : count ≤ maxColumns) :
    Bootstrap.columnSpan count = 12 / count :=
  Nat.max_eq_right (Nat.div_pos hle hpos)

/-! ## How the cells of a grid share its width -/

/-- The value of a style property. -/
def Markup.Attribute.styled? (property : String) : Attribute → Option (List Char)
  | .style entries => entries.lookup property
  | _ => none

/-- The classes that an attribute gives. -/
def Markup.Attribute.classes? : Attribute → Option (List Char)
  | .quoted name value => if name = "className" then some value else none
  | _ => none

/-- The template of the columns of a grid, if it has one. -/
def Markup.template? : Markup → Option (List Char)
  | .block _ _ [.block _ attributes _] =>
    attributes.findSome? (Attribute.styled? "gridTemplateColumns")
  | _ => none

/-- The classes of a cell. -/
def Markup.classes? : Markup → Option (List Char)
  | .block _ attributes _ => attributes.findSome? Attribute.classes?
  | _ => none

/-- The classes of the cells of a grid, in order. -/
def Markup.cellClasses : Markup → List (Option (List Char))
  | .block _ _ [.block _ _ cells] => cells.map Markup.classes?
  | _ => []

/-- The template of a number of columns of equal width. -/
def equalColumns (count : Nat) : List Char :=
  "repeat(".toList ++ natDigits count ++ ", minmax(0, 1fr))".toList

/-- The classes of a cell that spans a number of grid columns. -/
def spanning (span : Nat) : List Char :=
  "col-md-".toList ++ natDigits span ++ " mb-3 d-flex flex-column gap-3".toList

/-- Does the markup of a grid share its width among a number of columns? One framework takes the
number itself, the other gives each column its share of twelve. -/
def Framework.Divides (framework : Framework) (count : Nat) (m : Markup) : Prop :=
  match framework with
  | .shadcn => m.template? = some (equalColumns count)
  | .bootstrap =>
    m.cellClasses = List.replicate count (some (spanning (12 / count))) ∧ count * (12 / count) ≤ 12

/-- **A grid with a cell for each column shares its width among them.** -/
theorem divides_grid {framework : Framework} {node : Node} {props : Props}
    {zones : List (List Markup)} {m : Markup}
    (h : framework.layout .grid node props zones = .ok m) (hz : zones.length = columnCount props) :
    framework.Divides (columnCount props) m := by
  cases framework with
  | shadcn =>
    obtain ⟨_, _, h⟩ := bind_eq_ok.1 h
    rw [← Except.ok.inj h]
    rfl
  | bootstrap =>
    obtain ⟨_, _, h⟩ := bind_eq_ok.1 h
    have hspan := columnSpan_eq (columnCount_pos props) (columnCount_le props)
    have hcells : m.cellClasses =
        zones.map fun _ => some (spanning (Bootstrap.columnSpan (columnCount props))) := by
      rw [← Except.ok.inj h, Markup.cellClasses, List.map_map]
      rfl
    refine ⟨?_, Nat.mul_div_le ..⟩
    rw [hcells, List.map_const', hz, hspan]

/-! ## Sections of a page -/

/-- The number of columns that the resolved props of a node ask for. -/
def Node.columns (node : Node) : Nat :=
  columnCount (Bundled.catalogue.resolve node.type node.props)

/-- A section owns a zone for each of its columns. -/
theorem zoneNames_section {node : Node} (h : node.type = "Section") :
    Bundled.catalogue.zoneNames node.type node.props =
      (List.range node.columns).map columnZone := by
  rw [Node.columns, h]
  rfl

namespace Page

variable {page : Page} {profile : Profile} {node : Node} {layout : Layout} {props : Props}
  {zones : List (List Item)}

/-- **A section that is rendered is a grid** of its resolved props, with a zone for each column. -/
theorem section_of_mem_met (ht : node.type = "Section")
    (h : .rendered node layout props zones ∈ page.met Bundled.catalogue profile) :
    (∀ framework, profile.Follows framework → layout = framework.layout .grid) ∧
      props = Bundled.catalogue.resolve node.type node.props ∧ zones.length = node.columns := by
  obtain ⟨hr, hprops, _, _, _, _, _, hzones⟩ := rendered_of_mem_met Bundled.settled h
  refine ⟨fun framework hf => ?_, hprops, ?_⟩
  · rw [hf.rule?, ht] at hr
    exact (Option.some.inj hr).symm
  · rw [hzones, zoneNames_section ht, List.length_map, List.length_map, List.length_range]

/-- **The markup of a section** has a cell for each column and shares its width among them. -/
theorem markup_of_section (hb : profile.IsBundled) (ht : node.type = "Section")
    (h : .rendered node layout props zones ∈ page.met Bundled.catalogue profile)
    {own : List Markup} (hown : (Item.rendered node layout props zones).layout = .ok own) :
    ∃ m, own = [m] ∧ m.cells.length = node.columns ∧
      ∀ framework, profile.Follows framework → framework.Divides node.columns m := by
  obtain ⟨hlayout, rfl, hzones⟩ := section_of_mem_met ht h
  obtain ⟨bodies, m, hbodies, hm, rfl⟩ := layout_rendered hown
  have hlength : bodies.length = node.columns := (length_layoutZones hbodies).trans hzones
  refine ⟨m, rfl, ?_, fun framework hf => ?_⟩
  · obtain ⟨framework, hf⟩ := hb.follows
    rw [hlayout framework hf] at hm
    rw [cells_grid hm, hlength]
  · rw [hlayout framework hf] at hm
    exact divides_grid hm hlength

/-- A node has a number of columns wherever the number is used on a page: in the zones that the
node owns, in those that are rendered, and in its markup. -/
structure HasColumns (page : Page) (profile : Profile) (node : Node) (count : Nat) : Prop where
  range : 1 ≤ count ∧ count ≤ 12
  zones : (page.childZones Bundled.catalogue node).map Prod.fst = (List.range count).map columnZone
  /-- A node that the page reaches is rendered as a grid. -/
  rendered : node ∈ page.visitAll Bundled.catalogue profile.supports → node.form?.isSome →
    ∃ layout props zones, .rendered node layout props zones ∈ page.met Bundled.catalogue profile ∧
      ∀ framework, profile.Follows framework → layout = framework.layout .grid
  /-- Wherever it is rendered, it is rendered with a zone for each column. -/
  wrappers : ∀ layout props zones,
    .rendered node layout props zones ∈ page.met Bundled.catalogue profile →
      zones.length = count
  /-- On a page with usable ids it is laid out. -/
  laid : (∀ other ∈ page.stored, other.form?.isSome) → ∀ layout props zones,
    .rendered node layout props zones ∈ page.met Bundled.catalogue profile →
      ∃ own, (Item.rendered node layout props zones).layout = .ok own
  /-- The markup has a cell for each zone and shares its width among the cells. -/
  markup : ∀ layout props zones own,
    .rendered node layout props zones ∈ page.met Bundled.catalogue profile →
      (Item.rendered node layout props zones).layout = .ok own →
        ∃ m, own = [m] ∧ m.cells.length = count ∧
          ∀ framework, profile.Follows framework → framework.Divides count m

/-- **A section has the columns that its resolved props ask for**, wherever they are used. -/
theorem hasColumns_section (hb : profile.IsBundled) (ht : node.type = "Section") :
    page.HasColumns profile node node.columns where
  range := ⟨columnCount_pos _, columnCount_le _⟩
  zones := by
    rw [childZones, List.map_map, zoneNames_section ht]
    exact List.map_id _
  rendered := by
    intro hreached hform
    obtain ⟨form, hf⟩ := Option.isSome_iff_exists.1 hform
    obtain ⟨layout, hrendering⟩ :=
      mem_renderings_of_mem_visitAll Bundled.settled hreached hf
    obtain ⟨props, zones, hmet⟩ := mem_renderings.1 hrendering
    exact ⟨layout, props, zones, hmet, (section_of_mem_met ht hmet).1⟩
  wrappers _ _ _ h := (section_of_mem_met ht h).2.2
  laid hstored _ _ _ h := layout_of_mem_met hb hstored h
  markup _ _ _ _ h hown := markup_of_section hb ht h hown

end Page

end Pagewright
