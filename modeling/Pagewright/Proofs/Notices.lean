import Pagewright.Proofs.Compiling

/-!
# What rendering remarks on

Rendering leaves a notice for each node that it drops or cuts. Notices are collected beside the
markup and stop at the first node that cannot be laid out. A page that is rendered has no such
node, so its notices are those of the items that it meets, in the same order (`notices_eq_met`).
They come in two levels, one for each way of leaving a node out: debug notices are about dropped
nodes, warnings about cut ones (`warning_notices`).
-/

namespace Pagewright

variable {catalogue : Catalogue} {profile : Profile}

/-- The notice that an item leaves itself. -/
def Item.notice? (profile : Profile) (page : String) : Item → Option Notice
  | .unsupported node => some (unsupportedNotice profile.name node)
  | .cut node => some (cutNotice page node)
  | _ => none

/-- The node that an item cuts, because it is inside a node of its own id. -/
def Item.cut? : Item → Option Node
  | .cut node => some node
  | _ => none

/-! ## The notices of what is laid out -/

mutual

/-- An item that is laid out leaves the notices of the items that are met in it. -/
theorem Item.notices_eq_met (page : String) :
    ∀ (item : Item) {own : List Markup}, item.layout = .ok own →
      item.notices profile page = item.met.filterMap (Item.notice? profile page)
  | .rendered _ _ _ zones, _, h => by
    obtain ⟨bodies, _, hbodies, _, _⟩ := layout_rendered h
    rw [Item.notices, Item.met, List.filterMap_cons_none rfl]
    exact zoneNotices_eq_met page zones hbodies
  | .unsupported _, _, _ => rfl
  | .cut _, _, _ => rfl
  | .failed _ _, _, h => nomatch h

theorem itemNotices_eq_met (page : String) :
    ∀ (items : List Item) {markup : List Markup}, layoutItems items = .ok markup →
      itemNotices profile page items = (itemsMet items).filterMap (Item.notice? profile page)
  | [], _, _ => rfl
  | item :: rest, _, h => by
    obtain ⟨first, hfirst, h⟩ := bind_eq_ok.1 (layoutItems.eq_2 .. ▸ h)
    obtain ⟨more, hmore, _⟩ := bind_eq_ok.1 h
    -- the first item is laid out, so the notices go on behind it
    have hok : item.layout.isOk = true := by rw [hfirst]; rfl
    rw [itemNotices, if_pos hok, itemsMet, List.filterMap_append,
      Item.notices_eq_met page item hfirst, itemNotices_eq_met page rest hmore]

theorem zoneNotices_eq_met (page : String) :
    ∀ (zones : List (List Item)) {bodies : List (List Markup)},
      layoutZones zones = .ok bodies →
      zoneNotices profile page zones = (zonesMet zones).filterMap (Item.notice? profile page)
  | [], _, _ => rfl
  | zone :: rest, _, h => by
    obtain ⟨first, hfirst, h⟩ := bind_eq_ok.1 (layoutZones.eq_2 .. ▸ h)
    obtain ⟨more, hmore, _⟩ := bind_eq_ok.1 h
    have hok : (layoutItems zone).isOk = true := by rw [hfirst]; rfl
    rw [zoneNotices, if_pos hok, zonesMet, List.filterMap_append,
      itemNotices_eq_met page zone hfirst, zoneNotices_eq_met page rest hmore]

end

/-- Notices of one part and, if it is laid out, of the others: a stop leaves the first ones. -/
theorem prefix_append_if {ε α β : Type} {result : Except ε β} {own rest all more : List α}
    (hown : own <+: all) (hok : ∀ b, result = .ok b → own = all) (hrest : rest <+: more) :
    own ++ (if result.isOk then rest else []) <+: all ++ more := by
  cases result with
  | ok b =>
    rw [hok b rfl]
    exact (List.prefix_append_right_inj _).2 hrest
  | error fault =>
    show own ++ [] <+: all ++ more
    rw [List.append_nil]
    exact hown.trans (List.prefix_append _ _)

mutual

/-- Whatever an item leaves are the first notices of the items that are met in it. -/
theorem Item.notices_prefix_met (page : String) :
    ∀ item : Item, item.notices profile page <+: item.met.filterMap (Item.notice? profile page)
  | .rendered _ _ _ zones => by
    rw [Item.notices, Item.met, List.filterMap_cons_none rfl]
    exact zoneNotices_prefix_met page zones
  | .unsupported _ => List.prefix_rfl
  | .cut _ => List.prefix_rfl
  | .failed _ _ => List.prefix_rfl

theorem itemNotices_prefix_met (page : String) :
    ∀ items : List Item, itemNotices profile page items <+:
      (itemsMet items).filterMap (Item.notice? profile page)
  | [] => List.prefix_rfl
  | item :: rest => by
    rw [itemNotices, itemsMet, List.filterMap_append]
    exact prefix_append_if (Item.notices_prefix_met page item)
      (fun _ => Item.notices_eq_met page item) (itemNotices_prefix_met page rest)

theorem zoneNotices_prefix_met (page : String) :
    ∀ zones : List (List Item), zoneNotices profile page zones <+:
      (zonesMet zones).filterMap (Item.notice? profile page)
  | [] => List.prefix_rfl
  | zone :: rest => by
    rw [zoneNotices, zonesMet, List.filterMap_append]
    exact prefix_append_if (itemNotices_prefix_met page zone)
      (fun _ => itemNotices_eq_met page zone) (zoneNotices_prefix_met page rest)

end

/-- The warnings of items are about the cut nodes among them. -/
theorem filter_warning (page : String) (items : List Item) :
    (items.filterMap (Item.notice? profile page)).filter (fun notice => notice.level = .warning) =
      (items.filterMap Item.cut?).map (cutNotice page) := by
  induction items with
  | nil => rfl
  | cons item rest ih =>
    cases item with
    | rendered => exact ih
    | unsupported => exact ih
    | cut node => exact congrArg (cutNotice page node :: ·) ih
    | failed => exact ih

namespace Page

variable {page : Page}

/-- **A rendered page leaves the notices of all items that it meets**, in their order. -/
theorem notices_eq_met {markup : List Markup}
    (h : page.render catalogue profile page.content = .ok markup) :
    page.notices catalogue profile page.content =
      (page.met catalogue profile).filterMap (Item.notice? profile page.id) :=
  itemNotices_eq_met page.id _ h

/-- The nodes that rendering a page cuts, in the order in which they are met. -/
def cuts (page : Page) (catalogue : Catalogue) (profile : Profile) : List Node :=
  (page.met catalogue profile).filterMap Item.cut?

/-- **Warnings are about cut nodes**, one for each time that one is met. -/
theorem warning_notices {markup : List Markup}
    (h : page.render catalogue profile page.content = .ok markup) :
    (page.notices catalogue profile page.content).filter (fun notice => notice.level = .warning) =
      (page.cuts catalogue profile).map (cutNotice page.id) := by
  rw [notices_eq_met h, filter_warning, cuts]

end Page

end Pagewright
