import Pagewright.Proofs.Expansion
import Pagewright.Proofs.Layouts

/-!
# What compiling a page gives

Compiling has two ways to fail and one result. `compileAs_eq_ok` says both at once: a page compiles
when its visit is not stopped and its nodes can be rendered, and then the file is made of its
types and its markup in one fixed way. For the bundled catalogue and profiles neither failure
happens on a page whose ids are usable (`compileAs_ok`), since resolved props suit every layout.
-/

namespace Pagewright

open Pagewright.Markup

/-- Is the profile one of the bundled ones? -/
def Profile.IsBundled (profile : Profile) : Prop := ∃ name, (name, profile) ∈ bundledProfiles

theorem Profile.IsBundled.cases {profile : Profile} (h : profile.IsBundled) :
    profile = shadcnProfile ∨ profile = bootstrapProfile := by
  obtain ⟨name, h⟩ := h
  simp only [bundledProfiles, List.mem_cons, Prod.mk.injEq, List.not_mem_nil, or_false] at h
  exact Or.imp And.right And.right h

theorem shadcnProfile_isBundled : shadcnProfile.IsBundled := ⟨_, List.mem_cons_self ..⟩

theorem bootstrapProfile_isBundled : bootstrapProfile.IsBundled :=
  ⟨_, List.mem_cons_of_mem _ (List.mem_cons_self ..)⟩

/-- Does a profile lay out nodes and write pages as a framework does? -/
structure Profile.Follows (profile : Profile) (framework : Framework) : Prop where
  rules : profile.rules = framework.rules
  frame : profile.frame = framework.frame

theorem shadcnProfile_follows : shadcnProfile.Follows .shadcn := ⟨rfl, rfl⟩

theorem bootstrapProfile_follows : bootstrapProfile.Follows .bootstrap := ⟨rfl, rfl⟩

/-- Every bundled profile follows a framework. -/
theorem Profile.IsBundled.follows {profile : Profile} (h : profile.IsBundled) :
    ∃ framework, profile.Follows framework := by
  rcases h.cases with rfl | rfl
  · exact ⟨.shadcn, shadcnProfile_follows⟩
  · exact ⟨.bootstrap, bootstrapProfile_follows⟩

/-- A type is laid out as the component that stands for it in every framework. -/
theorem Profile.Follows.rule? {profile : Profile} {framework : Framework}
    (h : profile.Follows framework) (type : String) :
    profile.rule? type = (bundledRules.lookup type).map framework.layout := by
  rw [Profile.rule?, h.rules, Framework.rules, lookup_map]

theorem Profile.Follows.rule?_eq_some {profile : Profile} {framework : Framework}
    (h : profile.Follows framework) {type : String} {layout : Layout} :
    profile.rule? type = some layout ↔
      ∃ component, bundledRules.lookup type = some component ∧
        framework.layout component = layout := by
  rw [h.rule?, Option.map_eq_some_iff]

/-- Both bundled profiles support the types of the bundled rules. -/
theorem Profile.IsBundled.supports {profile : Profile} (h : profile.IsBundled) (type : String) :
    profile.supports type = (bundledRules.lookup type).isSome := by
  obtain ⟨framework, hf⟩ := h.follows
  rw [Profile.supports, hf.rule?, Option.isSome_map]

/-! ## Laying out sequences -/

section Sequences

theorem layoutItems_ok {items : List Item}
    (h : ∀ item ∈ items, ∃ m, item.layout = .ok m) :
    ∃ markup, layoutItems items = .ok markup := by
  induction items with
  | nil => exact ⟨[], rfl⟩
  | cons item rest ih =>
    rw [layoutItems]
    exact bind_ok (h item (by simp)) fun _ =>
      bind_ok (ih fun other hother => h other (by simp [hother])) fun _ => ⟨_, rfl⟩

theorem layoutZones_ok {zones : List (List Item)}
    (h : ∀ zone ∈ zones, ∃ markup, layoutItems zone = .ok markup) :
    ∃ bodies, layoutZones zones = .ok bodies := by
  induction zones with
  | nil => exact ⟨[], rfl⟩
  | cons zone rest ih =>
    rw [layoutZones]
    exact bind_ok (h zone (by simp)) fun _ =>
      bind_ok (ih fun other hother => h other (by simp [hother])) fun _ => ⟨_, rfl⟩

/-- What is laid out of a sequence is what is laid out of its items. -/
theorem mem_layoutItems {items : List Item} {markup : List Markup}
    (h : layoutItems items = .ok markup) {m : Markup} :
    m ∈ markup ↔ ∃ item ∈ items, ∃ own, item.layout = .ok own ∧ m ∈ own := by
  induction items generalizing markup with
  | nil => rw [← Except.ok.inj h]; simp
  | cons item rest ih =>
    obtain ⟨first, hfirst, h⟩ := bind_eq_ok.1 (layoutItems.eq_2 .. ▸ h)
    obtain ⟨more, hmore, h⟩ := bind_eq_ok.1 h
    rw [← Except.ok.inj h, List.mem_append, ih hmore]
    simp [hfirst]

/-- Sequences of items that are laid out alike are laid out alike. -/
theorem layoutItems_congr {α : Type} {f g : α → Item} {members : List α}
    (h : ∀ a ∈ members, (f a).layout = (g a).layout) :
    layoutItems (members.map f) = layoutItems (members.map g) := by
  induction members with
  | nil => rfl
  | cons a rest ih =>
    obtain ⟨hfirst, hrest⟩ := List.forall_mem_cons.1 h
    rw [List.map_cons, List.map_cons, layoutItems, layoutItems, hfirst, ih hrest]

theorem layoutZones_congr {α : Type} {f g : α → List Item} {members : List α}
    (h : ∀ a ∈ members, layoutItems (f a) = layoutItems (g a)) :
    layoutZones (members.map f) = layoutZones (members.map g) := by
  induction members with
  | nil => rfl
  | cons a rest ih =>
    obtain ⟨hfirst, hrest⟩ := List.forall_mem_cons.1 h
    rw [List.map_cons, List.map_cons, layoutZones, layoutZones, hfirst, ih hrest]

/-- Each zone has one body. -/
theorem length_layoutZones {zones : List (List Item)} {bodies : List (List Markup)}
    (h : layoutZones zones = .ok bodies) : bodies.length = zones.length := by
  induction zones generalizing bodies with
  | nil =>
    rw [← Except.ok.inj h]
    rfl
  | cons zone rest ih =>
    obtain ⟨first, _, h⟩ := bind_eq_ok.1 (layoutZones.eq_2 .. ▸ h)
    obtain ⟨more, hmore, h⟩ := bind_eq_ok.1 h
    rw [← Except.ok.inj h, List.length_cons, List.length_cons, ih hmore]

/-- Every item of a sequence that is laid out is laid out itself. -/
theorem layout_of_mem {items : List Item} {markup : List Markup}
    (h : layoutItems items = .ok markup) {item : Item} (hi : item ∈ items) :
    ∃ own, item.layout = .ok own := by
  induction items generalizing markup with
  | nil => exact absurd hi (by simp)
  | cons first rest ih =>
    obtain ⟨own, hfirst, h⟩ := bind_eq_ok.1 (layoutItems.eq_2 .. ▸ h)
    obtain ⟨more, hmore, _⟩ := bind_eq_ok.1 h
    rcases List.mem_cons.1 hi with rfl | hi
    · exact ⟨own, hfirst⟩
    · exact ih hmore hi

/-- The bodies of zones are the markups of the zones. -/
theorem mem_layoutZones {zones : List (List Item)} {bodies : List (List Markup)}
    (h : layoutZones zones = .ok bodies) {body : List Markup} :
    body ∈ bodies ↔ ∃ zone ∈ zones, layoutItems zone = .ok body := by
  induction zones generalizing bodies with
  | nil => rw [← Except.ok.inj h]; simp
  | cons zone rest ih =>
    obtain ⟨first, hfirst, h⟩ := bind_eq_ok.1 (layoutZones.eq_2 .. ▸ h)
    obtain ⟨more, hmore, h⟩ := bind_eq_ok.1 h
    rw [← Except.ok.inj h, List.mem_cons, ih hmore]
    simp [hfirst, eq_comm]

theorem layoutItems_of_mem {zones : List (List Item)} {bodies : List (List Markup)}
    (h : layoutZones zones = .ok bodies) {zone : List Item} (hz : zone ∈ zones) :
    ∃ body, layoutItems zone = .ok body := by
  induction zones generalizing bodies with
  | nil => exact absurd hz (by simp)
  | cons first rest ih =>
    obtain ⟨body, hfirst, h⟩ := bind_eq_ok.1 (layoutZones.eq_2 .. ▸ h)
    obtain ⟨more, hmore, _⟩ := bind_eq_ok.1 h
    rcases List.mem_cons.1 hz with rfl | hz
    · exact ⟨body, hfirst⟩
    · exact ih hmore hz

/-- A rendered node is laid out around the bodies of its zones. -/
theorem layout_rendered {node : Node} {layout : Layout} {props : Props}
    {zones : List (List Item)} {own : List Markup}
    (h : (Item.rendered node layout props zones).layout = .ok own) :
    ∃ bodies m, layoutZones zones = .ok bodies ∧
      layout node props bodies = .ok m ∧ own = [m] := by
  rw [Item.layout] at h
  obtain ⟨bodies, hbodies, h⟩ := bind_eq_ok.1 h
  obtain ⟨m, hm, h⟩ := bind_eq_ok.1 h
  exact ⟨bodies, m, hbodies, mapError_eq_ok.1 hm, (Except.ok.inj h).symm⟩

end Sequences

namespace Page

variable {page : Page} {profile : Profile}

/-- A node with zones is a section, and every framework lays out sections as grids. -/
theorem rule?_of_zoneNames_ne_nil {framework : Framework} (hf : profile.Follows framework)
    {node : Node} (h : Bundled.catalogue.zoneNames node.type node.props ≠ []) :
    profile.rule? node.type = some (framework.layout .grid) := by
  rw [hf.rule?, Bundled.type_of_zoneNames_ne_nil h]
  rfl

/-- A way down a page leads through sections, which the profile renders. -/
theorem Trail.supported (hb : profile.IsBundled) {keep : String → Bool} {above : List ScalarForm}
    {node : Node} (h : Trail page Bundled.catalogue keep above node) :
    Trail page Bundled.catalogue profile.supports above node := by
  refine h.imp fun owner hchildren _ => ?_
  have hzones : Bundled.catalogue.zoneNames owner.type owner.props ≠ [] := by
    obtain ⟨child, hchild⟩ := List.exists_mem_of_ne_nil _ hchildren
    obtain ⟨name, hname, _⟩ := mem_children.1 hchild
    exact List.ne_nil_of_mem hname
  obtain ⟨framework, hf⟩ := hb.follows
  exact Profile.supports_of_rule? (rule?_of_zoneNames_ne_nil hf hzones)

/-! ## Rendering never fails on usable ids -/

/-- The expansion of nodes with usable ids can be laid out. -/
theorem layoutItems_expandWith_ok (hb : profile.IsBundled)
    (hstored : ∀ node ∈ page.stored, node.form?.isSome) (enterable : List ScalarForm)
    {nodes : List Node} (hnodes : ∀ node ∈ nodes, node.form?.isSome) :
    ∃ markup, layoutItems (page.expandWith Bundled.catalogue profile enterable nodes) =
      .ok markup := by
  obtain ⟨framework, hfollows⟩ := hb.follows
  induction enterable using strike_induction generalizing nodes with
  | step enterable ih =>
    rw [expandWith_eq_map]
    refine layoutItems_ok fun item hitem => ?_
    obtain ⟨node, hnode, rfl⟩ := List.mem_map.1 hitem
    rcases item_cases page Bundled.catalogue profile enterable node with
      ⟨layout, form, hr, hf, hm⟩ | heq | heq | ⟨hnone, _⟩
    · rw [item_rendered Bundled.settled hr hf hm, Item.layout]
      refine bind_ok (layoutZones_ok fun zone hzone => ?_) fun bodies =>
        bind_ok ?_ fun m => ⟨[m], rfl⟩
      · obtain ⟨name, _, rfl⟩ := List.mem_map.1 hzone
        exact ih form hm fun child hchild => hstored child (zoneAt_subset_stored _ hchild)
      · -- resolved props suit every layout, so only the nodes below could stop this one
        obtain ⟨component, hlookup, rfl⟩ := hfollows.rule?_eq_some.1 hr
        obtain ⟨m, hlayout⟩ := layout_ok (Bundled.suit hlookup node.props) framework node bodies
        exact ⟨m, mapError_eq_ok.2 hlayout⟩
    · exact ⟨[], by rw [heq, Item.layout]⟩
    · exact ⟨[], by rw [heq, Item.layout]⟩
    · have hsome := hnodes node hnode
      rw [hnone] at hsome
      contradiction

/-- **Rendering a page with usable ids never fails.** -/
theorem render_ok (hb : profile.IsBundled) (hstored : ∀ node ∈ page.stored, node.form?.isSome) :
    ∃ markup, page.render Bundled.catalogue profile page.content = .ok markup :=
  layoutItems_expandWith_ok hb hstored _ fun node hnode =>
    hstored node (content_subset_stored hnode)

/-- Every item that such a page meets is laid out. -/
theorem layout_of_mem_met (hb : profile.IsBundled)
    (hstored : ∀ node ∈ page.stored, node.form?.isSome) {item : Item}
    (h : item ∈ page.met Bundled.catalogue profile) :
    ∃ own, item.layout = .ok own := by
  obtain ⟨above, node, htrail, rfl⟩ := (mem_met_iff Bundled.settled).1 h
  have hone : ∀ other ∈ [node], other.form?.isSome := by
    intro other hother
    rw [List.mem_singleton.1 hother]
    exact hstored node htrail.stored
  obtain ⟨markup, hmarkup⟩ := layoutItems_expandWith_ok hb hstored (page.openForms above) hone
  rw [expandWith_eq_map, List.map_singleton] at hmarkup
  exact layout_of_mem hmarkup (List.mem_singleton_self _)

/-- The visit of a page with usable ids is never stopped. -/
theorem visitFault?_eq_none (hstored : ∀ node ∈ page.stored, node.form?.isSome)
    (keep : String → Bool) : page.visitFault? Bundled.catalogue keep = none := by
  rw [visitFault?, List.findSome?_eq_none_iff]
  intro node hnode
  obtain ⟨form, hf⟩ := Option.isSome_iff_exists.1 (hstored node (visitAll_subset_stored hnode))
  rw [nodeFault?, hf, Bundled.settled.zoneFault?_eq_none]
  rfl

/-! ## The result of compiling -/

/-- The name of the component of a page under an identifier. -/
def exportedName (page : Page) (catalogue : Catalogue) (profile : Profile)
    (identifier : List Char) : List Char :=
  pageComponentName identifier ((profile.resolveImports (page.usedTypes catalogue profile)).flatMap
    fun i => i.bindings.map String.toList)

/-- What the frame of a profile makes of the markup of the nodes of a page. -/
def framed (page : Page) (catalogue : Catalogue) (profile : Profile) (identifier : List Char)
    (nodes : List Markup) : Except LayoutFault (List Char) :=
  profile.frame (profile.resolveImports (page.usedTypes catalogue profile))
    (page.exportedName catalogue profile identifier) page.settings nodes

/-- The file of a page under an identifier, from its text. -/
def compiled (page : Page) (catalogue : Catalogue) (profile : Profile) (identifier : List Char)
    (text : List Char) : CompiledPage where
  identifier := String.ofList identifier
  componentName := String.ofList (page.exportedName catalogue profile identifier)
  fileName := String.ofList identifier ++ profile.extension
  fileText := String.ofList (Text.closeLastLine text)
  title := page.settings.title
  route := page.settings.route
  usedTypes := page.usedTypes catalogue profile

/-- **When a page compiles and to what.** -/
theorem compileAs_eq_ok {catalogue : Catalogue} {identifier : List Char} {c : CompiledPage} :
    page.compileAs catalogue profile identifier = .ok c ↔
      page.visitFault? catalogue profile.supports = none ∧
        ∃ nodes text, page.render catalogue profile page.content = .ok nodes ∧
          page.framed catalogue profile identifier nodes = .ok text ∧
          c = page.compiled catalogue profile identifier text := by
  rw [compileAs, bind_eq_ok]
  constructor
  · rintro ⟨_, hvisit, h⟩
    rw [mapError_eq_ok, checkVisit] at hvisit
    obtain ⟨nodes, hnodes, h⟩ := bind_eq_ok.1 h
    obtain ⟨text, htext, h⟩ := bind_eq_ok.1 h
    refine ⟨?_, nodes, text, mapError_eq_ok.1 hnodes, mapError_eq_ok.1 htext,
      (Except.ok.inj h).symm⟩
    cases hf : page.visitFault? catalogue profile.supports with
    | none => rfl
    | some fault => exact absurd hvisit (by simp [hf])
  · rintro ⟨hvisit, nodes, text, hnodes, htext, rfl⟩
    refine ⟨(), ?_, bind_eq_ok.2 ⟨nodes, mapError_eq_ok.2 hnodes,
      bind_eq_ok.2 ⟨text, mapError_eq_ok.2 htext, rfl⟩⟩⟩
    rw [mapError_eq_ok, checkVisit, hvisit]
    rfl

/-- The file of a page of a framework holds the source of the page as it is, because the source
ends its last line. -/
theorem fileText_eq_source {catalogue : Catalogue} {framework : Framework} {identifier : List Char}
    {c : CompiledPage} (hframe : profile.frame = framework.frame)
    (h : page.compileAs catalogue profile identifier = .ok c) :
    ∃ nodes, page.render catalogue profile page.content = .ok nodes ∧
      c.usedTypes = page.usedTypes catalogue profile ∧
      c.fileText = String.ofList (pageSource framework (profile.resolveImports c.usedTypes)
        c.componentName.toList page.settings nodes) := by
  obtain ⟨_, nodes, text, hnodes, htext, rfl⟩ := compileAs_eq_ok.1 h
  rw [framed, hframe] at htext
  obtain rfl := Except.ok.inj htext
  refine ⟨nodes, hnodes, rfl, ?_⟩
  rw [compiled, Text.closeLastLine, if_pos, String.toList_ofList]
  rw [pageSource, List.getLast?_append]
  rfl

/-- **What a file is made of**: two pages of the same settings that use the same types, whose visits
meet the same fault and whose renderings agree, compile alike, to the same file or with the same
fault. -/
theorem compile_eq_of_parts {catalogue : Catalogue} {other : Page}
    (hsettings : other.settings = page.settings)
    (hfault : other.visitFault? catalogue profile.supports =
      page.visitFault? catalogue profile.supports)
    (htypes : other.usedTypes catalogue profile = page.usedTypes catalogue profile)
    (hrender : other.render catalogue profile other.content =
      page.render catalogue profile page.content) (identifier : Option String) :
    other.compile catalogue profile identifier = page.compile catalogue profile identifier := by
  have hcheck : other.checkVisit catalogue profile.supports =
      page.checkVisit catalogue profile.supports := by
    rw [checkVisit, checkVisit, hfault]
  have has : ∀ name, other.compileAs catalogue profile name =
      page.compileAs catalogue profile name := by
    intro name
    rw [compileAs, compileAs, hcheck, htypes, hrender, hsettings]
  have hderive : other.deriveIdentifier = page.deriveIdentifier := by
    rw [Page.deriveIdentifier, Page.deriveIdentifier, hsettings]
  rw [compile, compile, hderive]
  simp only [has]

/-- Two pages of the same settings whose visits and whose renderings agree compile alike. -/
theorem compile_congr {catalogue : Catalogue} {other : Page}
    (hsettings : other.settings = page.settings)
    (hvisit : other.visitAll catalogue profile.supports = page.visitAll catalogue profile.supports)
    (hrender : other.render catalogue profile other.content =
      page.render catalogue profile page.content) (identifier : Option String) :
    other.compile catalogue profile identifier = page.compile catalogue profile identifier := by
  refine compile_eq_of_parts hsettings ?_ ?_ hrender identifier
  · rw [visitFault?, visitFault?, hvisit]
  · rw [usedTypes, usedTypes, collectTypes, collectTypes, hvisit]

/-- **A page with usable ids compiles** under every identifier. -/
theorem compileAs_ok (hb : profile.IsBundled) (hstored : ∀ node ∈ page.stored, node.form?.isSome)
    (identifier : List Char) :
    ∃ c, page.compileAs Bundled.catalogue profile identifier = .ok c := by
  obtain ⟨framework, hfollows⟩ := hb.follows
  obtain ⟨markup, hrender⟩ := render_ok hb hstored
  have hframed : ∃ text, page.framed Bundled.catalogue profile identifier markup = .ok text := by
    rw [framed, hfollows.frame]
    exact ⟨_, rfl⟩
  obtain ⟨text, htext⟩ := hframed
  exact ⟨_, compileAs_eq_ok.2 ⟨visitFault?_eq_none hstored _, markup, text, hrender, htext, rfl⟩⟩

end Page

end Pagewright
