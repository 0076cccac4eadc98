import Pagewright.Proofs.Bundles
import Pagewright.Proofs.Imports
import Pagewright.Proofs.SourceFiles

/-!
# What a generated file declares

A file declares what its imports bind, its route, and its component. The imports bind no name
twice, since the tables of a bundled profile ask one module only for each name. The component
takes the first name that none of them has, and starts with a capital, which the route does not.
So no name is declared twice (`declarations_distinct`), whatever the title of a page is and
whatever types it reaches.
-/

namespace Pagewright

open Pagewright.Text

/-! ## The tables of bundled profiles -/

namespace Profile.IsBundled

variable {profile : Profile}

/-- All that a bundled profile can bind are names of code, and none of them is that of a route. -/
theorem names (hb : profile.IsBundled) :
    ∀ i ∈ profile.allImports, ∀ name ∈ i.bindings, IsName name.toList ∧ name ≠ "route" := by
  rcases hb.cases with rfl | rfl
  · decide
  · decide

theorem agrees (hb : profile.IsBundled) :
    ∀ i ∈ profile.allImports, ∀ j ∈ profile.allImports, Import.Agrees i j := by
  rcases hb.cases with rfl | rfl
  · decide
  · decide

theorem isNamed (hb : profile.IsBundled) (types : List String) :
    ∀ i ∈ profile.resolveImports types, i.IsNamed := by
  intro i hi name hname
  have hbound : name ∈ profile.boundNames types := List.mem_flatMap.2 ⟨i, hi, hname⟩
  obtain ⟨request, hrequest, hbinding⟩ := exists_import_of_bound hbound
  exact (hb.names request hrequest name hbinding).1

end Profile.IsBundled

/-! ## The file of a page -/

namespace Page.CompiledUnder

variable {catalogue : Catalogue} {profile : Profile} {page : Page} {identifier : List Char}
  {compiled : CompiledPage}

/-- The names that the file of a page may not call its component. -/
theorem componentName_eq (h : page.CompiledUnder catalogue profile identifier compiled) :
    compiled.componentName.toList = freeName (componentName identifier)
      ((profile.boundNames compiled.usedTypes).map String.toList) := by
  obtain ⟨_, nodes, text, _, _, rfl⟩ := compileAs_eq_ok.1 h.compiles
  rw [Page.compiled, String.toList_ofList, exportedName, pageComponentName, Profile.boundNames,
    List.map_flatMap]

/-- **A component is called by a name of its own**, which starts with a capital. -/
theorem componentName_spec (h : page.CompiledUnder catalogue profile identifier compiled) :
    IsPascalName compiled.componentName.toList ∧
      compiled.componentName.toList ∉
        (profile.boundNames compiled.usedTypes).map String.toList := by
  rw [h.componentName_eq]
  obtain ⟨count, heq, hfree, _⟩ := freeName_spec (componentName identifier)
    ((profile.boundNames compiled.usedTypes).map String.toList)
  rw [heq]
  exact ⟨h.isIdentifier.componentName.suffixed count, hfree⟩

theorem fileText_eq (hb : profile.IsBundled)
    (h : page.CompiledUnder catalogue profile identifier compiled) :
    ∃ framework nodes, compiled.fileText.toList = pageSource framework
      (profile.resolveImports compiled.usedTypes) compiled.componentName.toList page.settings
      nodes := by
  obtain ⟨framework, hf⟩ := hb.follows
  obtain ⟨nodes, _, _, htext⟩ := fileText_eq_source hf.frame h.compiles
  exact ⟨framework, nodes, by rw [htext, String.toList_ofList]⟩

theorem usedTypes_eq (h : page.CompiledUnder catalogue profile identifier compiled) :
    compiled.usedTypes = page.usedTypes catalogue profile := by
  obtain ⟨_, nodes, text, _, _, rfl⟩ := compileAs_eq_ok.1 h.compiles
  rfl

theorem isName_componentName (h : page.CompiledUnder catalogue profile identifier compiled) :
    IsName compiled.componentName.toList := by
  have hname := h.componentName_spec.1
  cases hc : compiled.componentName.toList with
  | nil => exact (hc ▸ hname : IsPascalName []).elim
  | cons c rest =>
    rw [hc] at hname
    refine ⟨List.cons_ne_nil _ _, fun d hd => ?_⟩
    have hplain : Markup.isPlain d = true := by
      rcases List.mem_cons.1 hd with rfl | hd
      · rw [Markup.isPlain, hname.1, Bool.true_or, Bool.true_or]
      · exact hname.2 d hd
    rw [isNameChar, hplain, Bool.true_or, Bool.true_or]

/-- **What the file of a page declares** is read back from its text. -/
theorem declaredNames_eq (hb : profile.IsBundled)
    (h : page.CompiledUnder catalogue profile identifier compiled) :
    declaredNames compiled.fileText.toList =
      (profile.boundNames compiled.usedTypes).map String.toList ++
        ["route".toList, compiled.componentName.toList] := by
  obtain ⟨framework, nodes, htext⟩ := h.fileText_eq hb
  rw [htext, declaredNames_pageSource (hb.isNamed _) h.isName_componentName, Profile.boundNames,
    List.map_flatMap]

/-- **What the file of a page imports** is read back from its text. -/
theorem importedModules_eq (hb : profile.IsBundled)
    (h : page.CompiledUnder catalogue profile identifier compiled) :
    importedModules compiled.fileText.toList =
      (profile.resolveImports compiled.usedTypes).map fun i => i.source.toList := by
  obtain ⟨framework, nodes, htext⟩ := h.fileText_eq hb
  rw [htext, importedModules_pageSource (hb.isNamed _) h.isName_componentName]

theorem nodup_declaredNames (hb : profile.IsBundled)
    (h : page.CompiledUnder catalogue profile identifier compiled) :
    (declaredNames compiled.fileText.toList).Nodup := by
  obtain ⟨hpascal, hfree⟩ := h.componentName_spec
  have hbound : ((profile.boundNames compiled.usedTypes).map String.toList).Nodup :=
    List.Pairwise.map _ (fun _ _ hne heq => hne (String.toList_injective heq))
      (Profile.nodup_boundNames hb.agrees _)
  have hroute : "route".toList ∉ (profile.boundNames compiled.usedTypes).map String.toList := by
    intro hmem
    obtain ⟨name, hname, heq⟩ := List.mem_map.1 hmem
    obtain ⟨request, hrequest, hbinding⟩ := Profile.exists_import_of_bound hname
    exact (hb.names request hrequest name hbinding).2 (String.toList_injective heq)
  have hcapital : "route".toList ≠ compiled.componentName.toList := by
    intro heq
    rw [← heq] at hpascal
    exact absurd hpascal.1 (by decide)
  rw [h.declaredNames_eq hb]
  refine List.nodup_append.2 ⟨hbound, by simpa using hcapital, ?_⟩
  rintro name hname other hother rfl
  simp only [List.mem_cons, List.not_mem_nil, or_false] at hother
  rcases hother with rfl | rfl
  · exact hroute hname
  · exact hfree hname

end Page.CompiledUnder

/-! ## Documents -/

/--
**No generated file declares a name twice.**

The names at the top level of a file, as they are read from its text, are all bindings of its
imports, the route, and the component, and they are different. A component name is a capital with
letters and digits behind it. However an identifier looks and whatever imports bind, the search
for a component name ends at the least number of suffixes that makes it free.
-/
theorem Document.declarations_distinct :
    (∀ (catalogue : Catalogue) (profile : Profile) (document : Document)
      (pages : List CompiledPage), profile.IsBundled →
      document.compile catalogue profile = .ok pages → ∀ c ∈ pages,
        let bound := (profile.resolveImports c.usedTypes).flatMap fun i =>
          i.bindings.map String.toList
        declaredNames c.fileText.toList = bound ++ ["route".toList, c.componentName.toList] ∧
        (declaredNames c.fileText.toList).Nodup ∧ IsPascalName c.componentName.toList ∧
        c.componentName.toList = pageComponentName c.identifier.toList bound) ∧
    ∀ (identifier : List Char) (imports : List Import),
      let bound := imports.flatMap fun i => i.bindings.map String.toList
      ∃ count, pageComponentName identifier bound = suffixed (componentName identifier) count ∧
        suffixed (componentName identifier) count ∉ bound ∧
        ∀ k < count, suffixed (componentName identifier) k ∈ bound := by
  constructor
  · intro catalogue profile document pages hb h c hc
    obtain ⟨page, _, identifier, hunder⟩ := compiledUnder_of_mem h hc
    have hbound : (profile.boundNames c.usedTypes).map String.toList =
        (profile.resolveImports c.usedTypes).flatMap fun i => i.bindings.map String.toList := by
      rw [Profile.boundNames, List.map_flatMap]
    dsimp only
    rw [← hbound]
    refine ⟨hunder.declaredNames_eq hb, hunder.nodup_declaredNames hb,
      hunder.componentName_spec.1, ?_⟩
    rw [hunder.componentName_eq, hunder.identifier_eq, String.toList_ofList, pageComponentName]
  · exact fun identifier imports => freeName_spec _ _

/-- A page whose title is the name of a component that stands on it. -/
def cardPage : Page where
  id := "a"
  content := [{ id := .text "x", type := "Card" }]
  settings := { title := .text "Card" }

theorem usedTypes_cardPage :
    cardPage.usedTypes Bundled.catalogue shadcnProfile = ["Card"] := by
  have hvisit : cardPage.visitAll Bundled.catalogue shadcnProfile.supports = cardPage.content :=
    Page.visitAll_eq_singleton rfl rfl rfl rfl
  rw [Page.usedTypes, Page.collectTypes, hvisit]
  decide

/-- The page cannot be called like the card, which its file imports. -/
theorem Document.declarations_distinct_cardPage :
    ∃ c, Document.compile ⟨[cardPage], List.cons_ne_nil _ _⟩ Bundled.catalogue shadcnProfile =
        .ok [c] ∧
      c.componentName = "CardPage" ∧ (declaredNames c.fileText.toList).Nodup := by
  have hderive : cardPage.deriveIdentifier = .ok "card".toList := by
    have h : deriveIdentifier "Card".toList = "card".toList := by decide
    show Except.ok (deriveIdentifier "Card".toList) = _
    rw [h]
  obtain ⟨c, hc⟩ := Page.compileAs_ok shadcnProfile_isBundled
    (by decide : ∀ node ∈ cardPage.stored, node.form?.isSome) "card".toList
  have hcompile : Document.compile ⟨[cardPage], List.cons_ne_nil _ _⟩ Bundled.catalogue
      shadcnProfile = .ok [c] := by
    have hunique : uniqueIdentifier "card".toList [] = "card".toList := rfl
    rw [Document.compile, compilePages, hderive]
    show Except.bind (cardPage.compileAs _ _ (uniqueIdentifier "card".toList [])) _ = _
    rw [hunique, hc]
    rfl
  refine ⟨c, hcompile, ?_, (declarations_distinct.1 _ _ _ _ shadcnProfile_isBundled hcompile c
    (List.mem_singleton_self c)).2.1⟩
  -- one suffix is needed and enough: the card is bound, and nothing else of its name
  obtain ⟨count, heq, hfree, hleast⟩ := declarations_distinct.2 "card".toList
    (shadcnProfile.resolveImports ["Card"])
  have hbound : (shadcnProfile.resolveImports ["Card"]).flatMap
      (fun i => i.bindings.map String.toList) = ["React", "Card", "CardHeader", "CardTitle",
        "CardDescription", "CardContent", "CardFooter"].map String.toList := by decide
  have hcard : suffixed (componentName "card".toList) 0 ∈
      (shadcnProfile.resolveImports ["Card"]).flatMap (fun i => i.bindings.map String.toList) := by
    rw [hbound]
    decide
  have hpage : suffixed (componentName "card".toList) 1 ∉
      (shadcnProfile.resolveImports ["Card"]).flatMap (fun i => i.bindings.map String.toList) := by
    rw [hbound]
    decide
  obtain rfl : count = 1 := by
    refine Nat.le_antisymm (Nat.le_of_not_lt fun hlt => hpage (hleast 1 hlt)) ?_
    refine Nat.one_le_iff_ne_zero.2 fun hzero => hfree ?_
    rw [hzero]
    exact hcard
  obtain ⟨_, nodes, text, _, _, rfl⟩ := Page.compileAs_eq_ok.1 hc
  rw [Page.compiled, Page.exportedName, usedTypes_cardPage]
  show String.ofList (pageComponentName _ _) = _
  rw [heq]
  decide

end Pagewright
