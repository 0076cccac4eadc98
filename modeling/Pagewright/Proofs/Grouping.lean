import Pagewright.Bundle.Manifest
import Pagewright.Proofs.Occurrences

/-!
# Install commands cover all pages

What a bundle asks to install goes through three loops: the types of its pages are collected, then
their dependencies, and these are entered by kind in a table of names, from which the commands are
written (`Profile.installPass`). Each loop leaves out what it has met, and a kind without a command
never reaches the table.

Leaving out repetitions early changes nothing later on. So the table is that of everything that is
asked for, repetitions and all (`installPass_eq`): what the pages are, and how their types are
spread over them, has no say in it.
-/

namespace Pagewright

variable {profile : Profile}

/-! ## The three loops -/

/-- Collects the types of pages, page by page. -/
def collectPageTypes (pages : List CompiledPage) : List String :=
  pages.foldl (fun found page => page.usedTypes.foldl addNew found) []

/-- What a profile asks to install for pages with the given types, the base dependencies first. -/
def Profile.asked (profile : Profile) (types : List String) : List Dependency :=
  profile.baseDependencies ++
    types.flatMap fun type => (profile.dependencies.lookup type).getD []

/-- Enters a dependency in a table of names by kind, if its kind has a command. -/
def enterDependency (table : List (String × List String)) (d : Dependency) :
    List (String × List String) :=
  if d.isInstallable then
    groupItem Dependency.kind [] (fun names d => addNew names d.name) table d
  else table

/-- The table of names by kind that the pages of a bundle ask to install. -/
def Profile.installPass (profile : Profile) (pages : List CompiledPage) :
    List (String × List String) :=
  ((profile.asked (collectPageTypes pages)).foldl addNew []).foldl enterDependency []

/-- The command that installs the names of a kind. -/
def groupCommand? (group : String × List String) : Option String :=
  (installCommand? group.1).map fun start => start ++ " " ++ " ".intercalate group.2

/-! ## What the loops arrive at -/

theorem collectPageTypes_eq (pages : List CompiledPage) :
    collectPageTypes pages = typesOfPages pages := by
  rw [collectPageTypes, typesOfPages, ← foldl_addNew_nil, List.foldl_flatMap]

/-- The names by kind of dependencies that have a command. -/
def installTable (dependencies : List Dependency) : List (String × List String) :=
  (firstOccurrences ((dependencies.filter Dependency.isInstallable).map Dependency.kind)).map
    fun kind => (kind, namesOfKind kind dependencies)

/-- Dependencies of one kind have a command or do not. -/
theorem filter_kind_of_installable {kind : String} (h : (installCommand? kind).isSome = true)
    (dependencies : List Dependency) :
    (dependencies.filter Dependency.isInstallable).filter (fun d => d.kind = kind) =
      dependencies.filter fun d => d.kind == kind := by
  rw [List.filter_filter]
  refine List.filter_congr fun d _ => ?_
  by_cases hk : d.kind = kind
  · simp [hk, Dependency.isInstallable, h]
  · simp [hk]

theorem isSome_of_mem_kinds {kind : String} {dependencies : List Dependency}
    (h : kind ∈ (dependencies.filter Dependency.isInstallable).map Dependency.kind) :
    (installCommand? kind).isSome = true := by
  obtain ⟨d, hd, rfl⟩ := List.mem_map.1 h
  exact (List.mem_filter.1 hd).2

theorem foldl_enterDependency (dependencies : List Dependency) :
    dependencies.foldl enterDependency [] = installTable dependencies := by
  have hfilter : dependencies.foldl enterDependency [] =
      (dependencies.filter Dependency.isInstallable).foldl
        (groupItem Dependency.kind [] fun names d => addNew names d.name) [] :=
    List.foldl_filter.symm
  rw [hfilter, foldl_groupItem_nil, groups, installTable]
  refine List.map_congr_left fun kind hkind => ?_
  rw [filter_kind_of_installable (isSome_of_mem_kinds (mem_firstOccurrences.1 hkind)),
    namesOfKind, ← foldl_addNew_nil, List.foldl_map]

/-- The command that installs the names of a kind among dependencies. -/
def kindCommand? (dependencies : List Dependency) (kind : String) : Option String :=
  groupCommand? (kind, namesOfKind kind dependencies)

theorem isSome_kindCommand? (dependencies : List Dependency) (kind : String) :
    (kindCommand? dependencies kind).isSome = (installCommand? kind).isSome := by
  rw [kindCommand?, groupCommand?, Option.isSome_map]

/-- Kinds without a command come to nothing. -/
theorem filterMap_kindCommand? (dependencies : List Dependency) (kinds : List String) :
    (kinds.filterMap (kindCommand? dependencies)).map some =
      (kinds.filter fun kind => (installCommand? kind).isSome).map (kindCommand? dependencies) := by
  induction kinds with
  | nil => rfl
  | cons kind rest ih =>
    have hkind := isSome_kindCommand? dependencies kind
    cases hcommand : kindCommand? dependencies kind with
    | none =>
      rw [hcommand, Option.isSome_none] at hkind
      rw [List.filterMap_cons_none hcommand, ih,
        List.filter_cons_of_neg (by rw [← hkind]; decide)]
    | some command =>
      rw [hcommand, Option.isSome_some] at hkind
      rw [List.filterMap_cons_some hcommand, List.map_cons, ih,
        List.filter_cons_of_pos (by rw [← hkind]), List.map_cons, hcommand]

/-- **The commands are those of the table**: one for each of its kinds. -/
theorem map_groupCommand?_installTable (dependencies : List Dependency) :
    (installTable dependencies).map groupCommand? = (installCommands dependencies).map some := by
  have hkinds : (firstOccurrences (dependencies.map Dependency.kind)).filter
      (fun kind => (installCommand? kind).isSome) =
      firstOccurrences ((dependencies.filter Dependency.isInstallable).map Dependency.kind) := by
    rw [filter_firstOccurrences, List.filter_map]
    rfl
  rw [installTable, List.map_map, ← hkinds]
  exact (filterMap_kindCommand? dependencies _).symm

/-- Leaving out repeated types changes nothing in what is asked for, but for repetitions. -/
theorem firstOccurrences_asked (types : List String) :
    firstOccurrences (profile.asked (firstOccurrences types)) =
      firstOccurrences (profile.asked types) := by
  rw [Profile.asked, Profile.asked, firstOccurrences_append, firstOccurrences_flatMap,
    ← firstOccurrences_append]

/-- Leaving out repeated dependencies changes nothing in the table. -/
theorem installTable_firstOccurrences (dependencies : List Dependency) :
    installTable (firstOccurrences dependencies) = installTable dependencies := by
  rw [installTable, installTable, filter_firstOccurrences, firstOccurrences_map]
  refine List.map_congr_left fun kind _ => ?_
  rw [namesOfKind, namesOfKind, filter_firstOccurrences, firstOccurrences_map]

/-- **The loops arrive at the table of everything that is asked for.** -/
theorem installPass_eq (pages : List CompiledPage) :
    profile.installPass pages =
      installTable (profile.asked (pages.flatMap CompiledPage.usedTypes)) := by
  rw [Profile.installPass, foldl_enterDependency, foldl_addNew_nil, collectPageTypes_eq,
    typesOfPages, firstOccurrences_asked, installTable_firstOccurrences]

/-- **Install commands cover the union of all pages exactly**, for every profile and all pages.

The install section of the manifest has one command for each group of the table. The groups are
those of the kinds with a command among all that is asked for, in the order in which the kinds are
first met, and each group has the names of its kind, once each and in the order in which they are
first met: the base dependencies come first, then those of the pages in order. A dependency of
another kind is in no group. Pages with the same types in the same order have the same commands,
however the types are split over them. -/
theorem Profile.commands_cover_pages (profile : Profile) (pages : List CompiledPage) :
    let asked := profile.asked (pages.flatMap CompiledPage.usedTypes)
    let commands := installCommands (profile.pageDependencies pages)
    (profile.manifest pages).toList =
        "# Generated Site (".toList ++ profile.label.toList ++ ")\n\n".toList ++
          installSection commands ++
          "\n## Pages\n\n| Page | Route | File |\n| --- | --- | --- |\n".toList ++
          pages.flatMap CompiledPage.tableRow ∧
      (profile.installPass pages).map groupCommand? = commands.map some ∧
      ByFirstPlace ((asked.filter Dependency.isInstallable).map Dependency.kind)
        ((profile.installPass pages).map Prod.fst) ∧
      (∀ group ∈ profile.installPass pages,
        ByFirstPlace ((asked.filter fun d => d.kind == group.1).map Dependency.name) group.2) ∧
      (∀ d ∈ asked, d.isInstallable = false →
        d.kind ∉ (profile.installPass pages).map Prod.fst) ∧
      ∀ others : List CompiledPage,
        others.flatMap CompiledPage.usedTypes = pages.flatMap CompiledPage.usedTypes →
        profile.installPass others = profile.installPass pages ∧
          installCommands (profile.pageDependencies others) = commands := by
  intro asked commands
  have htable : profile.installPass pages = installTable asked := installPass_eq pages
  have hkinds : (profile.installPass pages).map Prod.fst =
      firstOccurrences ((asked.filter Dependency.isInstallable).map Dependency.kind) := by
    rw [htable, installTable, List.map_map]
    exact List.map_id _
  refine ⟨String.toList_ofList, ?_, ?_, fun group hgroup => ?_, fun d _ hd hin => ?_,
    fun others hothers => ?_⟩
  · have hcommands := map_groupCommand?_installTable (profile.pageDependencies pages)
    have hdependencies : installTable (profile.pageDependencies pages) =
        profile.installPass pages := by
      rw [Profile.installPass, foldl_enterDependency, foldl_addNew_nil, collectPageTypes_eq]
      rfl
    rwa [hdependencies] at hcommands
  · rw [hkinds]
    exact byFirstPlace_firstOccurrences _
  · rw [htable] at hgroup
    obtain ⟨kind, _, rfl⟩ := List.mem_map.1 hgroup
    exact byFirstPlace_firstOccurrences _
  · rw [hkinds, mem_firstOccurrences] at hin
    exact Bool.false_ne_true (hd.symm.trans (isSome_of_mem_kinds hin))
  · have htypes : typesOfPages others = typesOfPages pages := congrArg firstOccurrences hothers
    refine ⟨?_, ?_⟩
    · rw [installPass_eq, installPass_eq, hothers]
    · rw [Profile.pageDependencies, htypes]
      rfl

end Pagewright
