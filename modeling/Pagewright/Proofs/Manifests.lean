import Pagewright.Bundle.Manifest
import Pagewright.Proofs.Compiling
import Pagewright.Proofs.Tables

/-!
# The table of pages in a manifest

A manifest is a text of lines: a heading, the install section, and the table of pages at the end.
Nothing in front of the table starts with a bar. The names of dependencies come from the profile,
which is where a bundled profile is needed; titles and routes stand in the table only, and cannot
leave their cells. So `tableRows` reads one row for each page, in the order of the pages.
-/

namespace Pagewright

open Pagewright.Text Pagewright.Markup

/-! ## Dependencies -/

/-- What a profile can ask to install. -/
def Profile.allDependencies (profile : Profile) : List Dependency :=
  profile.baseDependencies ++ profile.dependencies.flatMap Prod.snd

theorem Profile.mem_allDependencies {profile : Profile} {types : List String} {d : Dependency}
    (h : d ∈ profile.resolveDependencies types) : d ∈ profile.allDependencies := by
  rw [resolveDependencies, mem_firstOccurrences, List.mem_append] at h
  rcases h with h | h
  · exact List.mem_append_left _ h
  · obtain ⟨type, _, hd⟩ := List.mem_flatMap.1 h
    cases hlookup : profile.dependencies.lookup type with
    | none =>
      rw [hlookup] at hd
      exact absurd hd List.not_mem_nil
    | some own =>
      rw [hlookup] at hd
      exact List.mem_append_right _ (List.mem_flatMap.2 ⟨_, mem_of_lookup hlookup, hd⟩)

/-- The names that a bundled profile asks to install end no line. -/
theorem Profile.IsBundled.dependency_line {profile : Profile} (hb : profile.IsBundled)
    {d : Dependency} (h : d ∈ profile.allDependencies) :
    ∀ c ∈ d.name.toList, endsLine c = false := by
  have hall : ∀ profile ∈ [shadcnProfile, bootstrapProfile], ∀ d ∈ profile.allDependencies,
      (d.name.toList.all fun c => endsLine c = false) = true := by decide
  exact forall_mem_of_all (hall profile (by simpa using hb.cases) d h)

/-! ## Install commands -/

theorem of_mem_namesOfKind {kind : String} {dependencies : List Dependency} {name : String}
    (h : name ∈ namesOfKind kind dependencies) : ∃ d ∈ dependencies, d.name = name := by
  rw [namesOfKind, mem_firstOccurrences, List.mem_map] at h
  obtain ⟨d, hd, hname⟩ := h
  exact ⟨d, (List.mem_filter.1 hd).1, hname⟩

/-- The start of an install command is one line and no row. -/
theorem installCommand_line {kind command : String} (h : installCommand? kind = some command) :
    command.toList.head? = some 'n' ∧ ∀ c ∈ command.toList, endsLine c = false := by
  unfold installCommand? at h
  split at h
  · rw [← Option.some.inj h]
    exact ⟨rfl, forall_mem_of_all (by decide)⟩
  · rw [← Option.some.inj h]
    exact ⟨rfl, forall_mem_of_all (by decide)⟩
  · cases h

/-- **An install command is one line**, if the names in it are. -/
theorem isLine_installCommand {dependencies : List Dependency}
    (hnames : ∀ d ∈ dependencies, ∀ c ∈ d.name.toList, endsLine c = false) {command : String}
    (h : command ∈ installCommands dependencies) : IsLine false command.toList := by
  obtain ⟨kind, _, h⟩ := List.mem_filterMap.1 h
  obtain ⟨start, hstart, rfl⟩ := Option.map_eq_some_iff.1 h
  obtain ⟨hfirst, hline⟩ := installCommand_line hstart
  have hspace : ∀ c ∈ " ".toList, endsLine c = false := forall_mem_of_all (by decide)
  rw [String.toList_append, String.toList_append, List.append_assoc]
  constructor
  · rw [startsRow, List.head?_append, hfirst]
    rfl
  · intro c hc
    rcases List.mem_append.1 hc with hc | hc
    · exact hline c hc
    rcases List.mem_append.1 hc with hc | hc
    · exact hspace c hc
    rw [String.toList_intercalate, ← joinWith_eq_intercalate] at hc
    rcases mem_joinWith hc with hc | ⟨text, htext, hc⟩
    · exact hspace c hc
    · obtain ⟨name, hname, rfl⟩ := List.mem_map.1 htext
      obtain ⟨d, hd, rfl⟩ := of_mem_namesOfKind hname
      exact hnames d hd c hc

/-- The lines of the install section. -/
def installLines (commands : List String) : List (List Char) :=
  if commands.isEmpty then ["No additional dependencies are required.".toList]
  else ["Run this to install dependencies:".toList, [], "\x60\x60\x60bash".toList] ++
    commands.map String.toList ++ ["\x60\x60\x60".toList]

theorem installSection_eq (commands : List String) :
    installSection commands = (installLines commands).flatMap (· ++ ['\n']) := by
  unfold installSection installLines
  split
  · decide
  · have hstart : "Run this to install dependencies:\n\n\x60\x60\x60bash\n".toList =
        ["Run this to install dependencies:".toList, [], "\x60\x60\x60bash".toList].flatMap
          (· ++ ['\n']) := by decide
    have hend : "\x60\x60\x60\n".toList = ["\x60\x60\x60".toList].flatMap (· ++ ['\n']) := by
      decide
    simp only [hstart, hend, List.flatMap_append, List.flatMap_map]

/-- The lines of the install section are no lines of a table. -/
theorem isLine_installLines {commands : List String}
    (h : ∀ command ∈ commands, IsLine false command.toList) :
    ∀ line ∈ installLines commands, IsLine false line := by
  unfold installLines
  intro line hline
  split at hline
  · rw [List.mem_singleton.1 hline]
    decide
  · simp only [List.mem_append, List.mem_cons, List.not_mem_nil, or_false, List.mem_map] at hline
    rcases hline with ((rfl | rfl | rfl) | ⟨command, hcommand, rfl⟩) | rfl
    · decide
    · decide
    · decide
    · exact h command hcommand
    · decide

/-! ## The table -/

/-- The texts in the row of a page. -/
def CompiledPage.cells (page : CompiledPage) : List (List Char) :=
  [page.title.content, page.route.content, page.path.toList]

theorem CompiledPage.tableRow_eq (page : CompiledPage) :
    page.tableRow = row page.cells ++ ['\n'] := by
  show ['|', ' '] ++ _ ++ [' ', '|', ' '] ++ _ ++ [' ', '|', ' '] ++ _ ++ [' ', '|', '\n'] = _
  simp only [row, cells, List.flatMap_cons, List.flatMap_nil, List.cons_append, List.nil_append,
    List.append_assoc]

/-- The lines of a manifest in front of its table. -/
def Profile.manifestFront (profile : Profile) (pages : List CompiledPage) : List (List Char) :=
  ["# Generated Site (".toList ++ profile.label.toList ++ [')'], []] ++
    installLines (installCommands (profile.pageDependencies pages)) ++
    [[], "## Pages".toList, []]

theorem Profile.manifest_eq (profile : Profile) (pages : List CompiledPage) :
    (profile.manifest pages).toList =
      (profile.manifestFront pages ++ "| Page | Route | File |".toList ::
        "| --- | --- | --- |".toList :: (pages.map CompiledPage.cells).map row).flatMap
          (· ++ ['\n']) := by
  have hrows : pages.flatMap CompiledPage.tableRow =
      ((pages.map CompiledPage.cells).map row).flatMap (· ++ ['\n']) := by
    rw [List.map_map, List.flatMap_map]
    exact congrArg (pages.flatMap ·) (funext CompiledPage.tableRow_eq)
  have hheading : ")\n\n".toList = [')'] ++ ['\n'] ++ ['\n'] := rfl
  have htable : "\n## Pages\n\n| Page | Route | File |\n| --- | --- | --- |\n".toList =
      ['\n'] ++ ("## Pages".toList ++ ['\n']) ++ ['\n'] ++
        ("| Page | Route | File |".toList ++ ['\n']) ++
        ("| --- | --- | --- |".toList ++ ['\n']) := by decide
  -- an equation of `manifest` would be checked by comparing the literals in it
  show (String.ofList _).toList = _
  simp only [String.toList_ofList, hrows, installSection_eq, hheading, htable, manifestFront,
    List.flatMap_append, List.flatMap_cons, List.flatMap_nil, List.append_assoc, List.nil_append,
    List.append_nil]

/-- Nothing in front of the table looks like a row of it. -/
theorem Profile.IsBundled.isLine_manifestFront {profile : Profile} (hb : profile.IsBundled)
    (pages : List CompiledPage) : ∀ line ∈ profile.manifestFront pages, IsLine false line := by
  have hlabel : IsLine false ("# Generated Site (".toList ++ profile.label.toList ++ [')']) := by
    rcases hb.cases with rfl | rfl
    · decide
    · decide
  have hempty : IsLine false [] := by decide
  have hinstall : ∀ line ∈ installLines (installCommands (profile.pageDependencies pages)),
      IsLine false line := isLine_installLines fun command hcommand => isLine_installCommand
    (fun d hd => hb.dependency_line (Profile.mem_allDependencies hd)) hcommand
  intro line hline
  simp only [manifestFront, List.mem_append, List.mem_cons, List.not_mem_nil, or_false] at hline
  rcases hline with ((rfl | rfl) | hline) | rfl | rfl | rfl
  · exact hlabel
  · exact hempty
  · exact hinstall line hline
  · exact hempty
  · decide
  · exact hempty

/-- **The table of a manifest has one row for each page**, in the order of the pages. -/
theorem Profile.IsBundled.tableRows_manifest {profile : Profile} (hb : profile.IsBundled)
    (pages : List CompiledPage) :
    tableRows (profile.manifest pages).toList =
      pages.map fun page => page.cells.map singleSpaced := by
  rw [manifest_eq, tableRows_lines (hb.isLine_manifestFront pages) (by decide) (by decide),
    List.map_map]
  rfl

end Pagewright
