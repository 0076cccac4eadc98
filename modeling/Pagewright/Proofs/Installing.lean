import Mathlib.Data.List.Nodup
import Mathlib.Data.List.TakeWhile
import Pagewright.Proofs.Declarations

/-!
# A manifest installs what the pages import

A manifest tells what to install in shell commands, one for each kind of dependency. They are read
back here as lists of dependencies (`readInstall?`), next to the modules that the files of the
pages import. A bundled profile lists the dependencies of a type beside its imports, and the two
tables agree entry by entry: the dependencies of a type are the packages of its modules
(`dependencies_eq`). So what all pages together import, and nothing else, is installed, and each
package by one name in one command.
-/

namespace Pagewright

open Pagewright.Text Pagewright.Markup

/-! ## Readers -/

/-- The line that starts a shell block. -/
def shellFence : List Char := "\x60\x60\x60bash".toList

/-- The line that ends a block. -/
def blockFence : List Char := "\x60\x60\x60".toList

/-- The lines of the first shell block of a text. -/
def shellLines (text : List Char) : List (List Char) :=
  (((lines text).dropWhile (· ≠ shellFence)).drop 1).takeWhile (· ≠ blockFence)

/-- The words that start a command, by the kind of what it installs. -/
def commandWords : List (String × List (List Char)) :=
  [("shadcn", ["npx".toList, "shadcn@latest".toList, "add".toList]),
   ("npm", ["npm".toList, "install".toList])]

/-- What an install command installs. -/
def readInstall? (line : List Char) : Option (List Dependency) :=
  commandWords.findSome? fun entry =>
    (entry.2.isPrefixOf? (words line)).map fun names =>
      names.map fun name => ⟨entry.1, String.ofList name⟩

/-- The dependency that provides a module: a component file of the project is added by its name,
and any other module comes with the package that its path starts with. -/
def packageOf (module : List Char) : Dependency :=
  match "@/components/ui/".toList.isPrefixOf? module with
  | some file => ⟨"shadcn", String.ofList file⟩
  | none => ⟨"npm", String.ofList (module.takeWhile (· ≠ '/'))⟩

/-! ## Commands -/

/-- A name that is one word of a command. -/
def IsWord (s : List Char) : Prop := s ≠ [] ∧ ∀ c ∈ s, isBlank c = false

instance : DecidablePred IsWord := fun s =>
  decidable_of_iff (s ≠ [] ∧ (s.all fun c => !isBlank c) = true) (by simp [IsWord])

theorem words_command (start : String) {names : List String}
    (h : ∀ name ∈ names, IsWord name.toList) :
    words (start ++ " " ++ " ".intercalate names).toList =
      words start.toList ++ names.map String.toList := by
  have hspace : ∀ c ∈ " ".toList, (!isBlank c) = false := forall_mem_of_all (by decide)
  have hnames : ∀ text ∈ names.map String.toList,
      text ≠ [] ∧ ∀ c ∈ text, (!isBlank c) = true := by
    intro text htext
    obtain ⟨name, hname, rfl⟩ := List.mem_map.1 htext
    exact ⟨(h name hname).1, fun c hc => by simp [(h name hname).2 c hc]⟩
  have hcut : " ".toList = [' '] := by decide
  rw [String.toList_append, String.toList_append, String.toList_intercalate,
    ← joinWith_eq_intercalate, hcut, List.append_assoc, List.singleton_append, words,
    runsOf_append_cons (by decide), runsOf_joinWith (by decide) (hcut ▸ hspace) hnames]
  rfl

/-- **A command is read as what it was made for.** -/
theorem readInstall?_command {kind start : String} (hk : installCommand? kind = some start)
    {names : List String} (h : ∀ name ∈ names, IsWord name.toList) :
    readInstall? (start ++ " " ++ " ".intercalate names).toList =
      some (names.map fun name => ⟨kind, name⟩) := by
  have hback : (names.map String.toList).map String.ofList = names := by
    rw [List.map_map]
    exact (List.map_congr_left fun name _ => String.ofList_toList).trans (List.map_id _)
  have hread : ∀ kind : String, (names.map String.toList).map
      (fun name => (⟨kind, String.ofList name⟩ : Dependency)) =
        names.map fun name => ⟨kind, name⟩ := by
    intro kind
    conv_rhs => rw [← hback]
    rw [List.map_map, List.map_map, List.map_map]
    rfl
  rw [readInstall?, words_command start h]
  unfold installCommand? at hk
  split at hk
  · have hwords : words "npx shadcn@latest add".toList =
        ["npx".toList, "shadcn@latest".toList, "add".toList] := by decide
    rw [← Option.some.inj hk, hwords, commandWords, List.findSome?_cons]
    dsimp only
    rw [isPrefixOf?_append, Option.map_some, hread]
  · have hwords : words "npm install".toList = ["npm".toList, "install".toList] := by decide
    have hother : ∀ names : List (List Char), List.isPrefixOf?
        ["npx".toList, "shadcn@latest".toList, "add".toList]
        (["npm".toList, "install".toList] ++ names) = none := fun _ => rfl
    rw [← Option.some.inj hk, hwords, commandWords, List.findSome?_cons]
    dsimp only
    rw [hother, Option.map_none, List.findSome?_cons]
    dsimp only
    rw [isPrefixOf?_append, Option.map_some, hread]
  · cases hk

/-- The dependencies that are installed by one command each, by kind. -/
def installGroups (dependencies : List Dependency) : List (List Dependency) :=
  (firstOccurrences (dependencies.map Dependency.kind)).map fun kind =>
    (namesOfKind kind dependencies).map (Dependency.mk kind)

/-- **The commands are read as the groups of what is to be installed.** -/
theorem readInstall?_installCommands {dependencies : List Dependency}
    (hkinds : ∀ d ∈ dependencies, ∃ start, installCommand? d.kind = some start)
    (hnames : ∀ d ∈ dependencies, IsWord d.name.toList) :
    (installCommands dependencies).map (fun command => readInstall? command.toList) =
      (installGroups dependencies).map some := by
  have hkind : ∀ kind ∈ firstOccurrences (dependencies.map Dependency.kind),
      ∃ start, installCommand? kind = some start := by
    intro kind hkind
    obtain ⟨d, hd, rfl⟩ := List.mem_map.1 (mem_firstOccurrences.1 hkind)
    exact hkinds d hd
  have hword : ∀ kind, ∀ name ∈ namesOfKind kind dependencies, IsWord name.toList := by
    intro kind name hname
    obtain ⟨d, hd, rfl⟩ := of_mem_namesOfKind hname
    exact hnames d hd
  rw [installCommands, installGroups]
  generalize firstOccurrences (dependencies.map Dependency.kind) = kinds at hkind
  induction kinds with
  | nil => rfl
  | cons kind rest ih =>
    obtain ⟨start, hstart⟩ := hkind kind (by simp)
    have hrest := ih fun other hother => hkind other (by simp [hother])
    rw [List.filterMap_cons, hstart, Option.map_some]
    dsimp only
    rw [List.map_cons, hrest, readInstall?_command hstart (hword kind)]
    rfl

/-! ## Groups -/

theorem mem_namesOfKind {kind name : String} {dependencies : List Dependency} :
    name ∈ namesOfKind kind dependencies ↔ ⟨kind, name⟩ ∈ dependencies := by
  rw [namesOfKind, mem_firstOccurrences, List.mem_map]
  constructor
  · rintro ⟨d, hd, rfl⟩
    obtain ⟨hmem, hkind⟩ := List.mem_filter.1 hd
    rwa [← beq_iff_eq.1 hkind]
  · exact fun h => ⟨⟨kind, name⟩, List.mem_filter.2 ⟨h, by simp⟩, rfl⟩

/-- **The groups hold every dependency once**, and nothing else. -/
theorem flatten_installGroups (dependencies : List Dependency) :
    (installGroups dependencies).flatten.Nodup ∧
      ∀ d, d ∈ (installGroups dependencies).flatten ↔ d ∈ dependencies := by
  rw [installGroups, ← List.flatMap_def]
  constructor
  · rw [List.Nodup, List.pairwise_flatMap]
    constructor
    · intro kind _
      refine List.Pairwise.map _ (fun _ _ hne heq => hne ?_) (nodup_firstOccurrences _)
      exact (Dependency.mk.inj heq).2
    · -- the dependencies of two groups are of different kinds
      refine (nodup_firstOccurrences _).imp fun {kind other} hne => ?_
      rintro d hd _ hother rfl
      obtain ⟨name, _, rfl⟩ := List.mem_map.1 hd
      obtain ⟨_, _, heq⟩ := List.mem_map.1 hother
      exact hne (Dependency.mk.inj heq).1.symm
  · intro d
    rw [List.mem_flatMap]
    constructor
    · rintro ⟨kind, _, hd⟩
      obtain ⟨name, hname, rfl⟩ := List.mem_map.1 hd
      exact mem_namesOfKind.1 hname
    · intro hd
      exact ⟨d.kind, mem_firstOccurrences.2 (List.mem_map_of_mem hd),
        List.mem_map.2 ⟨d.name, mem_namesOfKind.2 hd, rfl⟩⟩

/-! ## Manifests -/

section Manifest

variable {profile : Profile}

/-- The dependencies of a bundled profile have commands, and names of one word. -/
theorem Profile.IsBundled.installable (hb : profile.IsBundled) : ∀ d ∈ profile.allDependencies,
    (∃ start, installCommand? d.kind = some start) ∧ IsWord d.name.toList := by
  have hall : ∀ profile ∈ [shadcnProfile, bootstrapProfile], ∀ d ∈ profile.allDependencies,
      (installCommand? d.kind).isSome ∧ IsWord d.name.toList := by decide
  intro d hd
  obtain ⟨hkind, hname⟩ := hall profile (by simpa using hb.cases) d hd
  exact ⟨Option.isSome_iff_exists.1 hkind, hname⟩

/-- The lines of a manifest. -/
theorem Profile.IsBundled.lines_manifest (hb : profile.IsBundled) (pages : List CompiledPage) :
    lines (profile.manifest pages).toList =
      profile.manifestFront pages ++ "| Page | Route | File |".toList ::
        "| --- | --- | --- |".toList :: (pages.map CompiledPage.cells).map row := by
  rw [manifest_eq, lines_flatMap]
  intro line hline
  rcases List.mem_append.1 hline with hline | hline
  · exact (hb.isLine_manifestFront pages line hline).ends
  · have hnames : IsLine true "| Page | Route | File |".toList := by decide
    have hdashes : IsLine true "| --- | --- | --- |".toList := by decide
    simp only [List.mem_cons, List.mem_map] at hline
    rcases hline with rfl | rfl | ⟨cells, _, rfl⟩
    · exact hnames.ends
    · exact hdashes.ends
    · exact (isLine_row cells).ends

/-- A command starts with a letter. -/
theorem head_installCommands {dependencies : List Dependency} {command : String}
    (h : command ∈ installCommands dependencies) : command.toList.head? = some 'n' := by
  obtain ⟨kind, _, h⟩ := List.mem_filterMap.1 h
  obtain ⟨start, hstart, rfl⟩ := Option.map_eq_some_iff.1 h
  rw [String.toList_append, String.toList_append, List.append_assoc, List.head?_append,
    (installCommand_line hstart).1]
  rfl

/-- A line that starts with another character than a fence is none. -/
theorem ne_fence {fence line : List Char} (hf : fence.head? = some '\x60')
    (h : line.head? ≠ some '\x60') : decide (line ≠ fence) = true := by
  refine decide_eq_true fun heq => h ?_
  rw [heq, hf]

/-- What stands between the first fence and the next one. -/
theorem takeWhile_block {before commands : List (List Char)}
    (hbefore : ∀ line ∈ before, line.head? ≠ some '\x60')
    (hcommands : ∀ line ∈ commands, line.head? ≠ some '\x60') (rest : List (List Char)) :
    (((before ++ shellFence :: (commands ++ blockFence :: rest)).dropWhile (· ≠ shellFence)).drop
      1).takeWhile (· ≠ blockFence) = commands := by
  have hskip : ∀ line ∈ before, decide (line ≠ shellFence) = true :=
    fun line hline => ne_fence rfl (hbefore line hline)
  have htake : ∀ line ∈ commands, decide (line ≠ blockFence) = true :=
    fun line hline => ne_fence rfl (hcommands line hline)
  rw [List.dropWhile_append_of_pos hskip, List.dropWhile_cons_of_neg (by simp), List.drop_one,
    List.tail_cons, List.takeWhile_append_of_pos htake, List.takeWhile_cons_of_neg (by simp),
    List.append_nil]

/-- **The shell block of a manifest holds the commands**; without any there is no such block. -/
theorem Profile.IsBundled.shellLines_manifest (hb : profile.IsBundled)
    (pages : List CompiledPage) : shellLines (profile.manifest pages).toList =
      (installCommands (profile.pageDependencies pages)).map String.toList := by
  have htitle : ("# Generated Site (".toList ++ profile.label.toList ++ [')']).head? =
      some '#' := rfl
  rw [shellLines, hb.lines_manifest, manifestFront, installLines]
  by_cases hempty : installCommands (profile.pageDependencies pages) = []
  · -- no line is a fence, so all are passed over
    rw [hempty, List.isEmpty_nil, if_pos rfl, List.dropWhile_eq_nil_iff.2]
    · rfl
    intro line hline
    refine ne_fence rfl ?_
    simp only [List.mem_append, List.mem_cons, List.not_mem_nil, or_false, List.mem_map] at hline
    rcases hline with (((rfl | rfl) | rfl) | rfl | rfl | rfl) | rfl | rfl | ⟨cells, _, rfl⟩
    · rw [htitle]
      decide
    · decide
    · decide
    · decide
    · decide
    · decide
    · decide
    · decide
    · exact fun h => absurd h (by simp [row])
  · have hbefore : ∀ line ∈ ["# Generated Site (".toList ++ profile.label.toList ++ [')'], [],
        "Run this to install dependencies:".toList, []], line.head? ≠ some '\x60' := by
      intro line hline
      simp only [List.mem_cons, List.not_mem_nil, or_false] at hline
      rcases hline with rfl | rfl | rfl | rfl
      · rw [htitle]
        decide
      · decide
      · decide
      · decide
    have hcommands : ∀ line ∈ (installCommands (profile.pageDependencies pages)).map String.toList,
        line.head? ≠ some '\x60' := by
      intro line hline
      obtain ⟨command, hcommand, rfl⟩ := List.mem_map.1 hline
      rw [head_installCommands hcommand]
      decide
    -- the fence stands behind four lines, and the commands behind the fence
    have hsplit : ∀ (commands rest : List (List Char)),
        ["# Generated Site (".toList ++ profile.label.toList ++ [')'], []] ++
          (["Run this to install dependencies:".toList, [], "\x60\x60\x60bash".toList] ++
            commands ++ ["\x60\x60\x60".toList]) ++ rest =
        ["# Generated Site (".toList ++ profile.label.toList ++ [')'], [],
          "Run this to install dependencies:".toList, []] ++
          shellFence :: (commands ++ blockFence :: rest) := by
      intro commands rest
      simp only [List.cons_append, List.nil_append, List.append_assoc]
      rfl
    rw [if_neg (by simpa using hempty), List.append_assoc, hsplit,
      takeWhile_block hbefore hcommands]

end Manifest

/-! ## Imports and dependencies -/

/-- An import asks for a dependency, unless every page comes with what it imports. -/
def Import.Needs (i : Import) (d : Dependency) : Prop :=
  i.source ≠ "react" ∧ packageOf i.source.toList = d

instance (i : Import) (d : Dependency) : Decidable (i.Needs d) :=
  inferInstanceAs (Decidable (i.source ≠ "react" ∧ packageOf i.source.toList = d))

namespace Profile

variable {profile : Profile} {types : List String} {d : Dependency}

/-- **The dependencies of a type are the packages of what it imports**, entry by entry. -/
theorem IsBundled.dependencies_eq (hb : profile.IsBundled) :
    profile.dependencies = profile.imports.map fun entry =>
      (entry.1, entry.2.map fun i => packageOf i.source.toList) := by
  rcases hb.cases with rfl | rfl
  · decide
  · decide

/-- No type imports what every page has. -/
theorem IsBundled.source_ne (hb : profile.IsBundled) :
    ∀ entry ∈ profile.imports, ∀ i ∈ entry.2, i.source ≠ "react" := by
  rcases hb.cases with rfl | rfl
  · decide
  · decide

/-- What every page needs is what every page imports. -/
theorem IsBundled.mem_baseDependencies (hb : profile.IsBundled) :
    d ∈ profile.baseDependencies ↔ ∃ i ∈ profile.baseImports, i.Needs d := by
  have hall : ∀ profile ∈ [shadcnProfile, bootstrapProfile],
      (∀ d ∈ profile.baseDependencies, ∃ i ∈ profile.baseImports, i.Needs d) ∧
        ∀ i ∈ profile.baseImports, i.source ≠ "react" →
          packageOf i.source.toList ∈ profile.baseDependencies := by decide
  obtain ⟨hneeded, hlisted⟩ := hall profile (by simpa using hb.cases)
  constructor
  · exact hneeded d
  · rintro ⟨i, hi, hne, rfl⟩
    exact hlisted i hi hne

/-- **What pages need is what they import**, whatever types they use. -/
theorem IsBundled.mem_resolveDependencies (hb : profile.IsBundled) :
    d ∈ profile.resolveDependencies types ↔ ∃ i ∈ profile.requests types, i.Needs d := by
  have htype : ∀ type, d ∈ (profile.dependencies.lookup type).getD [] ↔
      ∃ i ∈ (profile.imports.lookup type).getD [], i.Needs d := by
    intro type
    rw [hb.dependencies_eq, lookup_map]
    cases hl : profile.imports.lookup type with
    | none => exact ⟨nofun, nofun⟩
    | some own =>
      have hne := hb.source_ne _ (mem_of_lookup hl)
      rw [Option.map_some, Option.getD_some, Option.getD_some, List.mem_map]
      constructor
      · rintro ⟨i, hi, rfl⟩
        exact ⟨i, hi, hne i hi, rfl⟩
      · rintro ⟨i, hi, _, heq⟩
        exact ⟨i, hi, heq⟩
  rw [resolveDependencies, mem_firstOccurrences, List.mem_append, List.mem_flatMap,
    hb.mem_baseDependencies]
  constructor
  · rintro (⟨i, hi, hneeds⟩ | ⟨type, ht, hd⟩)
    · exact ⟨i, List.mem_append_left _ hi, hneeds⟩
    · obtain ⟨i, hi, hneeds⟩ := (htype type).1 hd
      exact ⟨i, List.mem_append_right _ (List.mem_flatMap.2 ⟨type, ht, hi⟩), hneeds⟩
  · rintro ⟨i, hi, hneeds⟩
    rcases List.mem_append.1 hi with hi | hi
    · exact Or.inl ⟨i, hi, hneeds⟩
    · obtain ⟨type, ht, hi⟩ := List.mem_flatMap.1 hi
      exact Or.inr ⟨type, ht, (htype type).2 ⟨i, hi, hneeds⟩⟩

/-- What pages ask for together is what each of them asks for. -/
theorem mem_requests_typesOfPages {pages : List CompiledPage} (hne : pages ≠ []) {i : Import} :
    i ∈ profile.requests (typesOfPages pages) ↔
      ∃ c ∈ pages, i ∈ profile.requests c.usedTypes := by
  simp only [requests, typesOfPages, List.mem_append, List.mem_flatMap, mem_firstOccurrences]
  constructor
  · rintro (hi | ⟨type, ⟨c, hc, ht⟩, hi⟩)
    · -- every page imports it, and there is one
      obtain ⟨c, hc⟩ := List.exists_mem_of_ne_nil pages hne
      exact ⟨c, hc, Or.inl hi⟩
    · exact ⟨c, hc, Or.inr ⟨type, ht, hi⟩⟩
  · rintro ⟨c, hc, hi | ⟨type, ht, hi⟩⟩
    · exact Or.inl hi
    · exact Or.inr ⟨type, ⟨c, hc, ht⟩, hi⟩

end Profile

/-! ## Documents -/

/-- The modules that the file of a page imports are those of its requests. -/
theorem Page.CompiledUnder.mem_importedModules {catalogue : Catalogue} {profile : Profile}
    {page : Page} {identifier : List Char} {compiled : CompiledPage} (hb : profile.IsBundled)
    (h : page.CompiledUnder catalogue profile identifier compiled) {module : List Char} :
    module ∈ importedModules compiled.fileText.toList ↔
      ∃ i ∈ profile.requests compiled.usedTypes, i.source.toList = module := by
  have hsources := Import.source_merge (profile.requests compiled.usedTypes)
  have hmodules : importedModules compiled.fileText.toList =
      ((profile.resolveImports compiled.usedTypes).map Import.source).map String.toList := by
    rw [h.importedModules_eq hb, List.map_map]
    rfl
  rw [hmodules, Profile.resolveImports_eq, hsources, List.mem_map]
  simp only [mem_firstOccurrences, List.mem_map]
  constructor
  · rintro ⟨_, ⟨i, hi, rfl⟩, heq⟩
    exact ⟨i, hi, heq⟩
  · rintro ⟨i, hi, heq⟩
    exact ⟨_, ⟨i, hi, rfl⟩, heq⟩

/--
**A manifest installs what the pages of its document import.**

The lines of its shell block are install commands. Every module that a page imports, other than
the library that every page is written in, is provided by one name in one of them, and every name
in a command provides a module that some page imports.
-/
theorem Document.manifest_installs_imports {catalogue : Catalogue} {profile : Profile}
    (hb : profile.IsBundled) {document : Document} {pages : List CompiledPage}
    (h : document.compile catalogue profile = .ok pages) :
    ∃ commands : List (List Dependency),
      (shellLines (profile.manifest pages).toList).map readInstall? = commands.map some ∧
      (∀ c ∈ pages, ∀ module ∈ importedModules c.fileText.toList, module ≠ "react".toList →
        commands.flatten.count (packageOf module) = 1) ∧
      ∀ d ∈ commands.flatten, ∃ c ∈ pages, ∃ module ∈ importedModules c.fileText.toList,
        module ≠ "react".toList ∧ packageOf module = d := by
  have hpages : pages ≠ [] := by
    rintro rfl
    have hall := forall₂_compilePages h
    exact document.nonempty (List.forall₂_nil_right_iff.1 hall)
  have hdependencies : ∀ d ∈ profile.pageDependencies pages, d ∈ profile.allDependencies :=
    fun d hd => Profile.mem_allDependencies hd
  obtain ⟨hnodup, hmem⟩ := flatten_installGroups (profile.pageDependencies pages)
  refine ⟨installGroups (profile.pageDependencies pages), ?_, ?_, ?_⟩
  · have hread := readInstall?_installCommands
      (fun d hd => (hb.installable d (hdependencies d hd)).1)
      (fun d hd => (hb.installable d (hdependencies d hd)).2)
    rw [hb.shellLines_manifest, List.map_map]
    exact hread
  · intro c hc module hmodule hne
    obtain ⟨page, _, identifier, hunder⟩ := compiledUnder_of_mem h hc
    obtain ⟨i, hi, rfl⟩ := (hunder.mem_importedModules hb).1 hmodule
    refine List.count_eq_one_of_mem hnodup ((hmem _).2 ?_)
    exact hb.mem_resolveDependencies.2 ⟨i, (Profile.mem_requests_typesOfPages hpages).2 ⟨c, hc, hi⟩,
      fun heq => hne (by rw [heq]), rfl⟩
  · intro d hd
    obtain ⟨i, hi, hne, hpackage⟩ := hb.mem_resolveDependencies.1 ((hmem d).1 hd)
    obtain ⟨c, hc, hi⟩ := (Profile.mem_requests_typesOfPages hpages).1 hi
    obtain ⟨page, _, identifier, hunder⟩ := compiledUnder_of_mem h hc
    exact ⟨c, hc, i.source.toList, (hunder.mem_importedModules hb).2 ⟨i, hi, rfl⟩,
      fun heq => hne (String.toList_injective heq), hpackage⟩

/-- A page with an alert, whose icon comes out of a package. -/
def alertPage : Page := { id := "a", content := [{ id := .text "x", type := "Alert" }] }

theorem usedTypes_alertPage :
    alertPage.usedTypes Bundled.catalogue shadcnProfile = ["Alert"] := by
  have hvisit : alertPage.visitAll Bundled.catalogue shadcnProfile.supports = alertPage.content :=
    Page.visitAll_eq_singleton rfl rfl rfl rfl
  rw [Page.usedTypes, Page.collectTypes, hvisit]
  decide

/-- The icons are installed once, and by a command. -/
theorem Document.manifest_installs_imports_alert :
    ∃ pages, ∃ commands : List (List Dependency),
      Document.compile ⟨[alertPage], List.cons_ne_nil _ _⟩ Bundled.catalogue shadcnProfile =
        .ok pages ∧
      (shellLines (shadcnProfile.manifest pages).toList).map readInstall? = commands.map some ∧
      commands.flatten.count ⟨"npm", "lucide-react"⟩ = 1 := by
  have htexts : ∀ page ∈ (⟨[alertPage], List.cons_ne_nil _ _⟩ : Document).pages,
      page.TextIds ∧ ∃ s, page.settings.title = .text s := by
    intro page hpage
    rw [List.mem_singleton.1 hpage]
    exact ⟨by decide, _, rfl⟩
  obtain ⟨pages, hpages, hall⟩ := Document.compile_of_texts shadcnProfile_isBundled htexts
  obtain ⟨commands, hread, hinstalled, _⟩ :=
    Document.manifest_installs_imports shadcnProfile_isBundled hpages
  cases hall with
  | @cons _ c _ rest hfirst _ =>
    obtain ⟨identifier, hunder⟩ := hfirst
    have hrequest : ∃ i ∈ shadcnProfile.requests ["Alert"],
        i.source.toList = "lucide-react".toList := by decide
    have hmodule : "lucide-react".toList ∈ importedModules c.fileText.toList := by
      rw [hunder.mem_importedModules shadcnProfile_isBundled, hunder.usedTypes_eq,
        usedTypes_alertPage]
      exact hrequest
    have hpackage : packageOf "lucide-react".toList = ⟨"npm", "lucide-react"⟩ := by decide
    have hcount := hinstalled c (by simp) _ hmodule (by decide)
    rw [hpackage] at hcount
    exact ⟨_, commands, hpages, hread, hcount⟩

end Pagewright
