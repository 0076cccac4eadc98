import Mathlib.Data.List.Forall2
import Mathlib.Data.List.TakeWhile
import Pagewright.Bundle.Archive
import Pagewright.Proofs.Manifests
import Pagewright.Proofs.Naming

/-!
# Bundles hold every page once

Each page of a document compiles under an identifier that no page before it has, so no two pages
have one path and a bundle of them is always made. A path is an identifier between a fixed
directory and a fixed extension: nothing of a title but letters, digits and underscores reaches it,
and its cell in the manifest is read as the path itself. An archive stores it as it is, too, so its
length alone decides whether the bundle is packed.
-/

namespace Pagewright

open Pagewright.Text Pagewright.Markup

variable {catalogue : Catalogue} {profile : Profile}

/-! ## Entries -/

/-- The entry of a page. -/
def CompiledPage.entry (page : CompiledPage) : ArchiveEntry := ⟨page.path, page.fileText⟩

/-- Pages with different paths, none of them taken, have their entries in order. -/
theorem pageEntries_eq_ok {taken : List String} {pages : List CompiledPage}
    (hnodup : (pages.map CompiledPage.path).Nodup) (hfree : ∀ page ∈ pages, page.path ∉ taken) :
    pageEntries taken pages = .ok (pages.map CompiledPage.entry) := by
  induction pages generalizing taken with
  | nil => rfl
  | cons page rest ih =>
    rw [List.map_cons, List.nodup_cons] at hnodup
    have hrest : ∀ other ∈ rest, other.path ∉ page.path :: taken := by
      intro other hother hin
      rcases List.mem_cons.1 hin with heq | hin
      · exact hnodup.1 (heq ▸ List.mem_map_of_mem hother)
      · exact hfree other (by simp [hother]) hin
    rw [pageEntries, if_neg (hfree page (by simp)), ih hnodup.2 hrest]
    rfl

/-- **A bundle of pages with different paths is made**, and holds the manifest and every page. -/
theorem Profile.bundle_eq_ok {pages : List CompiledPage}
    (hnodup : (pages.map CompiledPage.path).Nodup)
    (hfree : ∀ page ∈ pages, page.path ≠ manifestPath) :
    profile.bundle pages =
      .ok (⟨manifestPath, profile.manifest pages⟩ :: pages.map CompiledPage.entry) := by
  rw [bundle, pageEntries_eq_ok hnodup fun page hpage => by simpa using hfree page hpage]
  rfl

/-! ## Paths -/

theorem Profile.IsBundled.extension (hb : profile.IsBundled) : profile.extension = ".tsx" := by
  rcases hb.cases with rfl | rfl <;> rfl

theorem isBlank_of_letter {c : Char} (h : isIdentifierLetter c = true) : isBlank c = false := by
  have hnum : (97 ≤ c.toNat ∧ c.toNat ≤ 122) ∨ (48 ≤ c.toNat ∧ c.toNat ≤ 57) := by
    simpa [isIdentifierLetter, Char.le_def, UInt32.le_iff_toNat_le] using h
  rw [Bool.eq_false_iff]
  intro hblank
  simp only [isBlank, Ranges.has, blankRanges, List.any_cons, List.any_nil, Bool.or_eq_true,
    Bool.and_eq_true, decide_eq_true_eq, Bool.or_false] at hblank
  omega

/-- Is the character one of those that a path is made of? -/
def isPathChar (c : Char) : Bool := isIdentifierLetter c || ['_', '/', '.'].contains c

theorem isPathChar_path {identifier : List Char} (h : IsIdentifier identifier) :
    ∀ c ∈ ("src/pages/" ++ String.ofList identifier ++ ".tsx").toList, isPathChar c = true := by
  have hfront : ∀ c ∈ "src/pages/".toList, isPathChar c = true := forall_mem_of_all (by decide)
  have hback : ∀ c ∈ ".tsx".toList, isPathChar c = true := forall_mem_of_all (by decide)
  intro c hc
  rw [String.toList_append, String.toList_append] at hc
  rcases List.mem_append.1 hc with hc | hc
  · rcases List.mem_append.1 hc with hc | hc
    · exact hfront c hc
    · rw [String.toList_ofList] at hc
      rcases h.chars c hc with hletter | rfl
      · rw [isPathChar, hletter, Bool.true_or]
      · decide
  · exact hback c hc

/-- A path is one word. -/
theorem isBlank_of_pathChar {c : Char} (h : isPathChar c = true) : isBlank c = false := by
  rcases Bool.or_eq_true _ _ ▸ h with hletter | hmark
  · exact isBlank_of_letter hletter
  · simp only [List.contains_eq_mem, decide_eq_true_eq, List.mem_cons, List.not_mem_nil,
      or_false] at hmark
    rcases hmark with rfl | rfl | rfl <;> decide

/-- The path of an identifier tells it. -/
theorem path_injective {first second : String}
    (h : "src/pages/" ++ first ++ ".tsx" = "src/pages/" ++ second ++ ".tsx") : first = second := by
  have hchars := congrArg String.toList h
  simp only [String.toList_append] at hchars
  exact String.toList_injective (List.append_cancel_left (List.append_cancel_right hchars))

namespace Page.CompiledUnder

variable {page : Page} {identifier : List Char} {compiled : CompiledPage}

theorem path_eq (hb : profile.IsBundled)
    (h : page.CompiledUnder catalogue profile identifier compiled) :
    compiled.path = "src/pages/" ++ String.ofList identifier ++ ".tsx" := by
  obtain ⟨_, nodes, text, _, _, rfl⟩ := compileAs_eq_ok.1 h.compiles
  rw [CompiledPage.path, compiled, hb.extension, String.append_assoc]

/-- A path is read in a table as it is. -/
theorem singleSpaced_path (hb : profile.IsBundled)
    (h : page.CompiledUnder catalogue profile identifier compiled) :
    singleSpaced compiled.path.toList = compiled.path.toList := by
  rw [h.path_eq hb]
  refine singleSpaced_eq_self (fun hnil => ?_) fun c hc =>
    isBlank_of_pathChar (isPathChar_path h.isIdentifier c hc)
  rw [String.toList_append, List.append_eq_nil_iff] at hnil
  exact absurd hnil.2 (by decide)

/-- A path is stored in an archive as it is. -/
theorem storedName_entry (hb : profile.IsBundled)
    (h : page.CompiledUnder catalogue profile identifier compiled) :
    compiled.entry.storedName = compiled.path := by
  have hzero : ∀ c ∈ compiled.path.toList, (c != '\x00') = true := by
    rw [h.path_eq hb]
    intro c hc
    rw [bne_iff_ne]
    rintro rfl
    exact absurd (isPathChar_path h.isIdentifier _ hc) (by decide)
  rw [ArchiveEntry.storedName, CompiledPage.entry, List.takeWhile_eq_self_iff.2 hzero,
    String.ofList_toList]

end Page.CompiledUnder

/-- No path is that of the manifest. -/
theorem path_ne_manifestPath (identifier : String) :
    "src/pages/" ++ identifier ++ ".tsx" ≠ manifestPath := by
  intro h
  have hhead : ("src/pages/" ++ identifier ++ ".tsx").toList.head? = some 's' := by
    rw [String.toList_append, String.toList_append, List.append_assoc, List.head?_append]
    rfl
  rw [h] at hhead
  exact absurd hhead (by decide)

/-- **Every compiled page of a document has a path of its own**, which is not that of the
manifest. -/
theorem paths_compilePages (hb : profile.IsBundled) {taken : List (List Char)} {pages : List Page}
    {compiled : List CompiledPage} (h : compilePages catalogue profile taken pages = .ok compiled) :
    (manifestPath :: compiled.map CompiledPage.path).Nodup := by
  have hpath : ∀ c ∈ compiled, c.path = "src/pages/" ++ c.identifier ++ ".tsx" := by
    intro c hc
    obtain ⟨page, _, identifier, hunder⟩ := compiledUnder_of_mem h hc
    rw [hunder.identifier_eq, hunder.path_eq hb]
  have hmap : compiled.map CompiledPage.path =
      (compiled.map CompiledPage.identifier).map fun name => "src/pages/" ++ name ++ ".tsx" := by
    rw [List.map_map]
    exact List.map_congr_left hpath
  rw [List.nodup_cons, hmap]
  constructor
  · intro hin
    obtain ⟨name, _, heq⟩ := List.mem_map.1 hin
    exact path_ne_manifestPath name heq
  · exact List.Pairwise.map _ (fun _ _ hne heq => hne (path_injective heq))
      (nodup_identifiers h)

/-! ## Bundles of documents -/

/-- A document whose ids and titles are texts compiles, page by page. -/
theorem Document.compile_of_texts (hb : profile.IsBundled) {document : Document}
    (htexts : ∀ page ∈ document.pages,
      page.TextIds ∧ ∃ title, page.settings.title = .text title) :
    ∃ pages, document.compile Bundled.catalogue profile = .ok pages ∧
      List.Forall₂ (fun page compiled => ∃ identifier,
        page.CompiledUnder Bundled.catalogue profile identifier compiled)
        document.pages pages := by
  have htitles : ∀ page ∈ document.pages, ∃ title, titleText page.settings.title = .ok title := by
    intro page hpage
    obtain ⟨title, htitle⟩ := (htexts page hpage).2
    exact ⟨title.toList, by rw [htitle]; rfl⟩
  have hids : ∀ page ∈ document.pages, ∀ node ∈ page.stored, node.form?.isSome :=
    fun page hpage node hnode => (htexts page hpage).1.form?_isSome hnode
  obtain ⟨pages, hpages⟩ := compile_ok hb htitles hids
  exact ⟨pages, hpages, forall₂_compilePages hpages⟩

/-- A compiled document makes a bundle of the manifest and every page. -/
theorem Document.bundle_of_compile (hb : profile.IsBundled) {document : Document}
    {pages : List CompiledPage} (h : document.compile catalogue profile = .ok pages) :
    profile.bundle pages =
      .ok (⟨manifestPath, profile.manifest pages⟩ :: pages.map CompiledPage.entry) := by
  obtain ⟨hfree, hpaths⟩ := List.nodup_cons.1 (paths_compilePages hb h)
  exact Profile.bundle_eq_ok hpaths fun page hpage heq =>
    hfree (heq ▸ List.mem_map_of_mem hpage)

/-- **A bundle of a compiled document holds every page once.** It is made without a repeated path;
the manifest comes first and the pages follow in document order, each under the path of its own
identifier; and the table in the manifest has one row for each page, in the same order, with the
path of its entry in the last cell. -/
theorem Document.bundle_complete (hb : profile.IsBundled) {document : Document}
    {pages : List CompiledPage} (h : document.compile catalogue profile = .ok pages) :
    ∃ entries, profile.bundle pages = .ok entries ∧
      entries = ⟨"README.md", profile.manifest pages⟩ ::
        pages.map (fun compiled => ⟨compiled.path, compiled.fileText⟩) ∧
      (entries.map ArchiveEntry.path).Nodup ∧
      List.Forall₂ (fun page compiled => ∃ identifier,
          page.CompiledUnder catalogue profile identifier compiled ∧
          compiled.path = "src/pages/" ++ String.ofList identifier ++ ".tsx" ∧
          compiled.title = page.settings.title ∧ compiled.route = page.settings.route)
        document.pages pages ∧
      tableRows (profile.manifest pages).toList = pages.map fun compiled =>
        [singleSpaced compiled.title.content, singleSpaced compiled.route.content,
          compiled.path.toList] := by
  have hnodup := paths_compilePages hb h
  have hword : ∀ c ∈ pages, singleSpaced c.path.toList = c.path.toList := by
    intro c hc
    obtain ⟨page, _, identifier, hunder⟩ := compiledUnder_of_mem h hc
    exact hunder.singleSpaced_path hb
  refine ⟨_, bundle_of_compile hb h, rfl, ?_, ?_, ?_⟩
  · rwa [List.map_cons, List.map_map]
  · exact (forall₂_compilePages h).imp fun page c ⟨identifier, hunder⟩ =>
      ⟨identifier, hunder, hunder.path_eq hb, hunder.settings_eq⟩
  · rw [hb.tableRows_manifest]
    refine List.map_congr_left fun c hc => ?_
    rw [CompiledPage.cells, List.map_cons, List.map_cons, List.map_cons, List.map_nil, hword c hc]

/-- Three pages, the second of which derives the identifier that the third would get. -/
def threeHomes : Document where
  pages := [{ id := "a" }, { id := "b", settings := { title := .text "Home|\n2" } }, { id := "c" }]
  nonempty := List.cons_ne_nil _ _

/-- The titles of the three pages share words and break lines; every page has its entry and row. -/
theorem Document.bundle_complete_threeHomes :
    ∃ pages entries, threeHomes.compile Bundled.catalogue shadcnProfile = .ok pages ∧
      shadcnProfile.bundle pages = .ok entries ∧ entries.length = 4 ∧
      (entries.map ArchiveEntry.path).Nodup ∧
      (tableRows (shadcnProfile.manifest pages).toList).map List.head? =
        ["Home".toList, "Home| 2".toList, "Home".toList].map some := by
  have htitles : ∀ page ∈ threeHomes.pages, ∃ title, titleText page.settings.title = .ok title := by
    intro page hpage
    simp only [threeHomes, List.mem_cons, List.not_mem_nil, or_false] at hpage
    rcases hpage with rfl | rfl | rfl <;> exact ⟨_, rfl⟩
  obtain ⟨pages, hpages⟩ := compile_ok shadcnProfile_isBundled htitles (by decide)
  obtain ⟨entries, hentries, heq, hnodup, hall, hrows⟩ :=
    bundle_complete shadcnProfile_isBundled hpages
  cases hall with
  | @cons _ first _ _ hfirst hall =>
  cases hall with
  | @cons _ second _ _ hsecond hall =>
  cases hall with
  | @cons _ third _ _ hthird hall =>
  cases hall
  obtain ⟨_, _, _, hfirst, _⟩ := hfirst
  obtain ⟨_, _, _, hsecond, _⟩ := hsecond
  obtain ⟨_, _, _, hthird, _⟩ := hthird
  refine ⟨_, entries, hpages, hentries, ?_, hnodup, ?_⟩
  · rw [heq]
    rfl
  · have hhome : singleSpaced (Value.text "Home").content = "Home".toList := by decide
    have hother : singleSpaced (Value.text "Home|\n2").content = "Home| 2".toList := by decide
    rw [hrows]
    simp only [List.map_cons, List.map_nil, List.head?_cons, hfirst, hsecond, hthird, hhome, hother]

/-! ## Packing -/

/-- Pages are packed when they make a bundle and an archive has room for every name in it. -/
theorem Profile.pack_eq_ok {pages : List CompiledPage} {entries : List ArchiveEntry} :
    profile.pack pages = .ok entries ↔
      profile.bundle pages = .ok entries ∧ ∀ entry ∈ entries, entry.fits = true := by
  have hnone : (entries.find? fun entry => !entry.fits) = none ↔
      ∀ entry ∈ entries, entry.fits = true := by simp
  unfold pack
  refine bind_eq_ok.trans ⟨?_, ?_⟩
  · rintro ⟨own, hown, h⟩
    rw [mapError_eq_ok] at hown
    split at h
    · cases h
    · next hown' =>
      cases h
      exact ⟨hown, hnone.1 hown'⟩
  · rintro ⟨hbundle, hfits⟩
    refine ⟨entries, mapError_eq_ok.2 hbundle, ?_⟩
    rw [hnone.2 hfits]
    rfl

/-- **A compiled document is packed unless the path of a page is too long for an archive.** -/
theorem Document.pack_iff (hb : profile.IsBundled) {document : Document}
    {pages : List CompiledPage} (h : document.compile catalogue profile = .ok pages) :
    (∃ entries, profile.pack pages = .ok entries) ↔
      ∀ page ∈ pages, page.path.utf8ByteSize ≤ storedNameLimit := by
  have hbundle := bundle_of_compile hb h
  have hpage : ∀ page ∈ pages, page.entry.fits = true ↔
      page.path.utf8ByteSize ≤ storedNameLimit := by
    intro page hpage
    obtain ⟨_, _, _, hunder⟩ := compiledUnder_of_mem h hpage
    rw [ArchiveEntry.fits, hunder.storedName_entry hb, decide_eq_true_iff]
  have hmanifest : String.ofList (manifestPath.toList.takeWhile fun c => c != '\x00') =
      manifestPath := by decide
  constructor
  · rintro ⟨entries, hentries⟩ page hin
    obtain ⟨hown, hfits⟩ := Profile.pack_eq_ok.1 hentries
    rw [hbundle] at hown
    cases hown
    exact (hpage page hin).1 (hfits _ (List.mem_cons_of_mem _ (List.mem_map_of_mem hin)))
  · intro hall
    refine ⟨_, Profile.pack_eq_ok.2 ⟨hbundle, fun entry hentry => ?_⟩⟩
    rcases List.mem_cons.1 hentry with rfl | hentry
    · rw [ArchiveEntry.fits, ArchiveEntry.storedName, hmanifest]
      decide
    · obtain ⟨page, hin, rfl⟩ := List.mem_map.1 hentry
      exact (hpage page hin).2 (hall page hin)

end Pagewright
