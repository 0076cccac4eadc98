import Mathlib.Data.List.Nodup
import Pagewright.Proofs.Compiling
import Pagewright.Proofs.Identifiers

/-!
# Identifiers are settled from the front

The identifiers of the pages of a document are chosen one after another, each with the identifiers
before it in view and nothing else. `IsFirstFree` says which one is chosen: the base of the title,
or else the base with the least number from two on that nothing before holds, though a number may
be held by a page whose own title derived it. There is exactly one such identifier, so the list of
identifiers is known from the titles alone (`isFirstFree_of_getElem?`), its front from the front
of the titles, and compiling a document is compiling each page by itself under the identifier of
its place (`compilePages_eq_mapM`).
-/

namespace Pagewright

open Pagewright.Text

variable {catalogue : Catalogue} {profile : Profile}

/-! ## The first free identifier -/

/-- The base of an identifier if nothing held is equal to it, or else the base with the least
number from two on with which it is not held. -/
inductive IsFirstFree (base : List Char) (held : List (List Char)) : List Char → Prop where
  | base : base ∉ held → IsFirstFree base held base
  | numbered {n : Nat} : base ∈ held → 2 ≤ n → numbered base n ∉ held →
      (∀ k, 2 ≤ k → k < n → numbered base k ∈ held) → IsFirstFree base held (numbered base n)

theorem isFirstFree_uniqueIdentifier (base : List Char) (held : List (List Char)) :
    IsFirstFree base held (uniqueIdentifier base held) := by
  unfold uniqueIdentifier
  split
  · next hmem =>
    obtain ⟨hle, hfree, hleast⟩ := freeNumber_spec base 2 held
    exact .numbered hmem hle hfree hleast
  · next hfree => exact .base hfree

namespace IsFirstFree

variable {base id id' : List Char} {held held' : List (List Char)}

/-- **There is one first free identifier.** -/
theorem eq (h : IsFirstFree base held id) (h' : IsFirstFree base held id') : id = id' := by
  cases h with
  | base hfree =>
    cases h' with
    | base => rfl
    | numbered hmem => exact absurd hmem hfree
  | @numbered n hmem hle hfree hleast =>
    cases h' with
    | base hfree' => exact absurd hmem hfree'
    | @numbered m _ hle' hfree' hleast' =>
      rcases Nat.lt_trichotomy n m with hlt | rfl | hlt
      · exact absurd (hleast' n hle hlt) hfree
      · rfl
      · exact absurd (hleast m hle' hlt) hfree'

/-- The order of what is held does not matter. -/
theorem congr (hheld : ∀ name, name ∈ held ↔ name ∈ held') (h : IsFirstFree base held id) :
    IsFirstFree base held' id := by
  cases h with
  | base hfree => exact .base (mt (hheld _).2 hfree)
  | numbered hmem hle hfree hleast =>
    exact .numbered ((hheld _).1 hmem) hle (mt (hheld _).2 hfree)
      fun k hk hlt => (hheld _).1 (hleast k hk hlt)

end IsFirstFree

/-! ## Identifiers in order -/

section Order

variable {taken bases : List (List Char)}

theorem length_uniqueIdentifiers (taken bases : List (List Char)) :
    (uniqueIdentifiers taken bases).length = bases.length := by
  induction bases generalizing taken with
  | nil => rfl
  | cons base rest ih => rw [uniqueIdentifiers, List.length_cons, List.length_cons, ih]

/-- Bases further back have no part in the identifiers in front. -/
theorem take_uniqueIdentifiers (taken bases : List (List Char)) (n : Nat) :
    (uniqueIdentifiers taken bases).take n = uniqueIdentifiers taken (bases.take n) := by
  induction bases generalizing taken n with
  | nil => rw [List.take_nil, uniqueIdentifiers, List.take_nil]
  | cons base rest ih =>
    cases n with
    | zero => rfl
    | succ n =>
      rw [List.take_succ_cons, uniqueIdentifiers, uniqueIdentifiers, List.take_succ_cons, ih]

/-- **Each identifier is the first free one** with those before it and the taken ones held. -/
theorem isFirstFree_of_getElem? {i : Nat} {base id : List Char} (hbase : bases[i]? = some base)
    (hid : (uniqueIdentifiers taken bases)[i]? = some id) :
    IsFirstFree base ((uniqueIdentifiers taken bases).take i ++ taken) id := by
  induction bases generalizing taken i with
  | nil => cases hbase
  | cons first rest ih =>
    rw [uniqueIdentifiers] at hid ⊢
    cases i with
    | zero =>
      rw [← Option.some.inj hbase, ← Option.some.inj hid]
      exact isFirstFree_uniqueIdentifier first taken
    | succ i =>
      rw [List.take_succ_cons]
      -- the first identifier is taken for the others, and it stands in front of them
      refine (ih hbase hid).congr fun name => ?_
      simp only [List.mem_append, List.mem_cons]
      tauto

/-- No two of the identifiers are equal, and none is taken. -/
theorem nodup_uniqueIdentifiers (taken bases : List (List Char)) :
    (uniqueIdentifiers taken bases).Nodup ∧ ∀ id ∈ uniqueIdentifiers taken bases, id ∉ taken := by
  induction bases generalizing taken with
  | nil => exact ⟨List.nodup_nil, nofun⟩
  | cons base rest ih =>
    obtain ⟨hnodup, hfree⟩ := ih (uniqueIdentifier base taken :: taken)
    rw [uniqueIdentifiers]
    refine ⟨List.nodup_cons.2 ⟨fun hin => hfree _ hin (List.mem_cons_self ..), hnodup⟩, ?_⟩
    intro id hid
    rcases List.mem_cons.1 hid with rfl | hid
    · exact uniqueIdentifier_not_mem base taken
    · exact fun hin => hfree id hid (List.mem_cons_of_mem _ hin)

theorem isIdentifier_uniqueIdentifiers (h : ∀ base ∈ bases, IsIdentifier base) :
    ∀ id ∈ uniqueIdentifiers taken bases, IsIdentifier id := by
  induction bases generalizing taken with
  | nil => exact nofun
  | cons base rest ih =>
    rw [uniqueIdentifiers]
    intro id hid
    rcases List.mem_cons.1 hid with rfl | hid
    · exact (h base (by simp)).unique taken
    · exact ih (fun other hother => h other (by simp [hother])) id hid

end Order

/-! ## Compiling pages in order -/

theorem Page.isIdentifier {page : Page} {name : List Char} (h : page.deriveIdentifier = .ok name) :
    IsIdentifier name := by
  obtain ⟨title, _, rfl⟩ := map_eq_ok.1 h
  exact isIdentifier_derive title

/-- A page is compiled under an identifier, to the file of that name. -/
structure Page.CompiledUnder (page : Page) (catalogue : Catalogue) (profile : Profile)
    (identifier : List Char) (compiled : CompiledPage) : Prop where
  isIdentifier : IsIdentifier identifier
  compiles : page.compileAs catalogue profile identifier = .ok compiled

namespace Page.CompiledUnder

variable {page : Page} {identifier : List Char} {compiled : CompiledPage}

theorem identifier_eq (h : page.CompiledUnder catalogue profile identifier compiled) :
    compiled.identifier = String.ofList identifier := by
  obtain ⟨_, nodes, text, _, _, rfl⟩ := compileAs_eq_ok.1 h.compiles
  rfl

/-- A compiled page keeps the title and the route. -/
theorem settings_eq (h : page.CompiledUnder catalogue profile identifier compiled) :
    compiled.title = page.settings.title ∧ compiled.route = page.settings.route := by
  obtain ⟨_, nodes, text, _, _, rfl⟩ := compileAs_eq_ok.1 h.compiles
  exact ⟨rfl, rfl⟩

end Page.CompiledUnder

/-- **When a page and those behind it compile**: the page does under the identifier that is
chosen for its base, and the others do with that one taken. -/
theorem compilePages_cons {taken : List (List Char)} {page : Page} {rest : List Page}
    {compiled : List CompiledPage}
    (h : compilePages catalogue profile taken (page :: rest) = .ok compiled) :
    ∃ base first more, page.deriveIdentifier = .ok base ∧
      page.CompiledUnder catalogue profile (uniqueIdentifier base taken) first ∧
      compilePages catalogue profile (uniqueIdentifier base taken :: taken) rest = .ok more ∧
      compiled = first :: more := by
  rw [compilePages] at h
  obtain ⟨base, hbase, h⟩ := bind_eq_ok.1 h
  obtain ⟨first, hfirst, h⟩ := bind_eq_ok.1 h
  obtain ⟨more, hmore, h⟩ := bind_eq_ok.1 h
  exact ⟨base, first, more, hbase, ⟨(Page.isIdentifier hbase).unique taken, hfirst⟩, hmore,
    (Except.ok.inj h).symm⟩

/-- Pages compile one by one, in order, under the identifiers that are chosen for their bases. -/
theorem exists_bases {taken : List (List Char)} {pages : List Page} {compiled : List CompiledPage}
    (h : compilePages catalogue profile taken pages = .ok compiled) :
    ∃ bases, pages.map Page.deriveIdentifier = bases.map .ok ∧
      compiled.map CompiledPage.identifier = (uniqueIdentifiers taken bases).map String.ofList ∧
      List.Forall₂ (fun page c => ∃ identifier, page.CompiledUnder catalogue profile identifier c)
        pages compiled := by
  induction pages generalizing taken compiled with
  | nil =>
    rw [← Except.ok.inj h]
    exact ⟨[], rfl, rfl, .nil⟩
  | cons page rest ih =>
    obtain ⟨base, first, more, hbase, hfirst, hmore, rfl⟩ := compilePages_cons h
    obtain ⟨bases, hbases, hids, hall⟩ := ih hmore
    refine ⟨base :: bases, ?_, ?_, .cons ⟨_, hfirst⟩ hall⟩
    · rw [List.map_cons, List.map_cons, hbase, hbases]
    · rw [List.map_cons, uniqueIdentifiers, List.map_cons, hids, hfirst.identifier_eq]

/-- Pages compile one by one, in order. -/
theorem forall₂_compilePages {taken : List (List Char)} {pages : List Page}
    {compiled : List CompiledPage} (h : compilePages catalogue profile taken pages = .ok compiled) :
    List.Forall₂ (fun page c => ∃ identifier, page.CompiledUnder catalogue profile identifier c)
      pages compiled := by
  obtain ⟨_, _, _, hall⟩ := exists_bases h
  exact hall

/-- Every result is that of a page. -/
theorem compiledUnder_of_mem {taken : List (List Char)} {pages : List Page}
    {compiled : List CompiledPage} (h : compilePages catalogue profile taken pages = .ok compiled)
    {c : CompiledPage} (hc : c ∈ compiled) :
    ∃ page ∈ pages, ∃ identifier, page.CompiledUnder catalogue profile identifier c := by
  have hall := forall₂_compilePages h
  clear h
  induction hall with
  | nil => exact absurd hc List.not_mem_nil
  | @cons page first rest more hfirst _ ih =>
    rcases List.mem_cons.1 hc with rfl | hc
    · exact ⟨page, by simp, hfirst⟩
    · obtain ⟨other, hother, hunder⟩ := ih hc
      exact ⟨other, by simp [hother], hunder⟩

/-- **No two pages have one identifier.** -/
theorem nodup_identifiers {taken : List (List Char)} {pages : List Page}
    {compiled : List CompiledPage} (h : compilePages catalogue profile taken pages = .ok compiled) :
    (compiled.map CompiledPage.identifier).Nodup := by
  obtain ⟨bases, _, hids, _⟩ := exists_bases h
  rw [hids]
  exact (nodup_uniqueIdentifiers taken bases).1.map fun _ _ => String.ofList_injective

/-- Pages with titles of text and usable ids compile in order, whatever is taken. -/
theorem compilePages_ok (hb : profile.IsBundled) {pages : List Page}
    (htitles : ∀ page ∈ pages, ∃ title, titleText page.settings.title = .ok title)
    (hids : ∀ page ∈ pages, ∀ node ∈ page.stored, node.form?.isSome) (taken : List (List Char)) :
    ∃ compiled, compilePages Bundled.catalogue profile taken pages = .ok compiled := by
  induction pages generalizing taken with
  | nil => exact ⟨[], rfl⟩
  | cons page rest ih =>
    rw [compilePages]
    refine bind_ok (map_ok (htitles page (by simp))) fun base => ?_
    refine bind_ok (Page.compileAs_ok hb (hids page (by simp)) _) fun first => ?_
    exact bind_ok (ih (fun other hother => htitles other (by simp [hother]))
      (fun other hother => hids other (by simp [hother])) _) fun more => ⟨first :: more, rfl⟩

/-- **A document with titles of text and usable ids compiles.** -/
theorem Document.compile_ok (hb : profile.IsBundled) {document : Document}
    (htitles : ∀ page ∈ document.pages, ∃ title, titleText page.settings.title = .ok title)
    (hids : ∀ page ∈ document.pages, ∀ node ∈ page.stored, node.form?.isSome) :
    ∃ pages, document.compile Bundled.catalogue profile = .ok pages :=
  compilePages_ok hb htitles hids []

/-! ## Pages with titles -/

/-- Pages have the given titles, one by one. -/
def HaveTitles (pages : List Page) (titles : List (List Char)) : Prop :=
  pages.map (fun page => titleText page.settings.title) = titles.map .ok

/-- The identifiers of pages with the given titles. -/
def pageIdentifiers (titles : List (List Char)) : List (List Char) :=
  uniqueIdentifiers [] (titles.map deriveIdentifier)

theorem take_pageIdentifiers (titles : List (List Char)) (n : Nat) :
    (pageIdentifiers titles).take n = pageIdentifiers (titles.take n) := by
  rw [pageIdentifiers, take_uniqueIdentifiers, ← List.map_take, pageIdentifiers]

namespace HaveTitles

variable {pages others : List Page} {titles otherTitles : List (List Char)}

theorem derive (h : HaveTitles pages titles) :
    pages.map Page.deriveIdentifier = (titles.map deriveIdentifier).map .ok := by
  have hmap := congrArg (List.map (Except.map deriveIdentifier)) h
  rw [List.map_map, List.map_map] at hmap
  rw [List.map_map]
  exact hmap

theorem exists_title (h : HaveTitles pages titles) :
    ∀ page ∈ pages, ∃ title, titleText page.settings.title = .ok title := by
  intro page hpage
  have hmem : titleText page.settings.title ∈ titles.map .ok := by
    rw [← h]
    exact List.mem_map_of_mem hpage
  obtain ⟨title, _, htitle⟩ := List.mem_map.1 hmem
  exact ⟨title, htitle.symm⟩

/-- Pages tell their titles. -/
theorem eq (h : HaveTitles pages titles) (h' : HaveTitles pages otherTitles) :
    titles = otherTitles :=
  List.map_injective_iff.2 (fun _ _ => Except.ok.inj) (h.symm.trans h')

theorem take (h : HaveTitles pages titles) (n : Nat) :
    HaveTitles (pages.take n) (titles.take n) := by
  rw [HaveTitles, List.map_take, h, List.map_take]

/-- A page tells the title in its place. -/
theorem getElem?_eq (h : HaveTitles pages titles) (h' : HaveTitles others otherTitles) {i : Nat}
    (hpage : others[i]? = pages[i]?) : otherTitles[i]? = titles[i]? := by
  have hmap : (otherTitles.map Except.ok)[i]? =
      (titles.map (Except.ok (ε := CompileFault)))[i]? := by
    rw [← h, ← h', List.getElem?_map, List.getElem?_map, hpage]
  rw [List.getElem?_map, List.getElem?_map] at hmap
  exact Option.map_injective (fun _ _ => Except.ok.inj) hmap

/-- **Pages compile by themselves**, each under the identifier of its place. -/
theorem compilePages_eq_mapM (h : HaveTitles pages titles) (taken : List (List Char)) :
    compilePages catalogue profile taken pages =
      (pages.zip (uniqueIdentifiers taken (titles.map deriveIdentifier))).mapM
        fun entry => entry.1.compileAs catalogue profile entry.2 := by
  induction pages generalizing titles taken with
  | nil => rfl
  | cons page rest ih =>
    cases titles with
    | nil => exact absurd h (List.cons_ne_nil _ _)
    | cons title more =>
      have hderive := (List.cons.inj h.derive).1
      rw [compilePages, hderive, List.map_cons, uniqueIdentifiers, List.zip_cons_cons,
        List.mapM_cons, ← ih (List.cons.inj h).2]
      rfl

variable {compiled otherCompiled : List CompiledPage}

theorem map_identifier (h : HaveTitles pages titles)
    (hpages : compilePages catalogue profile [] pages = .ok compiled) :
    compiled.map CompiledPage.identifier = (pageIdentifiers titles).map String.ofList := by
  obtain ⟨bases, hbases, hids, _⟩ := exists_bases hpages
  have heq : bases = titles.map deriveIdentifier :=
    List.map_injective_iff.2 (fun _ _ => Except.ok.inj) (hbases.symm.trans h.derive)
  rw [hids, heq, pageIdentifiers]

/-- **What a page compiles to depends on the page and on the titles in front of it.** -/
theorem getElem?_compiled_eq (h : HaveTitles pages titles) (h' : HaveTitles others otherTitles)
    (hpages : compilePages catalogue profile [] pages = .ok compiled)
    (hothers : compilePages catalogue profile [] others = .ok otherCompiled) {i : Nat}
    (hpage : others[i]? = pages[i]?) (hfront : otherTitles.take i = titles.take i) :
    otherCompiled[i]? = compiled[i]? := by
  have htitles : otherTitles.take (i + 1) = titles.take (i + 1) := by
    rw [List.take_add_one, List.take_add_one, hfront, h.getElem?_eq h' hpage]
  -- the identifiers up to a place are those of the titles up to it
  have hid : (pageIdentifiers otherTitles)[i]? = (pageIdentifiers titles)[i]? := by
    rw [← List.getElem?_take_of_lt (Nat.lt_succ_self i), take_pageIdentifiers, htitles,
      ← take_pageIdentifiers, List.getElem?_take_of_lt (Nat.lt_succ_self i)]
  rw [h.compilePages_eq_mapM] at hpages
  rw [h'.compilePages_eq_mapM] at hothers
  rw [getElem?_mapM hpages, getElem?_mapM hothers]
  rw [pageIdentifiers, pageIdentifiers] at hid
  rw [List.zip_eq_zipWith, List.zip_eq_zipWith, List.getElem?_zipWith, List.getElem?_zipWith,
    hpage, hid]

/-- Pages that start alike compile to files that start alike. -/
theorem take_compiled_eq (h : HaveTitles pages titles) (h' : HaveTitles others otherTitles)
    (hpages : compilePages catalogue profile [] pages = .ok compiled)
    (hothers : compilePages catalogue profile [] others = .ok otherCompiled) {n : Nat}
    (hfront : others.take n = pages.take n) : otherCompiled.take n = compiled.take n := by
  refine List.ext_getElem? fun i => ?_
  by_cases hi : i < n
  · have hpage : others[i]? = pages[i]? := by
      rw [← List.getElem?_take_of_lt hi, hfront, List.getElem?_take_of_lt hi]
    have hpast : others.take i = pages.take i := by
      have htake := congrArg (List.take i) hfront
      rwa [List.take_take, List.take_take, Nat.min_eq_left (Nat.le_of_lt hi)] at htake
    -- the pages in front are the same, so their titles are
    have htitles : otherTitles.take i = titles.take i := by
      have htaken := h'.take i
      rw [hpast] at htaken
      exact htaken.eq (h.take i)
    rw [List.getElem?_take_of_lt hi, List.getElem?_take_of_lt hi]
    exact h.getElem?_compiled_eq h' hpages hothers hpage htitles
  · rw [List.getElem?_take_eq_none (Nat.le_of_not_lt hi),
      List.getElem?_take_eq_none (Nat.le_of_not_lt hi)]

end HaveTitles

/-- **The identifiers of a document are well-formed, different and settled from the front.** Every
title derives an identifier, which derives itself. Each page has the base of its title or else the
base with the least free number, with the identifiers in front of it held, so no two are equal.
Each page compiles by itself under its identifier: what it compiles to is the same in every
document with the same titles in front of it, and documents that start alike compile to files that
start alike. -/
theorem Document.identifiers_settled {document : Document} {titles : List (List Char)}
    (h : HaveTitles document.pages titles) (catalogue : Catalogue) (profile : Profile) :
    (∀ title ∈ titles, IsIdentifier (deriveIdentifier title) ∧
        deriveIdentifier (deriveIdentifier title) = deriveIdentifier title) ∧
      (pageIdentifiers titles).length = titles.length ∧
      (pageIdentifiers titles).Nodup ∧
      (∀ i title id, titles[i]? = some title → (pageIdentifiers titles)[i]? = some id →
        IsIdentifier id ∧
          IsFirstFree (deriveIdentifier title) ((pageIdentifiers titles).take i) id) ∧
      document.compile catalogue profile =
        ((document.pages.zip (pageIdentifiers titles)).mapM fun entry =>
          entry.1.compileAs catalogue profile entry.2) ∧
      ∀ compiled, document.compile catalogue profile = .ok compiled →
        compiled.map CompiledPage.identifier = (pageIdentifiers titles).map String.ofList ∧
        ∀ (other : Document) (otherTitles : List (List Char)) (otherCompiled : List CompiledPage),
          HaveTitles other.pages otherTitles →
          other.compile catalogue profile = .ok otherCompiled →
          (∀ i, other.pages[i]? = document.pages[i]? → otherTitles.take i = titles.take i →
            otherCompiled[i]? = compiled[i]?) ∧
          ∀ n, other.pages.take n = document.pages.take n →
            otherCompiled.take n = compiled.take n := by
  have hbases : ∀ base ∈ titles.map deriveIdentifier, IsIdentifier base := by
    intro base hbase
    obtain ⟨title, _, rfl⟩ := List.mem_map.1 hbase
    exact isIdentifier_derive title
  refine ⟨fun title _ => ?_, ?_, (nodup_uniqueIdentifiers _ _).1, ?_, h.compilePages_eq_mapM [], ?_⟩
  · have hform := isIdentifier_derive title
    exact ⟨hform, hform.derive_eq⟩
  · rw [pageIdentifiers, length_uniqueIdentifiers, List.length_map]
  · intro i title id htitle hid
    refine ⟨isIdentifier_uniqueIdentifiers hbases id (List.mem_of_getElem? hid), ?_⟩
    have hbase : (titles.map deriveIdentifier)[i]? = some (deriveIdentifier title) := by
      rw [List.getElem?_map, htitle]
      rfl
    have hfirst := isFirstFree_of_getElem? hbase hid
    rwa [List.append_nil] at hfirst
  · intro compiled hpages
    refine ⟨h.map_identifier hpages, fun other otherTitles otherCompiled h' hothers => ⟨?_, ?_⟩⟩
    · exact fun i => h.getElem?_compiled_eq h' hpages hothers
    · exact fun n => h.take_compiled_eq h' hpages hothers

/-- Two pages, the second of which derives what the first would be with a number. -/
def twoCafes : Document where
  pages := [{ id := "a", settings := { title := .text "Café" } },
    { id := "b", settings := { title := .text "cafe 2" } }]
  nonempty := List.cons_ne_nil _ _

/-- The two pages and a third one, which derives what the first does. -/
def threeCafes : Document where
  pages := twoCafes.pages ++ [{ id := "c", settings := { title := .text "CAFE" } }]
  nonempty := by simp

/-- The number of the second page is its own, so the third one gets the next; the files of the two
pages in front are there without it. -/
theorem Document.identifiers_settled_threeCafes :
    ∃ pages fewer, threeCafes.compile Bundled.catalogue shadcnProfile = .ok pages ∧
      twoCafes.compile Bundled.catalogue shadcnProfile = .ok fewer ∧
      pages.map CompiledPage.identifier = ["cafe", "cafe_2", "cafe_3"] ∧
      fewer.take 2 = pages.take 2 := by
  have htitles : HaveTitles threeCafes.pages ["Café".toList, "cafe 2".toList, "CAFE".toList] := rfl
  have hids : pageIdentifiers ["Café".toList, "cafe 2".toList, "CAFE".toList] =
      ["cafe".toList, "cafe_2".toList, "cafe_3".toList] := by
    have hcafe : deriveIdentifier "Café".toList = "cafe".toList := by decide +kernel
    have hnumbered : deriveIdentifier "cafe 2".toList = "cafe_2".toList := by decide +kernel
    have hcapitals : deriveIdentifier "CAFE".toList = "cafe".toList := by decide +kernel
    have hthird : uniqueIdentifier "cafe".toList ["cafe_2".toList, "cafe".toList] =
        numbered "cafe".toList 3 := by
      refine (isFirstFree_uniqueIdentifier _ _).eq
        (.numbered (by decide) (by decide) (by decide) fun k hle hlt => ?_)
      rw [show k = 2 by omega]
      decide
    rw [pageIdentifiers, List.map_cons, List.map_cons, List.map_cons, List.map_nil, hcafe,
      hnumbered, hcapitals, uniqueIdentifiers, uniqueIdentifier, if_neg (by decide),
      uniqueIdentifiers, uniqueIdentifier, if_neg (by decide), uniqueIdentifiers, hthird]
    rfl
  have hfewerTitles : HaveTitles twoCafes.pages ["Café".toList, "cafe 2".toList] := rfl
  obtain ⟨pages, hpages⟩ := compile_ok shadcnProfile_isBundled htitles.exists_title (by decide)
  obtain ⟨fewer, hfewer⟩ :=
    compile_ok shadcnProfile_isBundled hfewerTitles.exists_title (by decide)
  obtain ⟨-, -, -, -, -, hsettled⟩ :=
    identifiers_settled htitles Bundled.catalogue shadcnProfile
  obtain ⟨hnames, hothers⟩ := hsettled pages hpages
  have hstart := (hothers twoCafes _ fewer hfewerTitles hfewer).2 2 rfl
  refine ⟨pages, fewer, hpages, hfewer, ?_, hstart⟩
  rw [hnames, hids]
  rfl

end Pagewright
