import Pagewright.Command.Outcome
import Pagewright.Proofs.Bundles
import Pagewright.Proofs.Payloads
import Pagewright.Text.KnownObject

/-!
# What a check tells about a compilation

A check looks at the nodes of the walk, a compilation at the nodes that its expansion meets. A node
of the walk that the target cannot render is met and dropped, because the way to it leads through
sections only. So a check that ends with status one is right: a node is dropped. The other way
round it is right about the nodes that the walk visits (`check_faithful`). The walk visits one node
for each id, and a node that shares its id with one before it is dropped without a word, unless
all nodes of one id are alike. `twins` is a page on which a check ends well and a node is lost.
-/

namespace Pagewright

variable {profile : Profile}

/-! ## Nodes that are left out -/

/-- A bundled profile renders only known types. -/
theorem Profile.IsBundled.knows (hb : profile.IsBundled) {type : String}
    (h : profile.supports type = true) : Bundled.catalogue.knows type = true := by
  have hall : ∀ entry ∈ bundledRules, Bundled.catalogue.knows entry.1 = true := by decide
  rw [hb.supports] at h
  obtain ⟨component, hr⟩ := Option.isSome_iff_exists.1 h
  exact hall _ (mem_of_lookup hr)

namespace Page

variable {page : Page}

/-- A node of the walk that the profile cannot render is dropped. -/
theorem mem_dropped_of_mem_walk (hb : profile.IsBundled) {node : Node}
    (h : node ∈ page.walk Bundled.catalogue) (hs : profile.shows node = false) :
    node ∈ page.dropped Bundled.catalogue profile := by
  obtain ⟨above, htrail, _⟩ := exists_trail_of_mem_visitAll h
  exact (mem_dropped_iff Bundled.settled).2 ⟨hs, above, htrail.supported hb⟩

/-- On a page whose shared ids agree, a dropped node has one of its id in the walk, which the
profile cannot render either. -/
theorem exists_mem_walk_of_mem_dropped (ht : page.TextIds) (ha : page.SharedIdsAgree) {node : Node}
    (h : node ∈ page.dropped Bundled.catalogue profile) :
    ∃ met ∈ page.walk Bundled.catalogue, profile.shows met = false := by
  obtain ⟨hs, above, htrail⟩ := (mem_dropped_iff Bundled.settled).1 h
  have hway : Trail page Bundled.catalogue (fun _ => true) above node :=
    htrail.imp fun _ _ _ => rfl
  obtain ⟨met, hmet, hid⟩ := hway.met ht ha rfl
  have htype : met.type = node.type :=
    (ha met (visitAll_subset_stored hmet) node htrail.stored hid).1
  refine ⟨met, hmet, ?_⟩
  rwa [Profile.shows, htype]

end Page

namespace Command

/-! ## The findings of a check -/

/-- A check has a line for a node exactly when its profile cannot render it. -/
theorem problemLine?_eq_none (hb : profile.IsBundled) (page : Page) (node : Node) :
    problemLine? (some profile) page node = none ↔ profile.shows node = true := by
  unfold problemLine? Profile.shows
  cases hs : profile.supports node.type with
  | true => simp [hb.knows hs, hs]
  | false => cases Bundled.catalogue.knows node.type <;> simp [hs]

/-- A check finds nothing on a page exactly when its profile can render all nodes of the walk. -/
theorem problemLines_eq_nil (hb : profile.IsBundled) (page : Page) :
    problemLines (some profile) page = [] ↔
      ∀ node ∈ page.walk Bundled.catalogue, profile.shows node = true := by
  rw [problemLines, List.filterMap_eq_nil_iff]
  exact forall₂_congr fun node _ => problemLine?_eq_none hb page node

/-- A check finds something on a page exactly when a node of the walk is dropped. -/
theorem problemLines_ne_nil (hb : profile.IsBundled) (page : Page) :
    problemLines (some profile) page ≠ [] ↔
      ∃ node ∈ page.dropped Bundled.catalogue profile, node ∈ page.walk Bundled.catalogue := by
  rw [ne_eq, problemLines_eq_nil hb]
  constructor
  · intro h
    obtain ⟨node, hnode⟩ := not_forall.1 h
    obtain ⟨hwalk, hs⟩ := Classical.not_imp.1 hnode
    exact ⟨node, Page.mem_dropped_of_mem_walk hb hwalk (by simpa using hs), hwalk⟩
  · rintro ⟨node, hdropped, hwalk⟩ hall
    have hs := ((Page.mem_dropped_iff Bundled.settled).1 hdropped).1
    rw [hall node hwalk] at hs
    contradiction

/-! ## The ending of a check -/

/-- The outcome of a check of a loaded document against a bundled target. -/
theorem check_outcome {objects : Text.Objects} {read : Path → FileState} {path : Path}
    {document : Document} {name : String} (hp : (name, profile) ∈ bundledProfiles)
    (hload : loadDocument read path = .ok document) :
    (Command.check path (some name)).outcome objects read =
      checkOutcome document (some profile) := by
  have hprofile : profileOf? (some name) = .ok (some profile) := by
    simp only [bundledProfiles, List.mem_cons, Prod.mk.injEq, List.not_mem_nil, or_false] at hp
    rcases hp with ⟨rfl, rfl⟩ | ⟨rfl, rfl⟩ <;> rfl
  simp only [outcome, hload, hprofile, bind, Except.bind, pure, Except.pure]

/-- The pages of a loaded document have text ids and text titles. -/
theorem loadDocument_texts {read : Path → FileState} {path : Path} {document : Document}
    (h : loadDocument read path = .ok document) :
    ∀ page ∈ document.pages, page.TextIds ∧ ∃ title, page.settings.title = .text title := by
  rw [loadDocument, mapError_eq_ok] at h
  unfold Document.load at h
  split at h
  · cases h
  · cases h
  · cases h
  · obtain ⟨payload, _, h⟩ := bind_eq_ok.1 h
    rw [mapError_eq_ok] at h
    exact fun page hpage =>
      ⟨Document.ofPayload_textIds h page hpage, Document.ofPayload_titles h page hpage⟩

/-- A check that finds something on a page ends with status one. -/
theorem checkOutcome_of_problem {document : Document}
    (h : ∃ page ∈ document.pages, problemLines (some profile) page ≠ []) :
    (checkOutcome document (some profile)).ending = .status 1 := by
  have hany : (document.pages.any fun page => !(problemLines (some profile) page).isEmpty) =
      true := by
    obtain ⟨page, hpage, hne⟩ := h
    exact List.any_eq_true.2 ⟨page, hpage, by simpa using hne⟩
  simp only [checkOutcome, hany, if_true]

/-- A check that finds nothing comes to the count of the compiled pages. -/
theorem checkOutcome_of_no_problem (hb : profile.IsBundled) {document : Document}
    (htexts : ∀ page ∈ document.pages, page.TextIds ∧ ∃ title, page.settings.title = .text title)
    (h : ∀ page ∈ document.pages, problemLines (some profile) page = []) :
    checkOutcome document (some profile) =
      ⟨linesText (document.pages.flatMap orphanLines) ++
        "ok: " ++ toString document.pages.length ++ " page(s)\n", .status 0⟩ := by
  have hany : (document.pages.any fun page => !(problemLines (some profile) page).isEmpty) =
      false := by
    refine List.any_eq_false.2 fun page hpage => ?_
    rw [h page hpage]
    exact Bool.false_ne_true
  have hlines : (document.pages.flatMap fun page =>
      orphanLines page ++ problemLines (some profile) page) =
      document.pages.flatMap orphanLines :=
    List.flatMap_congr fun page hpage => by rw [h page hpage, List.append_nil]
  obtain ⟨pages, hpages, hall⟩ := Document.compile_of_texts hb htexts
  have hlength : document.pages.length = pages.length := hall.length_eq
  simp only [checkOutcome, hany, Bool.false_eq_true, if_false, Option.getD_some, hpages, hlines,
    hlength]

/--
**What a check tells about a compilation**, for every document that can be loaded.

It ends with status one exactly when a page drops a node that its walk visits. Otherwise the
document compiles, and the check prints the orphaned zones and that all is well. When the nodes of
one id are alike on every page, it ends with status one exactly when a node is dropped at all.
-/
theorem check_faithful (objects : Text.Objects) {read : Path → FileState} {path : Path}
    {document : Document} {name : String} (hp : (name, profile) ∈ bundledProfiles)
    (hload : loadDocument read path = .ok document) :
    (((Command.check path (some name)).outcome objects read).ending = .status 1 ↔
        ∃ page ∈ document.pages, ∃ node ∈ page.dropped Bundled.catalogue profile,
          node ∈ page.walk Bundled.catalogue) ∧
      (((Command.check path (some name)).outcome objects read).ending ≠ .status 1 →
        (Command.check path (some name)).outcome objects read =
          ⟨linesText (document.pages.flatMap orphanLines) ++
            "ok: " ++ toString document.pages.length ++ " page(s)\n", .status 0⟩) ∧
      ((∀ page ∈ document.pages, page.SharedIdsAgree) →
        (((Command.check path (some name)).outcome objects read).ending = .status 1 ↔
          ∃ page ∈ document.pages, page.dropped Bundled.catalogue profile ≠ [])) := by
  have hb : profile.IsBundled := ⟨name, hp⟩
  have htexts := loadDocument_texts hload
  -- what decides the ending is whether there is a line for a node
  have hfound : (∃ page ∈ document.pages, problemLines (some profile) page ≠ []) ↔
      ∃ page ∈ document.pages, ∃ node ∈ page.dropped Bundled.catalogue profile,
        node ∈ page.walk Bundled.catalogue :=
    exists_congr fun page => and_congr_right fun _ => problemLines_ne_nil hb page
  have hnone : ¬(∃ page ∈ document.pages, problemLines (some profile) page ≠ []) →
      checkOutcome document (some profile) =
        ⟨linesText (document.pages.flatMap orphanLines) ++
          "ok: " ++ toString document.pages.length ++ " page(s)\n", .status 0⟩ := by
    intro h
    refine checkOutcome_of_no_problem hb htexts fun page hpage => ?_
    by_contra hne
    exact h ⟨page, hpage, hne⟩
  have hstatus : (checkOutcome document (some profile)).ending = .status 1 ↔
      ∃ page ∈ document.pages, problemLines (some profile) page ≠ [] := by
    constructor
    · intro hone
      by_contra h
      rw [hnone h] at hone
      cases hone
    · exact checkOutcome_of_problem
  rw [check_outcome hp hload]
  refine ⟨hstatus.trans hfound, fun hne => hnone fun h => hne (hstatus.2 h), fun hagree => ?_⟩
  rw [hstatus.trans hfound]
  constructor
  · rintro ⟨page, hpage, node, hdropped, _⟩
    exact ⟨page, hpage, List.ne_nil_of_mem hdropped⟩
  · rintro ⟨page, hpage, hne⟩
    obtain ⟨node, hdropped⟩ := List.exists_mem_of_ne_nil _ hne
    -- a node of the same id stands in the walk, and it is dropped as well
    obtain ⟨met, hmet, hs⟩ :=
      Page.exists_mem_walk_of_mem_dropped (htexts page hpage).1 (hagree page hpage) hdropped
    exact ⟨page, hpage, met, Page.mem_dropped_of_mem_walk hb hmet hs, hmet⟩

/-- A node of an unknown type. -/
def stray : Node := { id := .text "x", type := "Hero", serial := 1 }

/-- A badge of the same id. -/
def twinBadge : Node where
  id := .text "x"
  type := "Badge"
  props := Bundled.catalogue.resolve "Badge" []

/-- A page with the stray node behind the badge. -/
def twinPage : Page where
  id := "page-0"
  content := [twinBadge, stray]

/-- A document of that page. -/
def twins : Document := ⟨[twinPage], List.cons_ne_nil _ _⟩

/-- The text of a file that holds the document. -/
def twinText : String :=
  "[\x7b\"content\":[\x7b\"type\":\"Badge\",\"id\":\"x\"\x7d," ++
    "\x7b\"type\":\"Hero\",\"id\":\"x\"\x7d]\x7d]"

/-- A node that gives its type and its id alone. -/
def bareNode (type id : String) : Value :=
  .map [(.text "type", .text type), (.text "id", .text id)]

/-- The value that the text writes. -/
def twinPayload : Value :=
  .list [.map [(.text "content", .list [bareNode "Badge" "x", bareNode "Hero" "x"])]]

/-- The type and the id of a bare node. -/
def bareNode? : Value → Option (String × String)
  | .map [(.text "type", .text type), (.text "id", .text id)] => some (type, id)
  | _ => none

/-- The bare nodes of a page that gives them alone. -/
def bareNodes? : Value → Option (List (String × String))
  | .list [.map [(.text "content", .list nodes)]] => nodes.mapM bareNode?
  | _ => none

theorem eq_of_bareNode? {v : Value} {node : String × String} (h : bareNode? v = some node) :
    v = bareNode node.1 node.2 := by
  unfold bareNode? at h
  split at h
  · cases h
    rfl
  · cases h

theorem eq_of_bareNodes? {v : Value} {nodes : List (String × String)}
    (h : bareNodes? v = some nodes) :
    v = .list [.map [(.text "content", .list (nodes.map fun node => bareNode node.1 node.2))]] := by
  unfold bareNodes? at h
  split at h
  · next items =>
    have hitems : items = nodes.map fun node => bareNode node.1 node.2 := by
      induction items generalizing nodes with
      | nil =>
        cases h
        rfl
      | cons item rest ih =>
        simp only [List.mapM_cons, Option.bind_eq_bind, Option.bind_eq_some_iff] at h
        obtain ⟨node, hnode, others, hothers, heq⟩ := h
        cases heq
        rw [List.map_cons, ← ih hothers, ← eq_of_bareNode? hnode]
    rw [hitems]
  · cases h

/-- The file that holds the document. -/
def twinFile (_ : Path) : FileState := .bytes (Json.ascii twinText)

theorem loadDocument_twinFile : loadDocument twinFile (.ofText "site.json") = .ok twins := by
  have hnodes : (fileContent (.ofText "site.json") (Json.ascii twinText)).toOption.bind
      bareNodes? = some [("Badge", "x"), ("Hero", "x")] := by decide +kernel
  have hcontent : fileContent (.ofText "site.json") (Json.ascii twinText) = .ok twinPayload := by
    obtain ⟨value, hvalue, hbare⟩ := Option.bind_eq_some_iff.1 hnodes
    rw [toOption_eq_some.1 hvalue, eq_of_bareNodes? hbare]
    rfl
  have hdocument : Document.ofPayload Bundled.catalogue twinPayload = .ok twins := rfl
  have hstate : twinFile (.ofText "site.json") = .bytes (Json.ascii twinText) := rfl
  rw [loadDocument, hstate, mapError_eq_ok]
  exact bind_eq_ok.2 ⟨twinPayload, hcontent, mapError_eq_ok.2 hdocument⟩

/-- The stray node is dropped, and the check ends with status zero. -/
theorem check_faithful_twins :
    ((Command.check (.ofText "site.json") (some "shadcn")).outcome .known twinFile).ending =
        .status 0 ∧
      stray ∈ twinPage.dropped Bundled.catalogue shadcnProfile := by
  have hp : ("shadcn", shadcnProfile) ∈ bundledProfiles := List.mem_cons_self ..
  obtain ⟨hstatus, hwell, _⟩ := check_faithful .known hp loadDocument_twinFile
  have hwalk : twinPage.walk Bundled.catalogue = [twinBadge] := by
    have hzones : twinPage.children Bundled.catalogue twinBadge = [] := rfl
    have hbadge : twinBadge.form? = some (.text "x") := rfl
    have hstray : stray.form? = some (.text "x") := rfl
    show twinPage.visit Bundled.catalogue _ [.text "x", .text "x"] [twinBadge, stray] = _
    -- the badge meets the id, so the stray node behind it is passed over
    rw [Page.visit_enter hbadge (by decide) rfl, hzones, List.nil_append,
      Page.visit_pass hstray (by decide), Page.visit]
  have hone : ((Command.check (.ofText "site.json") (some "shadcn")).outcome .known
      twinFile).ending ≠ .status 1 := by
    intro h
    obtain ⟨page, hpage, node, hdropped, hmet⟩ := hstatus.1 h
    rw [List.mem_singleton.1 hpage] at hdropped hmet
    rw [hwalk, List.mem_singleton] at hmet
    have hs := ((Page.mem_dropped_iff Bundled.settled).1 hdropped).1
    rw [hmet] at hs
    exact absurd hs (by decide)
  have hstray : stray ∈ twinPage.content := List.mem_cons_of_mem _ (List.mem_cons_self ..)
  refine ⟨?_, (Page.mem_dropped_iff Bundled.settled).2 ⟨rfl, [], .top hstray⟩⟩
  rw [hwell hone]

end Command

end Pagewright
