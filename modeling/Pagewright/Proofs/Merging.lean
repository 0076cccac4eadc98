import Pagewright.Proofs.Imports
import Pagewright.Proofs.Occurrences

/-!
# Merging imports is a union

Requests are merged in one pass, with a table that keeps for each module the names asked for and a
default (`Import.mergePass`). The pass arrives at one import for each module, with what all its
requests ask for: the order of the modules and of the names is that of their first places, and the
default is the first one that is given. What is covered already changes nothing, whether a type is
repeated or a new one asks for no more than others do (`Import.shown_merge_of_covered`).

An empty default is no default, and a merged import may have it where another one has none.
Imports are therefore compared as they are shown (`Import.shown`), which makes no difference for a
profile without empty defaults.
-/

namespace Pagewright

namespace Import

/-! ## One pass over requests -/

/-- What is kept for a module with one more request: every name at its first place, and the first
default that is not empty. -/
def keepRequest (kept : List String × Option String) (request : Import) :
    List String × Option String :=
  (request.names.foldl addNew kept.1,
    if kept.2.any fun name => !name.isEmpty then kept.2 else request.main)

/-- Merges requests one after the other. -/
def mergePass (requests : List Import) : List Import :=
  (requests.foldl (groupItem Import.source ([], none) keepRequest) []).map fun kept =>
    { source := kept.1, names := kept.2.1, main := kept.2.2 }

/-- The requests for a module. -/
def requestsFor (requests : List Import) (source : String) : List Import :=
  requests.filter fun request => request.source == source

theorem mem_requestsFor {requests : List Import} {source : String} {request : Import} :
    request ∈ requestsFor requests source ↔ request ∈ requests ∧ request.source = source := by
  simp [requestsFor]

theorem foldl_keepRequest (names : List String) (main : Option String) (own : List Import) :
    own.foldl keepRequest (firstOccurrences names, main) =
      (firstOccurrences (names ++ own.flatMap Import.names),
        own.foldl (fun main request =>
          if main.any fun name => !name.isEmpty then main else request.main) main) := by
  induction own generalizing names main with
  | nil => rw [List.flatMap_nil, List.append_nil]; rfl
  | cons request rest ih =>
    rw [List.foldl_cons, keepRequest, foldl_addNew, ih, List.flatMap_cons, List.append_assoc]
    rfl

/-- **The pass merges each module by itself.** -/
theorem mergePass_eq (requests : List Import) : mergePass requests = merge requests := by
  rw [mergePass, foldl_groupItem_nil, groups, List.map_map, merge_eq]
  refine List.map_congr_left fun source _ => ?_
  have hkept := foldl_keepRequest [] none (requestsFor requests source)
  rw [List.nil_append] at hkept
  show ({ source, names := (_ : List String × Option String).1, main := _ } : Import) = _
  exact congrArg (fun kept : List String × Option String =>
    ({ source, names := kept.1, main := kept.2 } : Import)) hkept

/-! ## Imports as they are shown -/

/-- The import with no default in place of an empty one. -/
def shown (i : Import) : Import := { i with main := i.main? }

theorem shown_eq_self {i : Import} (h : i.main ≠ some "") : i.shown = i := by
  have hmain : i.main? = i.main := by
    cases hm : i.main with
    | none => rw [main?, hm]; rfl
    | some name =>
      have hne : name.isEmpty = false := by
        simpa using fun heq : name = "" => h (heq ▸ hm)
      rw [main?, hm, Option.filter_some, hne]
      rfl
  rw [shown, hmain]

/-- An empty default is not written. -/
theorem statement_shown (i : Import) : i.shown.statement = i.statement := by
  have hmain : i.shown.main? = i.main? := by
    rw [shown, main?, main?, Option.filter_filter]
    simp only [Bool.and_self]
  rw [statement, statement, clauses, clauses, hmain]
  rfl

/-- **The default of a merged import is the first one that its requests give.** -/
theorem main?_merged (requests : List Import) (source : String) :
    (merged requests source).main? = (requestsFor requests source).findSome? main? := by
  have hfold : ∀ (own : List Import) (main : Option String),
      (own.foldl (fun main request =>
        if main.any fun name => !name.isEmpty then main else request.main) main).filter
          (fun name => !name.isEmpty) =
        (main.filter fun name => !name.isEmpty).or (own.findSome? main?) := by
    intro own
    induction own with
    | nil => intro main; rw [List.findSome?_nil, Option.or_none]; rfl
    | cons request rest ih =>
      intro main
      rw [List.foldl_cons, ih, List.findSome?_cons]
      cases hm : main.filter fun name => !name.isEmpty with
      | none =>
        have hany : (main.any fun name => !name.isEmpty) = false := by
          cases main with
          | none => rfl
          | some name => simpa [Option.filter_some] using hm
        rw [hany, if_neg Bool.false_ne_true, Option.none_or]
        cases hr : request.main? with
        | none => rw [main?] at hr; rw [hr, Option.none_or]
        | some name => rw [main?] at hr; rw [hr, Option.some_or]
      | some given =>
        obtain ⟨rfl, hne⟩ := Option.filter_eq_some_iff.1 hm
        rw [Option.any_some, hne, if_pos rfl, hm, Option.some_or, Option.some_or]
  exact (hfold _ none).trans (Option.none_or)

theorem shown_merge (requests : List Import) :
    (merge requests).map shown = (firstOccurrences (requests.map Import.source)).map fun source =>
      { source, names := firstOccurrences ((requestsFor requests source).flatMap Import.names),
        main := (requestsFor requests source).findSome? main? } := by
  rw [merge_eq, List.map_map]
  refine List.map_congr_left fun source _ => ?_
  rw [Function.comp_apply, shown, main?_merged]
  rfl

/-! ## Requests that are covered -/

/-- Imports cover a request: one of them is for its module and has its names, and its default if
it gives one. -/
def Covers (imports : List Import) (request : Import) : Prop :=
  ∃ i ∈ imports, i.source = request.source ∧ request.names ⊆ i.names ∧
    ∀ name, request.main? = some name → i.main? = some name

/-- What it takes for a request to be covered, in the requests that were merged. -/
theorem covers_merge_iff {requests : List Import} {request : Import} :
    Covers (merge requests) request ↔
      request.source ∈ requests.map Import.source ∧
      request.names ⊆ (requestsFor requests request.source).flatMap Import.names ∧
      ∀ name, request.main? = some name →
        (requestsFor requests request.source).findSome? main? = some name := by
  have hnames : ∀ source, (merged requests source).names =
      firstOccurrences ((requestsFor requests source).flatMap Import.names) := fun _ => rfl
  constructor
  · rintro ⟨i, hi, hsource, hsubset, hmain⟩
    rw [merge_eq] at hi
    obtain ⟨source, hmem, rfl⟩ := List.mem_map.1 hi
    obtain rfl : source = request.source := hsource
    refine ⟨mem_firstOccurrences.1 hmem, fun name hname => ?_, fun name hname => ?_⟩
    · have hkept := hsubset hname
      rwa [hnames, mem_firstOccurrences] at hkept
    · rw [← main?_merged]
      exact hmain name hname
  · rintro ⟨hsource, hsubset, hmain⟩
    refine ⟨merged requests request.source, ?_, rfl, fun name hname => ?_, fun name hname => ?_⟩
    · rw [merge_eq]
      exact List.mem_map_of_mem (mem_firstOccurrences.2 hsource)
    · rw [hnames, mem_firstOccurrences]
      exact hsubset hname
    · rw [main?_merged]
      exact hmain name hname

/-- **Covered requests change nothing**, wherever they come behind what covers them. -/
theorem shown_merge_of_covered {front more : List Import}
    (h : ∀ request ∈ more, Covers (merge front) request) (back : List Import) :
    (merge (front ++ (more ++ back))).map shown = (merge (front ++ back)).map shown := by
  have hcovered := fun request hrequest => covers_merge_iff.1 (h request hrequest)
  have hsources : more.map Import.source ⊆ front.map Import.source := by
    intro source hsource
    obtain ⟨request, hrequest, rfl⟩ := List.mem_map.1 hsource
    exact (hcovered request hrequest).1
  have hnames : ∀ source, (requestsFor more source).flatMap Import.names ⊆
      (requestsFor front source).flatMap Import.names := by
    intro source name hname
    obtain ⟨request, hrequest, hown⟩ := List.mem_flatMap.1 hname
    obtain ⟨hmem, rfl⟩ := mem_requestsFor.1 hrequest
    exact (hcovered request hmem).2.1 hown
  have hmain : ∀ source name, (requestsFor more source).findSome? main? = some name →
      (requestsFor front source).findSome? main? = some name := by
    intro source name hname
    obtain ⟨request, hrequest, hown⟩ := List.exists_of_findSome?_eq_some hname
    obtain ⟨hmem, rfl⟩ := mem_requestsFor.1 hrequest
    exact (hcovered request hmem).2.2 name hown
  have hsplit : ∀ (first second : List Import) source, requestsFor (first ++ second) source =
      requestsFor first source ++ requestsFor second source := fun _ _ _ => List.filter_append ..
  rw [shown_merge, shown_merge, List.map_append, List.map_append, List.map_append,
    firstOccurrences_append_of_subset hsources]
  refine List.map_congr_left fun source _ => ?_
  rw [hsplit, hsplit, hsplit, List.flatMap_append, List.flatMap_append, List.flatMap_append,
    firstOccurrences_append_of_subset (hnames source), List.findSome?_append,
    List.findSome?_append, List.findSome?_append]
  cases hm : (requestsFor more source).findSome? main? with
  | none => rw [Option.none_or]
  | some name => rw [hmain source name hm, Option.some_or, Option.some_or]

end Import

namespace Profile

variable {profile : Profile} {types : List String}

/-- No two imports of a profile for one module carry different defaults. -/
def OneDefault (profile : Profile) : Prop :=
  ∀ i ∈ profile.allImports, ∀ j ∈ profile.allImports, i.source = j.source →
    i.main? = none ∨ j.main? = none ∨ i.main? = j.main?

instance (profile : Profile) : Decidable profile.OneDefault :=
  inferInstanceAs (Decidable (∀ i ∈ profile.allImports, ∀ j ∈ profile.allImports,
    i.source = j.source → i.main? = none ∨ j.main? = none ∨ i.main? = j.main?))

/-- **A module has the default that a request for it gives.** -/
theorem OneDefault.findSome?_eq_some (h : profile.OneDefault) {source name : String} :
    (Import.requestsFor (profile.requests types) source).findSome? Import.main? = some name ↔
      ∃ request ∈ profile.requests types, request.source = source ∧
        request.main? = some name := by
  constructor
  · intro hname
    obtain ⟨request, hrequest, hname⟩ := List.exists_of_findSome?_eq_some hname
    obtain ⟨hmem, hsource⟩ := Import.mem_requestsFor.1 hrequest
    exact ⟨request, hmem, hsource, hname⟩
  · rintro ⟨request, hmem, rfl, hname⟩
    have hown : request ∈ Import.requestsFor (profile.requests types) request.source :=
      Import.mem_requestsFor.2 ⟨hmem, rfl⟩
    -- some request gives the first default, and no other one is given
    cases hfirst : (Import.requestsFor (profile.requests types) request.source).findSome?
        Import.main? with
    | none => exact absurd (List.findSome?_eq_none_iff.1 hfirst request hown) (by simp [hname])
    | some given =>
      obtain ⟨other, hother, hgiven⟩ := List.exists_of_findSome?_eq_some hfirst
      obtain ⟨hothermem, hsource⟩ := Import.mem_requestsFor.1 hother
      rcases h other (profile.requests_subset types hothermem) request
        (profile.requests_subset types hmem) hsource with hnone | hnone | heq
      · exact absurd (hnone.symm.trans hgiven) (by simp)
      · exact absurd (hnone.symm.trans hname) (by simp)
      · rw [← hgiven, heq, hname]

/-- The requests of a listed type are covered by the imports of the list. -/
theorem OneDefault.covers (h : profile.OneDefault) {type : String} (ht : type ∈ types) :
    ∀ request ∈ (profile.imports.lookup type).getD [],
      Import.Covers (profile.resolveImports types) request := by
  intro request hrequest
  have hmem : request ∈ profile.requests types :=
    List.mem_append_right _ (List.mem_flatMap.2 ⟨type, ht, hrequest⟩)
  have hown : request ∈ Import.requestsFor (profile.requests types) request.source :=
    Import.mem_requestsFor.2 ⟨hmem, rfl⟩
  refine Import.covers_merge_iff.2 ⟨List.mem_map_of_mem hmem, fun name hname => ?_,
    fun name hname => ?_⟩
  · exact List.mem_flatMap.2 ⟨request, hown, hname⟩
  · exact h.findSome?_eq_some.2 ⟨request, hmem, rfl, hname⟩

/-- Two lists of types come to the same imports, but for an empty default that one may have where
the other has none. -/
structure SameImports (profile : Profile) (types others : List String) : Prop where
  shown : (profile.resolveImports types).map Import.shown =
    (profile.resolveImports others).map Import.shown
  statements : (profile.resolveImports types).map Import.statement =
    (profile.resolveImports others).map Import.statement
  exact : (∀ i ∈ profile.allImports, i.main ≠ some "") →
    profile.resolveImports types = profile.resolveImports others

theorem sameImports_of_shown {others : List String}
    (h : (profile.resolveImports types).map Import.shown =
      (profile.resolveImports others).map Import.shown) : profile.SameImports types others := by
  refine ⟨h, ?_, fun hempty => ?_⟩
  · have hstatements := congrArg (List.map Import.statement) h
    simpa only [List.map_map, Function.comp_def, Import.statement_shown] using hstatements
  -- a default of a merged import is one of a request
  have hself : ∀ types, (profile.resolveImports types).map Import.shown =
      profile.resolveImports types := by
    intro types
    refine (List.map_congr_left fun i hi => ?_).trans (List.map_id _)
    rw [resolveImports_eq, Import.merge_eq] at hi
    obtain ⟨source, _, rfl⟩ := List.mem_map.1 hi
    refine Import.shown_eq_self fun hmain => ?_
    obtain ⟨request, hrequest, hown⟩ := Import.main_of_mergeMain hmain
    exact hempty request (profile.requests_subset types (List.mem_filter.1 hrequest).1) hown
  rw [← hself types, h, hself]

theorem sameImports_of_covered {front back : List String} {type : String}
    (h : ∀ request ∈ (profile.imports.lookup type).getD [],
      Import.Covers (profile.resolveImports front) request) :
    profile.SameImports (front ++ type :: back) (front ++ back) := by
  have hsplit : ∀ back, profile.requests (front ++ back) = profile.requests front ++
      back.flatMap fun type => (profile.imports.lookup type).getD [] := by
    intro back
    rw [requests, requests, List.flatMap_append, List.append_assoc]
  refine sameImports_of_shown ?_
  rw [resolveImports_eq, resolveImports_eq, hsplit, hsplit, List.flatMap_cons]
  exact Import.shown_merge_of_covered h _

/--
**Merged imports are the union of what is asked for**, for every profile that gives no module two
defaults, and for every list of types.

They are what one pass over the requests arrives at, the base ones first. There is one import for
each requested module, in the order of first requests. It has exactly the names that are requested
for its module, once each and in the order of first requests, and exactly the default that is. A
type that comes again changes nothing but empty defaults, and neither does a further type whose
imports are covered.
-/
theorem resolveImports_union (h : profile.OneDefault) (types : List String) :
    profile.resolveImports types = Import.mergePass (profile.requests types) ∧
      ByFirstPlace ((profile.requests types).map Import.source)
        ((profile.resolveImports types).map Import.source) ∧
      (∀ i ∈ profile.resolveImports types,
        ByFirstPlace (((profile.requests types).filter fun request =>
          request.source == i.source).flatMap Import.names) i.names ∧
        ∀ name, i.main? = some name ↔ ∃ request ∈ profile.requests types,
          request.source = i.source ∧ request.main? = some name) ∧
      (∀ front back, types = front ++ back → ∀ type ∈ front,
        profile.SameImports (front ++ type :: back) types) ∧
      ∀ type, (∀ request ∈ (profile.imports.lookup type).getD [],
          Import.Covers (profile.resolveImports types) request) →
        profile.SameImports (types ++ [type]) types := by
  refine ⟨(Import.mergePass_eq _).symm, ?_, fun i hi => ?_, ?_, fun type hcovered => ?_⟩
  · rw [resolveImports_eq, Import.source_merge]
    exact byFirstPlace_firstOccurrences _
  · rw [resolveImports_eq, Import.merge_eq] at hi
    obtain ⟨source, _, rfl⟩ := List.mem_map.1 hi
    refine ⟨byFirstPlace_firstOccurrences _, fun name => ?_⟩
    rw [Import.main?_merged]
    exact h.findSome?_eq_some
  · rintro front back rfl type ht
    exact sameImports_of_covered (h.covers ht)
  · have hsame : profile.SameImports (types ++ [type]) (types ++ []) :=
      sameImports_of_covered hcovered
    rwa [List.append_nil] at hsame

/-- A profile with two types that ask for names of the same modules, one of them for a default. -/
def overlapping : Profile where
  name := "charts"
  label := "Charts"
  extension := ".tsx"
  rules := Framework.shadcn.rules
  frame := Framework.shadcn.frame
  baseImports := [{ source := "react", main := some "React" }]
  imports := [
    ("Chart", [{ source := "charts", names := ["Chart", "Axis"] },
      { source := "react", names := ["useMemo"] }]),
    ("Plot", [{ source := "charts", names := ["Axis", "Grid"], main := some "Charts" },
      { source := "react", names := ["useId", "useMemo"] }])]

/-- Both modules are imported once, with all names, and a chart behind the plot changes nothing. -/
theorem resolveImports_union_overlapping :
    overlapping.OneDefault ∧
      overlapping.resolveImports ["Chart", "Plot"] =
        [{ source := "react", names := ["useMemo", "useId"], main := some "React" },
          { source := "charts", names := ["Chart", "Axis", "Grid"], main := some "Charts" }] ∧
      overlapping.resolveImports ["Chart", "Plot", "Chart"] =
        overlapping.resolveImports ["Chart", "Plot"] := by
  have hone : overlapping.OneDefault := by decide
  obtain ⟨hpass, _, _, hrepeat, _⟩ := resolveImports_union hone ["Chart", "Plot"]
  refine ⟨hone, hpass.trans (by decide), ?_⟩
  exact (hrepeat ["Chart", "Plot"] [] rfl "Chart" (by decide)).exact (by decide)

/-- A profile with an empty default for a module that is also imported without one. -/
def emptyDefault : Profile :=
  { overlapping with
    baseImports := []
    imports := [("Chart", [{ source := "charts", main := some "" }]),
      ("Plot", [{ source := "charts" }])] }

/-- A repeated type can bring an empty default back that the type behind it has taken away. -/
theorem resolveImports_emptyDefault :
    (∀ i ∈ emptyDefault.allImports, ∀ j ∈ emptyDefault.allImports, i.source = j.source →
        i.main = none ∨ j.main = none ∨ i.main = j.main) ∧
      emptyDefault.resolveImports ["Chart", "Plot"] = [{ source := "charts" }] ∧
      emptyDefault.resolveImports ["Chart", "Plot", "Chart"] =
        [{ source := "charts", main := some "" }] ∧
      emptyDefault.resolveImports ["Chart", "Plot", "Chart"] ≠
        emptyDefault.resolveImports ["Chart", "Plot"] := by
  decide

end Profile

end Pagewright
