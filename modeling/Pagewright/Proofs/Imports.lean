import Pagewright.Profile.Basic

/-!
# What merged imports bind

Merging keeps one import for each module, so the names of a file come out of all requests of a
module together. Nothing is lost on the way and nothing is made up: a requested name is bound
(`bound_of_requested`), and a bound name was requested for the same module
(`request_of_binding`).

A name is bound only once if it belongs to one module and is not a default there and a named
binding elsewhere (`nodup_merge`). These are conditions on single pairs of requests, so the tables
of a profile can be checked for all pages at once.
-/

namespace Pagewright

namespace Import

/-- The default of merged requests is the default of one of them. -/
theorem main_of_mergeMain {requests : List Import} {name : String}
    (h : mergeMain requests = some name) : ∃ request ∈ requests, request.main = some name := by
  have hfold : ∀ (rest : List Import) (main : Option String),
      rest.foldl (fun main request =>
        if main.any (fun name => !name.isEmpty) then main else request.main) main = some name →
      main = some name ∨ ∃ request ∈ rest, request.main = some name := by
    intro rest
    induction rest with
    | nil => exact fun main h => Or.inl h
    | cons first rest ih =>
      intro main h
      rcases ih _ h with hfirst | ⟨request, hrequest, hmain⟩
      · dsimp only at hfirst
        split at hfirst
        · exact Or.inl hfirst
        · exact Or.inr ⟨first, by simp, hfirst⟩
      · exact Or.inr ⟨request, by simp [hrequest], hmain⟩
  exact (hfold requests none h).resolve_left (by simp)

/-- **A requested name is bound.** -/
theorem bound_of_requested {requests : List Import} {request : Import} {name : String}
    (hr : request ∈ requests) (hn : name ∈ request.names) :
    name ∈ (merge requests).flatMap bindings := by
  refine List.mem_flatMap.2 ⟨_, List.mem_map.2 ⟨request.source,
    mem_firstOccurrences.2 (List.mem_map.2 ⟨request, hr, rfl⟩), rfl⟩, ?_⟩
  refine List.mem_append_right _ (mem_firstOccurrences.2 (List.mem_flatMap.2 ⟨request, ?_, hn⟩))
  exact List.mem_filter.2 ⟨hr, by simp⟩

/-- What the requests of one module are merged into. -/
def merged (requests : List Import) (source : String) : Import :=
  let own := requests.filter fun request => request.source == source
  { source, names := firstOccurrences (own.flatMap Import.names), main := mergeMain own }

theorem merge_eq (requests : List Import) :
    merge requests = (firstOccurrences (requests.map Import.source)).map (merged requests) := rfl

theorem source_merge (requests : List Import) :
    (merge requests).map Import.source = firstOccurrences (requests.map Import.source) := by
  rw [merge_eq, List.map_map]
  exact List.map_id _

variable {requests : List Import} {source name : String}

theorem request_of_main (h : name ∈ (merged requests source).main?) :
    ∃ request ∈ requests, request.source = source ∧ name ∈ request.main? := by
  obtain ⟨hmain, hname⟩ := Option.filter_eq_some_iff.1 h
  obtain ⟨request, hrequest, hown⟩ := main_of_mergeMain hmain
  obtain ⟨hmem, hsource⟩ := List.mem_filter.1 hrequest
  exact ⟨request, hmem, beq_iff_eq.1 hsource, Option.filter_eq_some_iff.2 ⟨hown, hname⟩⟩

theorem request_of_name (h : name ∈ (merged requests source).names) :
    ∃ request ∈ requests, request.source = source ∧ name ∈ request.names := by
  obtain ⟨request, hrequest, hname⟩ := List.mem_flatMap.1 (mem_firstOccurrences.1 h)
  obtain ⟨hmem, hsource⟩ := List.mem_filter.1 hrequest
  exact ⟨request, hmem, beq_iff_eq.1 hsource, hname⟩

/-- **A bound name was requested**, for the module that binds it. -/
theorem request_of_binding (h : name ∈ (merged requests source).bindings) :
    ∃ request ∈ requests, request.source = source ∧ name ∈ request.bindings := by
  rcases List.mem_append.1 h with h | h
  · obtain ⟨request, hmem, hsource, hmain⟩ := request_of_main (Option.mem_toList.1 h)
    exact ⟨request, hmem, hsource, List.mem_append_left _ (Option.mem_toList.2 hmain)⟩
  · obtain ⟨request, hmem, hsource, hname⟩ := request_of_name h
    exact ⟨request, hmem, hsource, List.mem_append_right _ hname⟩

theorem requested_of_bound (h : name ∈ (merge requests).flatMap bindings) :
    ∃ request ∈ requests, name ∈ request.bindings := by
  obtain ⟨_, hi, h⟩ := List.mem_flatMap.1 h
  rw [merge_eq] at hi
  obtain ⟨source, _, rfl⟩ := List.mem_map.1 hi
  obtain ⟨request, hmem, _, hname⟩ := request_of_binding h
  exact ⟨request, hmem, hname⟩

/-! ## Names that are bound once -/

/-- Two requests do not fight for a name: they ask one module for it, and in the same way. -/
structure Agrees (i j : Import) : Prop where
  source : ∀ name ∈ i.bindings, name ∈ j.bindings → i.source = j.source
  main : ∀ name ∈ i.main?, name ∉ j.names

instance (i j : Import) : Decidable (Agrees i j) :=
  decidable_of_iff ((∀ name ∈ i.bindings, name ∈ j.bindings → i.source = j.source) ∧
    ∀ name ∈ i.main?.toList, name ∉ j.names)
    ⟨fun h => ⟨h.1, fun name hname => h.2 name (Option.mem_toList.2 hname)⟩,
      fun h => ⟨h.source, fun name hname => h.main name (Option.mem_toList.1 hname)⟩⟩

/-- **Merged imports bind no name twice**, if their requests agree. -/
theorem nodup_merge (h : ∀ i ∈ requests, ∀ j ∈ requests, Agrees i j) :
    ((merge requests).flatMap bindings).Nodup := by
  rw [merge_eq, List.flatMap_map, List.Nodup, List.pairwise_flatMap]
  constructor
  · -- within one import: a default is no named binding
    intro source _
    refine List.pairwise_append.2 ⟨?_, nodup_firstOccurrences _, ?_⟩
    · cases (merged requests source).main? with
      | none => exact List.Pairwise.nil
      | some name => exact List.pairwise_singleton _ _
    · rintro name hmain _ hname rfl
      obtain ⟨i, hi, _, hmain⟩ := request_of_main (Option.mem_toList.1 hmain)
      obtain ⟨j, hj, _, hname⟩ := request_of_name hname
      exact (h i hi j hj).main name hmain hname
  · -- between two imports: they are for different modules
    refine (nodup_firstOccurrences _).imp fun {source other} hne => ?_
    rintro name hfirst _ hsecond rfl
    obtain ⟨i, hi, rfl, hown⟩ := request_of_binding hfirst
    obtain ⟨j, hj, rfl, hother⟩ := request_of_binding hsecond
    exact hne ((h i hi j hj).source name hown hother)

end Import

namespace Profile

variable {profile : Profile} {types : List String} {name : String}

/-- The names that the imports of a page bind if it uses the given types. -/
def boundNames (profile : Profile) (types : List String) : List String :=
  (profile.resolveImports types).flatMap Import.bindings

theorem bound_of_import {type : String} {imports : List Import} {i : Import} (ht : type ∈ types)
    (hl : profile.imports.lookup type = some imports) (hi : i ∈ imports) (hn : name ∈ i.names) :
    name ∈ profile.boundNames types := by
  refine Import.bound_of_requested (List.mem_append_right _ ?_) hn
  exact List.mem_flatMap.2 ⟨type, ht, by rw [hl]; exact hi⟩

theorem import_of_bound (h : name ∈ profile.boundNames types) :
    (∃ i ∈ profile.baseImports, name ∈ i.bindings) ∨
      ∃ type ∈ types, ∃ entry ∈ profile.imports, entry.1 = type ∧
        ∃ i ∈ entry.2, name ∈ i.bindings := by
  obtain ⟨i, hi, hname⟩ := Import.requested_of_bound h
  rcases List.mem_append.1 hi with hi | hi
  · exact Or.inl ⟨i, hi, hname⟩
  · obtain ⟨type, ht, hi⟩ := List.mem_flatMap.1 hi
    cases hl : profile.imports.lookup type with
    | none => simp [hl] at hi
    | some imports =>
      rw [hl] at hi
      exact Or.inr ⟨type, ht, _, mem_of_lookup hl, rfl, i, hi, hname⟩

/-- What a profile can ask to import. -/
def allImports (profile : Profile) : List Import :=
  profile.baseImports ++ profile.imports.flatMap Prod.snd

/-- What a page asks to import. -/
def requests (profile : Profile) (types : List String) : List Import :=
  profile.baseImports ++ types.flatMap fun type => (profile.imports.lookup type).getD []

theorem resolveImports_eq (profile : Profile) (types : List String) :
    profile.resolveImports types = Import.merge (profile.requests types) := rfl

theorem requests_subset (profile : Profile) (types : List String) :
    profile.requests types ⊆ profile.allImports := by
  intro i hi
  rcases List.mem_append.1 hi with hi | hi
  · exact List.mem_append_left _ hi
  · obtain ⟨type, _, hi⟩ := List.mem_flatMap.1 hi
    cases hl : profile.imports.lookup type with
    | none =>
      rw [hl] at hi
      exact absurd hi List.not_mem_nil
    | some imports =>
      rw [hl] at hi
      exact List.mem_append_right _ (List.mem_flatMap.2 ⟨_, mem_of_lookup hl, hi⟩)

/-- A name that a page binds is one that the profile can ask for. -/
theorem exists_import_of_bound (h : name ∈ profile.boundNames types) :
    ∃ i ∈ profile.allImports, name ∈ i.bindings := by
  obtain ⟨i, hi, hname⟩ := Import.requested_of_bound h
  exact ⟨i, profile.requests_subset types hi, hname⟩

/-- A page binds no name twice, if all that the profile can ask for agrees. -/
theorem nodup_boundNames
    (h : ∀ i ∈ profile.allImports, ∀ j ∈ profile.allImports, Import.Agrees i j)
    (types : List String) : (profile.boundNames types).Nodup := by
  have hsubset := profile.requests_subset types
  exact Import.nodup_merge fun i hi j hj => h i (hsubset hi) j (hsubset hj)

end Profile

end Pagewright
