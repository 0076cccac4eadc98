import Pagewright.Distinct

/-!
# Collecting once, in the order of first places

Types, modules, names and dependencies are collected in loops: a member that is met again is left
out (`addNew`), and items with a key are gathered in a table with one group for each key
(`groupItem`). What such a loop arrives at is said without it. The members stand in the order of
their first places (`ByFirstPlace`), and a group is what the items of its key come to
(`foldl_groupItem`). Loops that feed each other compose, since leaving out repetitions early
changes nothing later on (`firstOccurrences_flatMap`).
-/

namespace Pagewright

variable {α β : Type} [DecidableEq α] [DecidableEq β]

/-- The second list has the members of the first one, once each, in the order of their first
places there. -/
structure ByFirstPlace (met members : List α) : Prop where
  mem_iff : ∀ a, a ∈ members ↔ a ∈ met
  ordered : members.Pairwise fun a b => met.idxOf a < met.idxOf b

theorem ByFirstPlace.nodup {met members : List α} (h : ByFirstPlace met members) :
    members.Nodup :=
  h.ordered.imp fun hlt heq => absurd (heq ▸ hlt) (Nat.lt_irrefl _)

/-- **Keeping first occurrences keeps the order of first places.** -/
theorem byFirstPlace_firstOccurrences (met : List α) :
    ByFirstPlace met (firstOccurrences met) := by
  refine ⟨fun a => mem_firstOccurrences, ?_⟩
  induction met with
  | nil => exact List.Pairwise.nil
  | cons a rest ih =>
    have hbehind : ∀ b, b ≠ a → (a :: rest).idxOf b = rest.idxOf b + 1 :=
      fun b hb => by simp [List.idxOf_cons, beq_eq_false_iff_ne.2 hb.symm]
    have hother : ∀ b ∈ (firstOccurrences rest).filter (· ≠ a), b ≠ a :=
      fun b hb => of_decide_eq_true (List.mem_filter.1 hb).2
    refine List.pairwise_cons.2 ⟨fun b hb => ?_, ?_⟩
    · rw [List.idxOf_cons_self, hbehind b (hother b hb)]
      exact Nat.succ_pos _
    · refine (ih.filter _).imp_of_mem fun {b c} hb hc hlt => ?_
      rw [hbehind b (hother b hb), hbehind c (hother c hc)]
      exact Nat.succ_lt_succ hlt

/-! ## Leaving out repetitions -/

/-- Adds a member to a list that does not have it. -/
def addNew (found : List α) (a : α) : List α := if a ∈ found then found else found ++ [a]

theorem firstOccurrences_append (front back : List α) :
    firstOccurrences (front ++ back) =
      firstOccurrences front ++ (firstOccurrences back).filter (· ∉ front) := by
  induction front with
  | nil => exact (List.filter_eq_self.2 fun a _ => by simp).symm
  | cons a rest ih =>
    rw [List.cons_append, firstOccurrences, firstOccurrences, ih, List.filter_append,
      List.filter_filter, List.cons_append]
    refine congrArg _ (congrArg _ (List.filter_congr fun b _ => ?_))
    simp [not_or]

/-- One more member is added if it is new. -/
theorem firstOccurrences_concat (met : List α) (a : α) :
    firstOccurrences (met ++ [a]) = addNew (firstOccurrences met) a := by
  rw [firstOccurrences_append, addNew]
  by_cases h : a ∈ met <;> simp [firstOccurrences, h]

/-- **A loop that adds what is new keeps first occurrences.** -/
theorem foldl_addNew (met more : List α) :
    more.foldl addNew (firstOccurrences met) = firstOccurrences (met ++ more) := by
  induction more generalizing met with
  | nil => rw [List.foldl_nil, List.append_nil]
  | cons a rest ih =>
    rw [List.foldl_cons, ← firstOccurrences_concat, ih, List.append_assoc, List.singleton_append]

theorem foldl_addNew_nil (met : List α) : met.foldl addNew [] = firstOccurrences met :=
  foldl_addNew [] met

theorem filter_firstOccurrences (p : α → Bool) (met : List α) :
    (firstOccurrences met).filter p = firstOccurrences (met.filter p) := by
  induction met with
  | nil => rfl
  | cons a rest ih =>
    have hswap : ((firstOccurrences rest).filter (· ≠ a)).filter p =
        ((firstOccurrences rest).filter p).filter (· ≠ a) := by
      rw [List.filter_filter, List.filter_filter]
      exact List.filter_congr fun b _ => Bool.and_comm ..
    rw [firstOccurrences]
    by_cases h : p a = true
    · rw [List.filter_cons_of_pos h, List.filter_cons_of_pos h, firstOccurrences, hswap, ih]
    · -- what is wanted differs from the first member anyhow
      have hall : ∀ b ∈ (firstOccurrences rest).filter p, decide (b ≠ a) = true :=
        fun b hb => decide_eq_true fun heq => h (heq ▸ (List.mem_filter.1 hb).2)
      rw [List.filter_cons_of_neg h, List.filter_cons_of_neg h, hswap,
        List.filter_eq_self.2 hall, ih]

/-- **Leaving out repetitions before each member is replaced** changes nothing afterwards. -/
theorem firstOccurrences_flatMap (f : α → List β) (met : List α) :
    firstOccurrences ((firstOccurrences met).flatMap f) = firstOccurrences (met.flatMap f) := by
  induction met with
  | nil => rfl
  | cons a rest ih =>
    have hothers : (((firstOccurrences rest).filter (· ≠ a)).flatMap f).filter (· ∉ f a) =
        ((firstOccurrences rest).flatMap f).filter (· ∉ f a) := by
      induction firstOccurrences rest with
      | nil => rfl
      | cons b more ihmore =>
        by_cases h : b = a
        · have hnone : (f b).filter (· ∉ f a) = [] := by simp [h]
          rw [List.filter_cons_of_neg (by simp [h]), List.flatMap_cons, List.filter_append, hnone,
            List.nil_append, ihmore]
        · rw [List.filter_cons_of_pos (by simp [h]), List.flatMap_cons, List.flatMap_cons,
            List.filter_append, List.filter_append, ihmore]
    rw [firstOccurrences, List.flatMap_cons, List.flatMap_cons, firstOccurrences_append,
      firstOccurrences_append, filter_firstOccurrences (· ∉ f a), hothers,
      ← filter_firstOccurrences, ih]

theorem firstOccurrences_map (f : α → β) (met : List α) :
    firstOccurrences ((firstOccurrences met).map f) = firstOccurrences (met.map f) := by
  rw [List.map_eq_flatMap, List.map_eq_flatMap, firstOccurrences_flatMap]

/-- Members that were met before add nothing, wherever they come. -/
theorem firstOccurrences_append_of_subset {front more : List α} (h : more ⊆ front)
    (back : List α) : firstOccurrences (front ++ (more ++ back)) =
      firstOccurrences (front ++ back) := by
  have hnone : (firstOccurrences more).filter (· ∉ front) = [] := by
    rw [List.filter_eq_nil_iff]
    intro a ha
    simpa using h (mem_firstOccurrences.1 ha)
  rw [← List.append_assoc, firstOccurrences_append, firstOccurrences_append, hnone,
    List.append_nil, firstOccurrences_append]
  refine congrArg _ (List.filter_congr fun a _ => ?_)
  simp only [List.mem_append, decide_eq_decide]
  exact not_congr ⟨fun ha => ha.elim id fun ha => h ha, Or.inl⟩

/-! ## Grouping by a key -/

section Groups

variable {ι κ γ : Type} [DecidableEq κ] (key : ι → κ) (empty : γ) (take : γ → ι → γ)

/-- The table with one more item: the group of its key is opened at the end if it is not there,
and takes the item in. -/
def groupItem (table : List (κ × γ)) (item : ι) : List (κ × γ) :=
  let opened :=
    if key item ∈ table.map Prod.fst then table else table ++ [(key item, empty)]
  opened.map fun group => if group.1 = key item then (group.1, take group.2 item) else group

/-- The groups of items: one for each key, by first places, of what the items of the key come
to. -/
def groups (items : List ι) : List (κ × γ) :=
  (firstOccurrences (items.map key)).map fun k =>
    (k, (items.filter fun item => key item = k).foldl take empty)

theorem map_fst_groups (items : List ι) :
    (groups key empty take items).map Prod.fst = firstOccurrences (items.map key) := by
  rw [groups, List.map_map]
  exact List.map_id _

/-- One more item goes into its group, and no other group changes. -/
theorem groups_concat (items : List ι) (item : ι) :
    groups key empty take (items ++ [item]) =
      groupItem key empty take (groups key empty take items) item := by
  have hgroup : ∀ k, ((items ++ [item]).filter fun other => key other = k).foldl take empty =
      if k = key item then take ((items.filter fun other => key other = k).foldl take empty) item
      else (items.filter fun other => key other = k).foldl take empty := by
    intro k
    by_cases h : key item = k
    · simp [List.filter_append, h]
    · simp [List.filter_append, h, Ne.symm h]
  have hlift : ∀ ks : List κ, ks.map (fun k =>
      (k, ((items ++ [item]).filter fun other => key other = k).foldl take empty)) =
      (ks.map fun k => (k, (items.filter fun other => key other = k).foldl take empty)).map
        fun group => if group.1 = key item then (group.1, take group.2 item) else group := by
    intro ks
    rw [List.map_map]
    refine List.map_congr_left fun k _ => ?_
    rw [hgroup, Function.comp_apply]
    by_cases h : k = key item <;> simp [h]
  rw [groupItem, map_fst_groups, groups, List.map_append, List.map_singleton,
    firstOccurrences_concat, hlift, addNew]
  by_cases h : key item ∈ firstOccurrences (items.map key)
  · rw [if_pos h, if_pos h, groups]
  · -- no item in front has the key, so the group is opened empty
    have hnone : (items.filter fun other => key other = key item) = [] := by
      rw [List.filter_eq_nil_iff]
      intro other hother heq
      exact h (mem_firstOccurrences.2 (List.mem_map.2 ⟨other, hother, of_decide_eq_true heq⟩))
    rw [if_neg h, if_neg h, groups, List.map_append, List.map_singleton, hnone, List.foldl_nil]

/-- **A loop that takes items into groups** arrives at the groups of all items. -/
theorem foldl_groupItem (met more : List ι) :
    more.foldl (groupItem key empty take) (groups key empty take met) =
      groups key empty take (met ++ more) := by
  induction more generalizing met with
  | nil => rw [List.foldl_nil, List.append_nil]
  | cons item rest ih =>
    rw [List.foldl_cons, ← groups_concat, ih, List.append_assoc, List.singleton_append]

theorem foldl_groupItem_nil (met : List ι) :
    met.foldl (groupItem key empty take) [] = groups key empty take met :=
  foldl_groupItem key empty take [] met

end Groups

end Pagewright
