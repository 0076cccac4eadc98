/-!
# Lists that name things once

Types, names, imports and dependencies are listed at their first places and once each. A search
that must not meet anything twice strikes what it has met from the list of what it may still meet,
which makes that list shorter: this is the measure of the searches of the library.
-/

namespace Pagewright

variable {α : Type} [DecidableEq α]

/-- Equal members are kept once, at their first place. -/
def firstOccurrences : List α → List α
  | [] => []
  | a :: rest => a :: (firstOccurrences rest).filter (· ≠ a)

@[simp]
theorem mem_firstOccurrences {a : α} {members : List α} :
    a ∈ firstOccurrences members ↔ a ∈ members := by
  induction members with
  | nil => simp [firstOccurrences]
  | cons b rest ih => by_cases h : a = b <;> simp [firstOccurrences, ih, h]

theorem nodup_firstOccurrences (members : List α) : (firstOccurrences members).Nodup := by
  induction members with
  | nil => exact List.nodup_nil
  | cons a rest ih => exact List.nodup_cons.2 ⟨by simp, ih.filter _⟩

/-- What a table gives for a key is an entry of it. -/
theorem mem_of_lookup {β : Type} {table : List (α × β)} {a : α} {b : β}
    (h : table.lookup a = some b) : (a, b) ∈ table := by
  obtain ⟨before, after, rfl, _⟩ := List.lookup_eq_some_iff.1 h
  simp

/-- A table whose values are changed gives the changed values. -/
theorem lookup_map {β γ : Type} (f : β → γ) (table : List (α × β)) (a : α) :
    (table.map fun entry => (entry.1, f entry.2)).lookup a = (table.lookup a).map f := by
  induction table with
  | nil => rfl
  | cons entry rest ih =>
    obtain ⟨key, b⟩ := entry
    rw [List.map_cons, List.lookup_cons, List.lookup_cons, ih]
    cases a == key <;> rfl

/-- The members of a list other than one. -/
def strike (a : α) (members : List α) : List α := members.filter (· ≠ a)

@[simp]
theorem mem_strike {a b : α} {members : List α} : b ∈ strike a members ↔ b ∈ members ∧ b ≠ a := by
  simp [strike]

/-- Striking a member makes a list shorter. -/
theorem length_strike_lt {a : α} {members : List α} (h : a ∈ members) :
    (strike a members).length < members.length := by
  rw [strike, List.length_filter_lt_length_iff_exists]
  exact ⟨a, h, by simp⟩

/-- **Induction along a search**: what holds of a list as soon as it holds of the list without any
one of its members holds of every list. -/
theorem strike_induction {motive : List α → Prop}
    (step : ∀ members, (∀ a ∈ members, motive (strike a members)) → motive members)
    (members : List α) : motive members :=
  step members fun a _ => strike_induction step (strike a members)
termination_by members.length
decreasing_by exact length_strike_lt ‹_›

end Pagewright
