import Pagewright.Text.Blank

/-!
# What cutting a text leaves

The pieces of a text have none of the characters at which it was cut, and the words of a text are
what is left when the empty pieces are dropped. A text without a blank is its only word. Runs that
are joined by characters of no run are read back as they were.
-/

namespace Pagewright.Text

/-- Goes through the characters of a fixed text. Deciding the claim as it stands would go through
all characters there are. -/
theorem forall_mem_of_all {P : Char → Prop} [DecidablePred P] {s : List Char}
    (h : (s.all fun c => P c) = true) : ∀ c ∈ s, P c :=
  fun c hc => of_decide_eq_true (List.all_eq_true.1 h c hc)

/-- What stands behind the start of a list. -/
theorem isPrefixOf?_append {α : Type} [BEq α] [ReflBEq α] (start rest : List α) :
    start.isPrefixOf? (start ++ rest) = some rest := by
  induction start with
  | nil => rfl
  | cons c more ih =>
    show (if c == c then more.isPrefixOf? (more ++ rest) else none) = some rest
    rw [if_pos (beq_self_eq_true c)]
    exact ih

/-- What stands in front of the last separator and what stands behind it are told apart. -/
theorem append_separator_inj {sep : Char} {front front' last last' : List Char}
    (h : sep ∉ last) (h' : sep ∉ last') (heq : front ++ sep :: last = front' ++ sep :: last') :
    front = front' ∧ last = last' := by
  have hread : ∀ front last : List Char, sep ∉ last →
      (front ++ sep :: last).reverse.takeWhile (fun c => c != sep) = last.reverse := by
    intro front last hlast
    have hall : ∀ c ∈ last.reverse, (c != sep) = true := by
      intro c hc
      have hne : c ≠ sep := fun h => hlast (h ▸ List.mem_reverse.1 hc)
      simpa using hne
    rw [List.reverse_append, List.reverse_cons, List.append_assoc,
      List.takeWhile_append_of_pos hall]
    simp
  have hlast : last.reverse = last'.reverse := by
    rw [← hread front last h, heq, hread front' last' h']
  rw [List.reverse_inj.1 hlast] at heq ⊢
  exact ⟨List.append_cancel_right heq, rfl⟩

/-! ## Pieces and runs -/

/-- The pieces of a text have none of the characters at which it is split. -/
theorem not_cut_of_mem_splitBy {cut : Char → Bool} {s piece : List Char}
    (h : piece ∈ splitBy cut s) : ∀ c ∈ piece, cut c = false := by
  induction s generalizing piece with
  | nil =>
    rw [splitBy, List.mem_singleton] at h
    rw [h]
    exact fun c hc => absurd hc List.not_mem_nil
  | cons d rest ih =>
    rw [splitBy] at h
    split at h
    · rcases List.mem_cons.1 h with rfl | h
      · exact fun c hc => absurd hc List.not_mem_nil
      · exact ih h
    · next hd =>
      split at h
      · next hnil => exact absurd hnil (splitBy_ne_nil cut rest)
      · next first more hsplit =>
        rcases List.mem_cons.1 h with rfl | h
        · intro c hc
          rcases List.mem_cons.1 hc with rfl | hc
          · simpa using hd
          · exact ih (hsplit ▸ List.mem_cons_self ..) c hc
        · exact ih (hsplit ▸ List.mem_cons_of_mem _ h)

/-- A run holds something, and nothing but wanted characters. -/
theorem of_mem_runsOf {keep : Char → Bool} {s run : List Char} (h : run ∈ runsOf keep s) :
    run ≠ [] ∧ ∀ c ∈ run, keep c = true := by
  obtain ⟨hmem, hne⟩ := List.mem_filter.1 h
  exact ⟨by simpa using hne, fun c hc => by simpa using not_cut_of_mem_splitBy hmem c hc⟩

theorem joinWith_cons (sep first : List Char) (more : List (List Char)) :
    joinWith sep (first :: more) = first ++ more.flatMap (sep ++ ·) := by
  induction more generalizing first with
  | nil => rw [joinWith, List.flatMap_nil, List.append_nil]
  | cons next rest ih => rw [joinWith, ih, List.flatMap_cons, List.append_assoc]; simp

/-- A text without a cut is its only piece. -/
theorem splitBy_eq_singleton {cut : Char → Bool} {s : List Char} (h : ∀ c ∈ s, cut c = false) :
    splitBy cut s = [s] := by
  induction s with
  | nil => rfl
  | cons c rest ih =>
    rw [splitBy, h c (by simp), ih fun d hd => h d (by simp [hd])]
    rfl

/-- A text is cut at a cut, whatever stands around it. -/
theorem splitBy_append_cons {cut : Char → Bool} {c : Char} (hc : cut c = true)
    (s rest : List Char) : splitBy cut (s ++ c :: rest) = splitBy cut s ++ splitBy cut rest := by
  induction s with
  | nil =>
    have hempty : splitBy cut [] = [[]] := rfl
    rw [hempty, List.nil_append, List.singleton_append, splitBy, if_pos hc]
  | cons d more ih =>
    rw [List.cons_append, splitBy, splitBy, ih]
    by_cases hd : cut d = true
    · rw [if_pos hd, if_pos hd, List.cons_append]
    · rw [if_neg hd, if_neg hd]
      -- the piece that the character joins is the first one of what stands in front of the cut
      cases hsplit : splitBy cut more with
      | nil => exact absurd hsplit (splitBy_ne_nil cut more)
      | cons piece pieces => rfl

theorem runsOf_append_cons {keep : Char → Bool} {c : Char} (hc : keep c = false)
    (s rest : List Char) : runsOf keep (s ++ c :: rest) = runsOf keep s ++ runsOf keep rest := by
  rw [runsOf, splitBy_append_cons (by simp [hc]), List.filter_append]
  rfl

/-- A text of wanted characters is its only run. -/
theorem runsOf_eq_singleton {keep : Char → Bool} {s : List Char} (hne : s ≠ [])
    (h : ∀ c ∈ s, keep c = true) : runsOf keep s = [s] := by
  rw [runsOf, splitBy_eq_singleton fun c hc => by simp [h c hc]]
  exact List.filter_cons_of_pos (by simpa using hne)

/-- Unwanted characters in front of a text make no run. -/
theorem runsOf_gap {keep : Char → Bool} {gap : List Char} (h : ∀ c ∈ gap, keep c = false)
    (s : List Char) : runsOf keep (gap ++ s) = runsOf keep s := by
  induction gap with
  | nil => rfl
  | cons c rest ih =>
    have hrest := ih fun d hd => h d (by simp [hd])
    have hcut := runsOf_append_cons (h c (by simp)) [] (rest ++ s)
    rw [List.cons_append, ← hrest]
    exact hcut

/-- A run ends where unwanted characters start. -/
theorem runsOf_run {keep : Char → Bool} {run gap : List Char} (hne : run ≠ [])
    (hrun : ∀ c ∈ run, keep c = true) (hgap : gap ≠ []) (h : ∀ c ∈ gap, keep c = false)
    (s : List Char) : runsOf keep (run ++ (gap ++ s)) = run :: runsOf keep s := by
  obtain ⟨c, rest, rfl⟩ := List.exists_cons_of_ne_nil hgap
  have hrest := runsOf_gap (fun d hd => h d (by simp [hd]) : ∀ d ∈ rest, keep d = false) s
  rw [List.cons_append, runsOf_append_cons (h c (by simp)), runsOf_eq_singleton hne hrun, hrest,
    List.singleton_append]

/-- Joined runs are read back in front of a gap, if the separator has nothing of them. -/
theorem runsOf_joinWith_gap {keep : Char → Bool} {sep gap : List Char} (hsep : sep ≠ [])
    (hs : ∀ c ∈ sep, keep c = false) (hgap : gap ≠ []) (hg : ∀ c ∈ gap, keep c = false)
    {runs : List (List Char)} (h : ∀ run ∈ runs, run ≠ [] ∧ ∀ c ∈ run, keep c = true)
    (s : List Char) : runsOf keep (joinWith sep runs ++ (gap ++ s)) = runs ++ runsOf keep s := by
  induction runs with
  | nil => exact runsOf_gap hg s
  | cons run rest ih =>
    obtain ⟨hne, hrun⟩ := h run (by simp)
    have hrest := ih fun other hother => h other (by simp [hother])
    cases rest with
    | nil => exact runsOf_run hne hrun hgap hg s
    | cons next more =>
      rw [joinWith, List.append_assoc, List.append_assoc, runsOf_run hne hrun hsep hs, hrest]
      rfl

/-- **Joined runs are read back.** -/
theorem runsOf_joinWith {keep : Char → Bool} {sep : List Char} (hsep : sep ≠ [])
    (hs : ∀ c ∈ sep, keep c = false) {runs : List (List Char)}
    (h : ∀ run ∈ runs, run ≠ [] ∧ ∀ c ∈ run, keep c = true) :
    runsOf keep (joinWith sep runs) = runs := by
  have hgap := runsOf_joinWith_gap hsep hs hsep hs h []
  obtain ⟨c, rest, rfl⟩ := List.exists_cons_of_ne_nil hsep
  have hrest := runsOf_gap (fun d hd => hs d (by simp [hd]) : ∀ d ∈ rest, keep d = false) []
  rw [List.append_nil] at hgap hrest
  rw [runsOf_append_cons (hs c (by simp)), hrest] at hgap
  simpa [runsOf, splitBy] using hgap

/-- A character of joined texts is one of a text or of the separator. -/
theorem mem_joinWith {sep : List Char} {parts : List (List Char)} {c : Char}
    (h : c ∈ joinWith sep parts) : c ∈ sep ∨ ∃ part ∈ parts, c ∈ part := by
  cases parts with
  | nil => exact absurd h List.not_mem_nil
  | cons first more =>
    rw [joinWith_cons, List.mem_append, List.mem_flatMap] at h
    rcases h with h | ⟨part, hpart, h⟩
    · exact Or.inr ⟨first, by simp, h⟩
    · rcases List.mem_append.1 h with h | h
      · exact Or.inl h
      · exact Or.inr ⟨part, by simp [hpart], h⟩

theorem mem_joinWith_of_mem (sep : List Char) {parts : List (List Char)} {part : List Char}
    {c : Char} (hpart : part ∈ parts) (h : c ∈ part) : c ∈ joinWith sep parts := by
  cases parts with
  | nil => exact absurd hpart List.not_mem_nil
  | cons first more =>
    rw [joinWith_cons, List.mem_append, List.mem_flatMap]
    rcases List.mem_cons.1 hpart with rfl | hmore
    · exact Or.inl h
    · exact Or.inr ⟨part, hmore, List.mem_append_right _ h⟩

theorem joinWith_eq_intercalate (sep : List Char) (parts : List (List Char)) :
    joinWith sep parts = sep.intercalate parts := by
  induction parts with
  | nil => rfl
  | cons first rest ih =>
    cases rest with
    | nil => simp [joinWith]
    | cons next more => rw [joinWith, ih]; simp [List.intercalate]

/-! ## Words -/

/-- A word holds something and has no blanks. -/
theorem of_mem_words {s word : List Char} (h : word ∈ words s) :
    word ≠ [] ∧ ∀ c ∈ word, isBlank c = false := by
  obtain ⟨hne, hall⟩ := of_mem_runsOf h
  exact ⟨hne, fun c hc => by simpa using hall c hc⟩

/-- A text without blanks is its only word. -/
theorem singleSpaced_eq_self {s : List Char} (hne : s ≠ []) (h : ∀ c ∈ s, isBlank c = false) :
    singleSpaced s = s := by
  have hwords : words s = [s] := runsOf_eq_singleton hne fun c hc => by simp [h c hc]
  rw [singleSpaced, hwords, joinWith]

/-- A character of a text that is single-spaced is no blank or a space. -/
theorem of_mem_singleSpaced {s : List Char} {c : Char} (h : c ∈ singleSpaced s) :
    isBlank c = false ∨ c = ' ' := by
  rcases mem_joinWith h with h | ⟨word, hword, h⟩
  · exact Or.inr (List.mem_singleton.1 h)
  · exact Or.inl ((of_mem_words hword).2 c h)

/-- A text has no blank at its ends. -/
structure Trimmed (s : List Char) : Prop where
  front : ∀ c ∈ s.head?, isBlank c = false
  back : ∀ c ∈ s.getLast?, isBlank c = false

theorem trimmed_joinWords {ws : List (List Char)}
    (h : ∀ word ∈ ws, word ≠ [] ∧ ∀ c ∈ word, isBlank c = false) : Trimmed (joinWith [' '] ws) := by
  induction ws with
  | nil => exact ⟨nofun, nofun⟩
  | cons first rest ih =>
    obtain ⟨hne, hfirst⟩ := h first (by simp)
    have hrest := fun word (hw : word ∈ rest) => h word (by simp [hw])
    cases rest with
    | nil =>
      exact ⟨fun c hc => hfirst c (List.mem_of_mem_head? hc),
        fun c hc => hfirst c (List.mem_of_mem_getLast? hc)⟩
    | cons next more =>
      obtain ⟨c, tail, rfl⟩ := List.exists_cons_of_ne_nil hne
      have hnext : joinWith [' '] (next :: more) ≠ [] := by
        rw [joinWith_cons]
        simp [(hrest next (by simp)).1]
      obtain ⟨last, hlast⟩ := Option.ne_none_iff_exists'.1 (mt List.getLast?_eq_none_iff.1 hnext)
      rw [joinWith]
      refine ⟨fun d hd => hfirst d (by simp_all), fun d hd => (ih hrest).back d ?_⟩
      rw [List.getLast?_append, hlast] at hd
      rw [hlast]
      exact hd

theorem trimmed_singleSpaced (s : List Char) : Trimmed (singleSpaced s) :=
  trimmed_joinWords fun _ hw => of_mem_words hw

theorem dropWhile_blank {s : List Char} (h : ∀ c ∈ s.head?, isBlank c = false) :
    s.dropWhile isBlank = s := by
  cases s with
  | nil => rfl
  | cons c rest => rw [List.dropWhile_cons_of_neg (by simp [h c rfl])]

theorem head?_dropWhile_blank (s : List Char) :
    ∀ c ∈ (s.dropWhile isBlank).head?, isBlank c = false := by
  intro c hc
  have hhead := List.head?_dropWhile_not isBlank s
  rw [hc] at hhead
  exact hhead

theorem trimmed_trim (s : List Char) : Trimmed (trim s) := by
  rw [trim, trimBy]
  constructor
  · -- trimming the back leaves the front, or nothing
    intro c hc
    have hprefix : ((s.dropWhile isBlank).reverse.dropWhile isBlank).reverse <+:
        s.dropWhile isBlank := by
      rw [← List.reverse_suffix, List.reverse_reverse]
      exact List.dropWhile_suffix _
    obtain ⟨rest, hrest⟩ := hprefix
    have hfront : c ∈ (s.dropWhile isBlank).head? := by
      rw [← hrest, List.head?_append, hc]
      rfl
    exact head?_dropWhile_blank s c hfront
  · intro c hc
    rw [List.getLast?_reverse] at hc
    exact head?_dropWhile_blank _ c hc

/-- Nothing is trimmed from a trimmed text. -/
theorem trim_eq_self {s : List Char} (h : Trimmed s) : trim s = s := by
  have hback : ∀ c ∈ s.reverse.head?, isBlank c = false := by
    rw [List.head?_reverse]
    exact h.back
  rw [trim, trimBy, dropWhile_blank h.front, dropWhile_blank hback, List.reverse_reverse]

/-- Spaces around a trimmed text are trimmed away. -/
theorem trim_spaced {s : List Char} (h : Trimmed s) : trim (' ' :: s ++ [' ']) = s := by
  have hspace : isBlank ' ' = true := by decide
  cases s with
  | nil => decide
  | cons c rest =>
    have hc : isBlank c = false := h.front c rfl
    have hback : ∀ d ∈ (c :: rest).reverse.head?, isBlank d = false := by
      rw [List.head?_reverse]
      exact h.back
    have hfront : (c :: rest ++ [' ']).dropWhile isBlank = c :: rest ++ [' '] :=
      dropWhile_blank (by simp [hc])
    rw [trim, trimBy, List.cons_append, List.dropWhile_cons_of_pos hspace, hfront,
      List.reverse_append, List.reverse_singleton, List.singleton_append,
      List.dropWhile_cons_of_pos hspace, dropWhile_blank hback, List.reverse_reverse]

end Pagewright.Text
