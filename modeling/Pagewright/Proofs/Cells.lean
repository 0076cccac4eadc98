import Mathlib.Data.List.Forall2
import Mathlib.Data.List.Induction
import Pagewright.Proofs.Manifests

/-!
# Rows that nothing breaks

A text becomes a cell in two passes: its backslashes are doubled, and a backslash is put in front of
every bar. What escapes a bar is then the number of backslashes in front of it, and those of the
text itself are among them. Read from left to right, a text leaves an escape open or does not
(`leavesEscape`), which is the same as ending with an odd number of backslashes. A cell leaves none
open, so the bar behind it cuts the row, and no bar in it does.

Line ends are blanks, and the words of a text have none. So a row of the table of pages is a line
of the manifest, whatever stands in front of it: neither the label of a profile nor the names that
it asks to install can reach into the table.
-/

namespace Pagewright.Text

/-- The lines behind a line feed are read on their own. -/
theorem lines_append_lineFeed (s rest : List Char) :
    lines (s ++ '\n' :: rest) = lines (s ++ ['\n']) ++ lines rest := by
  induction s with
  | nil => exact lines_line (fun _ hc => absurd hc List.not_mem_nil) rest
  | cons c more ih =>
    have hhead : ∀ behind, (more ++ '\n' :: behind).headD ' ' = more.headD '\n' := by
      intro behind
      cases more <;> rfl
    rw [List.cons_append, List.cons_append]
    by_cases hpair : c = '\r' ∧ more.headD '\n' = '\n'
    · obtain ⟨rfl, hfeed⟩ := hpair
      rw [lines_cons_pair ((hhead rest).trans hfeed), lines_cons_pair ((hhead []).trans hfeed), ih]
    · rw [lines_cons (by rwa [hhead]), lines_cons (by rwa [hhead]), ih]
      by_cases hend : endsLine c = true
      · rw [if_pos hend, if_pos hend, List.cons_append]
      · rw [if_neg hend, if_neg hend]
        -- the character joins the first line, which the line feed closes
        obtain ⟨first, others, hlines, -⟩ := exists_lines 0 more
        rw [hlines]
        rfl

/-- Lines that end with line feeds are read on their own, whatever else they hold. -/
theorem lines_flatMap_append (front rest : List (List Char)) :
    lines ((front ++ rest).flatMap (· ++ ['\n'])) =
      lines (front.flatMap (· ++ ['\n'])) ++ lines (rest.flatMap (· ++ ['\n'])) := by
  rcases List.eq_nil_or_concat' front with rfl | ⟨init, last, rfl⟩
  · rfl
  · rw [List.flatMap_append, List.flatMap_append, List.flatMap_singleton, ← List.append_assoc,
      List.append_assoc, List.singleton_append, lines_append_lineFeed]

end Pagewright.Text

namespace Pagewright.Markup

open Pagewright.Text

/-! ## Escaping in two passes -/

/-- Writes a text in place of every occurrence of a character. -/
def replaceChar (c : Char) (text s : List Char) : List Char :=
  s.flatMap fun d => if d = c then text else [d]

/-- **The passes do not get in each other's way**: a backslash that the second one writes is not
doubled, and one that the first one wrote escapes no bar. -/
theorem flatMap_cellChar (s : List Char) :
    s.flatMap cellChar = replaceChar '|' ['\\', '|'] (replaceChar '\\' ['\\', '\\'] s) := by
  rw [replaceChar, replaceChar, List.flatMap_assoc]
  refine List.flatMap_congr fun c _ => ?_
  rw [cellChar]
  by_cases hslash : c = '\\'
  · rw [if_pos (Or.inl hslash), if_pos hslash, hslash]
    rfl
  · rw [if_neg hslash, List.flatMap_singleton]
    by_cases hbar : c = '|'
    · rw [if_pos (Or.inr hbar), if_pos hbar, hbar]
    · rw [if_neg (not_or.2 ⟨hslash, hbar⟩), if_neg hbar]

/-! ## Backslashes in front of a character -/

/-- The number of backslashes at the end of a text. -/
def trailingSlashes (s : List Char) : Nat := (s.reverse.takeWhile (· == '\\')).length

/-- Does the text escape what stands behind it? The flag says whether its own first character is
escaped. -/
def leavesEscape : (escaped : Bool) → List Char → Bool
  | escaped, [] => escaped
  | escaped, c :: rest => leavesEscape (!escaped && c == '\\') rest

theorem leavesEscape_append (escaped : Bool) (s t : List Char) :
    leavesEscape escaped (s ++ t) = leavesEscape (leavesEscape escaped s) t := by
  induction s generalizing escaped with
  | nil => rfl
  | cons c rest ih => exact ih _

theorem trailingSlashes_concat (s : List Char) (c : Char) :
    trailingSlashes (s ++ [c]) = if c = '\\' then trailingSlashes s + 1 else 0 := by
  rw [trailingSlashes, List.reverse_append, List.reverse_singleton, List.singleton_append]
  by_cases hc : c = '\\'
  · rw [if_pos hc, List.takeWhile_cons_of_pos (by simp [hc]), List.length_cons]
    rfl
  · rw [if_neg hc, List.takeWhile_cons_of_neg (by simp [hc]), List.length_nil]

/-- **What stands behind a text is escaped if an odd number of backslashes is in front of it.** -/
theorem leavesEscape_eq (s : List Char) :
    leavesEscape false s = decide (trailingSlashes s % 2 = 1) := by
  induction s using List.reverseRecOn with
  | nil => rfl
  | append_singleton s c ih =>
    rw [leavesEscape_append, ih, trailingSlashes_concat]
    show (!decide (trailingSlashes s % 2 = 1) && c == '\\') = _
    by_cases hc : c = '\\'
    · rw [if_pos hc, hc, beq_self_eq_true, Bool.and_true, ← decide_not]
      exact decide_eq_decide.2 (by omega)
    · rw [if_neg hc, beq_eq_false_iff_ne.2 hc, Bool.and_false]
      rfl

/-- Each bar of an escaped text stands behind a backslash that escapes it. -/
theorem leavesEscape_of_bar {s before after : List Char}
    (h : s.flatMap cellChar = before ++ '|' :: after) : leavesEscape false before = true := by
  induction s generalizing before with
  | nil => simp at h
  | cons c rest ih =>
    rw [List.flatMap_cons, cellChar] at h
    split at h
    · -- the backslash and what it escapes come first, and are in front of the bar or hold it
      rcases before with _ | ⟨d, _ | ⟨e, more⟩⟩
      · exact absurd (List.cons.inj h).1 (by decide)
      · obtain rfl : '\\' = d := (List.cons.inj h).1
        rfl
      · simp only [List.cons_append, List.nil_append, List.cons.injEq] at h
        obtain ⟨hslash, _, h⟩ := h
        rw [leavesEscape, leavesEscape, ← hslash]
        exact ih h
    · next hc =>
      obtain ⟨hslash, hbar⟩ := not_or.1 hc
      rcases before with _ | ⟨d, more⟩
      · exact absurd (List.cons.inj h).1 hbar
      · simp only [List.cons_append, List.nil_append, List.cons.injEq] at h
        obtain ⟨rfl, h⟩ := h
        rw [leavesEscape, beq_eq_false_iff_ne.2 hslash]
        exact ih h

/-- **Every bar of a cell has an odd number of backslashes in front of it.** -/
theorem trailingSlashes_of_bar {s before after : List Char}
    (h : tableCell s = before ++ '|' :: after) : trailingSlashes before % 2 = 1 :=
  of_decide_eq_true ((leavesEscape_eq before).symm.trans (leavesEscape_of_bar h))

/-! ## Bars that cut -/

theorem cutCells_ne_nil (escaped : Bool) (s : List Char) : cutCells escaped s ≠ [] := by
  cases s with
  | nil => exact List.cons_ne_nil _ _
  | cons c rest =>
    rw [cutCells]
    split
    · exact List.cons_ne_nil _ _
    · cases hrest : cutCells (!escaped && c == '\\') rest with
      | nil => exact absurd hrest (cutCells_ne_nil _ rest)
      | cons first more => exact List.cons_ne_nil _ _

/-- The cells of a text are cut out of it from left to right: the last one goes on in what stands
behind the text. -/
theorem cutCells_append (escaped : Bool) (s t : List Char) :
    cutCells escaped (s ++ t) =
      (cutCells escaped s).dropLast ++
        onFirst ((cutCells escaped s).getLastD [] ++ ·) (cutCells (leavesEscape escaped s) t) := by
  induction s generalizing escaped with
  | nil =>
    show cutCells escaped t = onFirst (fun cell => cell) (cutCells escaped t)
    cases cutCells escaped t <;> rfl
  | cons c rest ih =>
    rw [List.cons_append, cutCells, cutCells, leavesEscape]
    split
    · next hcut =>
      obtain ⟨first, more, hfirst⟩ := List.exists_cons_of_ne_nil (cutCells_ne_nil false rest)
      have hplain : (!escaped && c == '\\') = false := by simp_all
      rw [ih, hplain, hfirst]
      rfl
    · rw [ih]
      generalize (!escaped && c == '\\') = now
      obtain ⟨first, more, hfirst⟩ := List.exists_cons_of_ne_nil (cutCells_ne_nil now rest)
      rw [hfirst]
      -- the character joins the first cell, which is the last one if it is the only one
      cases more with
      | nil => cases cutCells (leavesEscape now rest) t <;> rfl
      | cons next others => rfl

/-- **A bar cuts if an even number of backslashes is in front of it**, and else belongs to its
cell. -/
theorem cutCells_bar (before after : List Char) :
    cutCells false (before ++ '|' :: after) =
      if trailingSlashes before % 2 = 0 then cutCells false before ++ cutCells false after
      else (cutCells false before).dropLast ++
        onFirst ((cutCells false before).getLastD [] ++ '|' :: ·) (cutCells false after) := by
  rw [cutCells_append, leavesEscape_eq]
  split
  · next heven =>
    rw [decide_eq_false (by omega), cutCells, if_pos (by decide), onFirst, List.append_nil]
    have hlast : (cutCells false before).dropLast ++ [(cutCells false before).getLastD []] =
        cutCells false before := by
      rw [List.getLastD_eq_getLast?, List.getLast?_eq_some_getLast (cutCells_ne_nil false before)]
      exact List.dropLast_concat_getLast _
    rw [List.append_cons, hlast]
  · next hodd =>
    rw [decide_eq_true (by omega), cutCells, if_neg (by decide)]
    show _ ++ onFirst _ (onFirst _ (cutCells false after)) = _
    cases cutCells false after <;> rfl

end Pagewright.Markup

namespace Pagewright

open Pagewright.Text Pagewright.Markup

/-- **The cells of the manifest cannot break its table**, for every profile and all pages.

Cells are what the two passes of escaping make of the words of a text. They end no line, each of
their bars has an odd number of backslashes in front of it, and undoing the escapes gives the words
back, with single spaces between them. Since a bar cuts a row if the number of backslashes in front
of it is even, the lines of the manifest end with one row for each page, in the order of the pages,
and a row has three cells between its outer bars, which hold the title, the route and the path of
the page. -/
theorem Profile.manifest_rows_unbroken (profile : Profile) (pages : List CompiledPage) :
    (∀ s : List Char,
      tableCell s = replaceChar '|' ['\\', '|'] (replaceChar '\\' ['\\', '\\'] (singleSpaced s)) ∧
        (∀ c ∈ tableCell s, endsLine c = false) ∧
        (∀ before after, tableCell s = before ++ '|' :: after →
          trailingSlashes before % 2 = 1) ∧
        unescapeCell false (tableCell s) = joinWith [' '] (words s)) ∧
      (∀ before after : List Char, cutCells false (before ++ '|' :: after) =
        if trailingSlashes before % 2 = 0 then cutCells false before ++ cutCells false after
        else (cutCells false before).dropLast ++
          onFirst ((cutCells false before).getLastD [] ++ '|' :: ·) (cutCells false after)) ∧
      ∃ front rows : List (List Char),
        lines (profile.manifest pages).toList =
            front ++ "| Page | Route | File |".toList :: "| --- | --- | --- |".toList :: rows ∧
          List.Forall₂
            (fun (page : CompiledPage) line => ∃ title route path : List Char,
              cutCells false line = [[], title, route, path, []] ∧
                unescapeCell false (trim title) = singleSpaced page.title.content ∧
                unescapeCell false (trim route) = singleSpaced page.route.content ∧
                unescapeCell false (trim path) = singleSpaced page.path.toList)
            pages rows := by
  refine ⟨fun s => ⟨flatMap_cellChar _, fun c => endsLine_tableCell,
    fun before after => trailingSlashes_of_bar, unescapeCell_escaped _⟩, cutCells_bar,
    lines ((profile.manifestFront pages).flatMap (· ++ ['\n'])),
    (pages.map CompiledPage.cells).map row, ?_, ?_⟩
  · have hrows : ∀ line ∈ "| Page | Route | File |".toList :: "| --- | --- | --- |".toList ::
        (pages.map CompiledPage.cells).map row, ∀ c ∈ line, endsLine c = false := by
      intro line hline
      simp only [List.mem_cons, List.mem_map] at hline
      rcases hline with rfl | rfl | ⟨cells, _, rfl⟩
      · exact forall_mem_of_all (by decide)
      · exact forall_mem_of_all (by decide)
      · exact (isLine_row cells).ends
    rw [manifest_eq, lines_flatMap_append, lines_flatMap hrows]
  · rw [List.map_map, List.forall₂_map_right_iff, List.forall₂_same]
    intro page _
    refine ⟨' ' :: tableCell page.title.content ++ [' '],
      ' ' :: tableCell page.route.content ++ [' '], ' ' :: tableCell page.path.toList ++ [' '],
      ?_, ?_, ?_, ?_⟩
    · show cutCells false (row page.cells) = _
      rw [row, cutCells, if_pos (by decide), cutCells_cells]
      rfl
    · exact unescapeCell_trim _
    · exact unescapeCell_trim _
    · exact unescapeCell_trim _

end Pagewright
