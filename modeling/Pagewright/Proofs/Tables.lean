import Pagewright.Markup.Escape
import Pagewright.Proofs.Indenting
import Pagewright.Proofs.Words

/-!
# Reading a table back

A table of a manifest is a run of lines that start with a bar: the names of the columns, a line of
dashes, and one line for each row. The cells of a row stand between bars that no backslash escapes.
`readRow_row` says that a row is read as the texts that were put into its cells, whatever they
hold, with single spaces between their words; a cell can neither end its line nor its column.
-/

namespace Pagewright.Text

/-! ## Lines of a text -/

theorem lines_line {l : List Char} (h : ∀ c ∈ l, endsLine c = false) (rest : List Char) :
    lines (l ++ '\n' :: rest) = l :: lines rest := by
  induction l with
  | nil =>
    rw [List.nil_append, lines_cons (fun hp => absurd hp.1 (by decide)), if_pos (by decide)]
  | cons c more ih =>
    have hc : c ≠ '\r' := fun heq => absurd (h c (by simp)) (by rw [heq]; decide)
    rw [List.cons_append, lines_cons (fun hp => hc hp.1), if_neg (by simp [h c (by simp)]),
      ih fun d hd => h d (by simp [hd])]

/-- Lines that are written one after the other are read one after the other. -/
theorem lines_flatMap {ls : List (List Char)} (h : ∀ l ∈ ls, ∀ c ∈ l, endsLine c = false) :
    lines (ls.flatMap (· ++ ['\n'])) = ls := by
  induction ls with
  | nil => rfl
  | cons l rest ih =>
    rw [List.flatMap_cons, List.append_assoc, List.singleton_append, lines_line (h l (by simp)),
      ih fun other hother => h other (by simp [hother])]

/-- Every line end is blank. -/
theorem isBlank_of_endsLine {c : Char} (h : endsLine c = true) : isBlank c = true := by
  have hall : ∀ c ∈ ['\n', '\r', '\x0b', '\x0c', '\x1c', '\x1d', '\x1e', '\x85', '\u2028',
      '\u2029'], isBlank c = true := forall_mem_of_all (by decide)
  refine hall c ?_
  simp only [endsLine, Bool.or_eq_true, beq_iff_eq, or_assoc] at h
  simpa only [List.mem_cons, List.not_mem_nil, or_false] using h

end Pagewright.Text

namespace Pagewright.Markup

open Pagewright.Text

/-! ## Cells -/

/-- Applies a function to the first member of a list. -/
def onFirst (f : List Char → List Char) : List (List Char) → List (List Char)
  | [] => []
  | first :: more => f first :: more

/-- The texts between the bars of a line that no backslash escapes. -/
def cutCells : (escaped : Bool) → List Char → List (List Char)
  | _, [] => [[]]
  | escaped, c :: rest =>
    if !escaped && c == '|' then [] :: cutCells false rest
    else onFirst (c :: ·) (cutCells (!escaped && c == '\\') rest)

/-- The text that a cell stands for: a backslash is dropped, and what is behind it is kept. -/
def unescapeCell : (escaped : Bool) → List Char → List Char
  | _, [] => []
  | escaped, c :: rest =>
    if !escaped && c == '\\' then unescapeCell true rest else c :: unescapeCell false rest

/-- The texts in the cells of a row. -/
def readRow (line : List Char) : List (List Char) :=
  ((cutCells false line).drop 1).dropLast.map fun cell => unescapeCell false (trim cell)

/-- Does the line belong to a table? -/
def startsRow (line : List Char) : Bool := line.head? == some '|'

/-- The lines of the first table of a text. -/
def tableLines (text : List Char) : List (List Char) :=
  ((lines text).dropWhile fun line => !startsRow line).takeWhile startsRow

/-- The rows of the first table of a text, behind the names of the columns and the dashes. -/
def tableRows (text : List Char) : List (List (List Char)) :=
  ((tableLines text).drop 2).map readRow

/-- The line of a row. -/
def row (cells : List (List Char)) : List Char :=
  '|' :: cells.flatMap fun cell => ' ' :: tableCell cell ++ [' ', '|']

theorem cutCells_plain {c : Char} (hbar : c ≠ '|') (hslash : c ≠ '\\') (rest : List Char) :
    cutCells false (c :: rest) = onFirst (c :: ·) (cutCells false rest) := by
  rw [cutCells, if_neg (by simp [hbar]), Bool.not_false, Bool.true_and,
    beq_eq_false_iff_ne.2 hslash]

/-- An escaped text is cut nowhere. -/
theorem cutCells_escaped (s rest : List Char) :
    cutCells false (s.flatMap cellChar ++ rest) =
      onFirst (s.flatMap cellChar ++ ·) (cutCells false rest) := by
  have hcompose : ∀ (f g : List Char → List Char) (cells : List (List Char)),
      onFirst f (onFirst g cells) = onFirst (fun cell => f (g cell)) cells := by
    intro f g cells
    cases cells <;> rfl
  induction s with
  | nil =>
    rw [List.flatMap_nil, List.nil_append]
    cases cutCells false rest <;> rfl
  | cons c more ih =>
    rw [List.flatMap_cons, List.append_assoc, cellChar]
    split
    · -- behind a backslash a bar cuts nothing, and a further backslash escapes nothing
      have hc : cutCells true (c :: (more.flatMap cellChar ++ rest)) =
          onFirst (c :: ·) (cutCells false (more.flatMap cellChar ++ rest)) := by
        rw [cutCells, if_neg (by simp)]
        rfl
      rw [List.cons_append, List.cons_append, List.nil_append, cutCells, if_neg (by decide),
        show (!false && '\\' == '\\') = true from rfl, hc, ih, hcompose, hcompose]
      rfl
    · next hc =>
      obtain ⟨hslash, hbar⟩ := not_or.1 hc
      rw [List.singleton_append, cutCells_plain hbar hslash, ih, hcompose]
      rfl

/-- The cells of a row are cut out of its line. -/
theorem cutCells_cells (cells : List (List Char)) :
    cutCells false (cells.flatMap fun cell => ' ' :: tableCell cell ++ [' ', '|']) =
      (cells.map fun cell => ' ' :: tableCell cell ++ [' ']) ++ [[]] := by
  induction cells with
  | nil => rfl
  | cons cell rest ih =>
    rw [List.flatMap_cons, List.cons_append, List.cons_append,
      cutCells_plain (by decide) (by decide), List.append_assoc, tableCell, cutCells_escaped,
      List.cons_append, cutCells_plain (by decide) (by decide), List.cons_append, cutCells,
      if_pos (by decide), List.nil_append, ih]
    rfl

theorem unescapeCell_escaped (s : List Char) : unescapeCell false (s.flatMap cellChar) = s := by
  induction s with
  | nil => rfl
  | cons c rest ih =>
    rw [List.flatMap_cons, cellChar]
    split
    · rw [List.cons_append, List.singleton_append, unescapeCell, if_pos (by decide), unescapeCell,
        if_neg (by simp), ih]
    · next hc =>
      rw [List.singleton_append, unescapeCell, if_neg (by simp [(not_or.1 hc).1]), ih]

theorem mem_cellChar {c d : Char} (h : d ∈ cellChar c) : d = c ∨ d = '\\' := by
  rw [cellChar] at h
  split at h
  · rcases List.mem_cons.1 h with rfl | h
    · exact Or.inr rfl
    · exact Or.inl (List.mem_singleton.1 h)
  · exact Or.inl (List.mem_singleton.1 h)

theorem cellChar_ne_nil (c : Char) : cellChar c ≠ [] := by
  unfold cellChar
  split <;> exact List.cons_ne_nil _ _

/-- Escaping leaves the ends of a text as they are, or puts a backslash there. -/
theorem trimmed_escaped {s : List Char} (h : Trimmed s) : Trimmed (s.flatMap cellChar) := by
  have hchar : ∀ c d, isBlank c = false → d ∈ cellChar c → isBlank d = false := by
    intro c d hc hd
    rcases mem_cellChar hd with rfl | rfl
    · exact hc
    · decide
  constructor
  · cases s with
    | nil => exact nofun
    | cons c rest =>
      obtain ⟨d, more, hd⟩ := List.exists_cons_of_ne_nil (cellChar_ne_nil c)
      intro e he
      rw [List.flatMap_cons, hd, List.cons_append, List.head?_cons, Option.mem_some] at he
      exact hchar c e (h.front c rfl) (by simp [hd, he])
  · rcases List.eq_nil_or_concat s with rfl | ⟨rest, c, rfl⟩
    · exact nofun
    · rw [List.concat_eq_append] at h ⊢
      obtain ⟨d, hd⟩ := Option.ne_none_iff_exists'.1
        (mt List.getLast?_eq_none_iff.1 (cellChar_ne_nil c))
      intro e he
      rw [List.flatMap_append, List.flatMap_singleton, List.getLast?_append, hd, Option.some_or,
        Option.mem_some] at he
      exact hchar c e (h.back c (by simp)) (he ▸ List.mem_of_mem_getLast? hd)

/-- A cell is read as the words that were put into it. -/
theorem unescapeCell_trim (s : List Char) :
    unescapeCell false (trim (' ' :: tableCell s ++ [' '])) = singleSpaced s := by
  have htrimmed : Trimmed (tableCell s) := trimmed_escaped (trimmed_singleSpaced s)
  rw [trim_spaced htrimmed, tableCell, unescapeCell_escaped]

/-- **A row is read as the texts that were put into it.** -/
theorem readRow_row (cells : List (List Char)) : readRow (row cells) = cells.map singleSpaced := by
  rw [readRow, row, cutCells, if_pos (by decide), cutCells_cells, List.drop_one, List.tail_cons,
    List.dropLast_concat, List.map_map]
  exact List.map_congr_left fun cell _ => unescapeCell_trim cell

/-- A cell ends no line. -/
theorem endsLine_tableCell {s : List Char} {c : Char} (h : c ∈ tableCell s) :
    endsLine c = false := by
  obtain ⟨d, hd, hc⟩ := List.mem_flatMap.1 h
  rcases mem_cellChar hc with rfl | rfl
  · rcases of_mem_singleSpaced hd with hblank | rfl
    · exact Bool.eq_false_iff.2 fun hends =>
        Bool.false_ne_true (hblank.symm.trans (isBlank_of_endsLine hends))
    · decide
  · decide

/-- A text is one line, which belongs to a table or does not. -/
structure IsLine (ofTable : Bool) (line : List Char) : Prop where
  starts : startsRow line = ofTable
  ends : ∀ c ∈ line, endsLine c = false

instance (ofTable : Bool) (line : List Char) : Decidable (IsLine ofTable line) :=
  decidable_of_iff (startsRow line = ofTable ∧ (line.all fun c => endsLine c = false) = true)
    ⟨fun h => ⟨h.1, forall_mem_of_all h.2⟩,
      fun h => ⟨h.starts, List.all_eq_true.2 fun c hc => decide_eq_true (h.ends c hc)⟩⟩

/-- **A row is one line of a table.** -/
theorem isLine_row (cells : List (List Char)) : IsLine true (row cells) := by
  refine ⟨rfl, fun c hc => ?_⟩
  rcases List.mem_cons.1 hc with rfl | hc
  · decide
  · obtain ⟨cell, _, hc⟩ := List.mem_flatMap.1 hc
    rcases List.mem_append.1 hc with hc | hc
    · rcases List.mem_cons.1 hc with rfl | hc
      · decide
      · exact endsLine_tableCell hc
    · have hall : ∀ c ∈ [' ', '|'], endsLine c = false := forall_mem_of_all (by decide)
      exact hall c hc

/-- **The first table of a text is read row by row**, if nothing in front of it looks like one. -/
theorem tableRows_lines {front : List (List Char)} {names dashes : List Char}
    {rows : List (List (List Char))} (hfront : ∀ line ∈ front, IsLine false line)
    (hnames : IsLine true names) (hdashes : IsLine true dashes) :
    tableRows ((front ++ names :: dashes :: rows.map row).flatMap (· ++ ['\n'])) =
      rows.map (List.map singleSpaced) := by
  have htable : ∀ line ∈ names :: dashes :: rows.map row, IsLine true line := by
    intro line hline
    simp only [List.mem_cons, List.mem_map] at hline
    rcases hline with rfl | rfl | ⟨cells, _, rfl⟩
    · exact hnames
    · exact hdashes
    · exact isLine_row cells
  have hlines : ∀ line ∈ front ++ names :: dashes :: rows.map row, ∀ c ∈ line,
      endsLine c = false := by
    intro line hline
    rcases List.mem_append.1 hline with hline | hline
    · exact (hfront line hline).ends
    · exact (htable line hline).ends
  have hskip : (front ++ names :: dashes :: rows.map row).dropWhile (fun line => !startsRow line) =
      names :: dashes :: rows.map row := by
    rw [List.dropWhile_append_of_pos fun line hline => by simp [(hfront line hline).starts],
      List.dropWhile_cons_of_neg (by simp [hnames.starts])]
  have htake : (names :: dashes :: rows.map row).takeWhile startsRow =
      names :: dashes :: rows.map row := by
    have happend : ((names :: dashes :: rows.map row) ++ []).takeWhile startsRow = _ :=
      List.takeWhile_append_of_pos fun line hline => (htable line hline).starts
    rwa [List.takeWhile_nil, List.append_nil] at happend
  rw [tableRows, tableLines, lines_flatMap hlines, hskip, htake, List.drop_succ_cons,
    List.drop_one, List.tail_cons, List.map_map]
  exact List.map_congr_left fun cells _ => readRow_row cells

end Pagewright.Markup
