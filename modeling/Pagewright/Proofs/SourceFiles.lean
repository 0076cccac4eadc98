import Mathlib.Data.List.Basic
import Pagewright.Layout.Page
import Pagewright.Proofs.Escaping
import Pagewright.Proofs.Indenting

/-!
# Reading a source file back

What a source file declares and what it imports stands at the left margin, and everything that
belongs to its component stands deeper. So a reader that looks at the start of each line finds the
names of the file (`declaredNames`) and its modules (`importedModules`), whatever texts the page
is made of: a literal holds no line feed, and no line of a canvas starts at the margin
(`indented_canvas`).
-/

namespace Pagewright.Text

/-- The lines of code, which end at line feeds only. -/
def sourceLines (s : List Char) : List (List Char) := splitBy (fun c => c == '\n') s

theorem sourceLines_feed (s rest : List Char) :
    sourceLines (s ++ '\n' :: rest) = sourceLines s ++ sourceLines rest :=
  splitBy_append_cons rfl s rest

theorem sourceLines_eq_singleton {line : List Char} (h : '\n' ∉ line) :
    sourceLines line = [line] :=
  splitBy_eq_singleton fun _ hc => beq_eq_false_iff_ne.2 fun heq => h (heq ▸ hc)

/-- Lines of code that are written one after the other are read one after the other. -/
theorem sourceLines_flatMap {ls : List (List Char)} (h : ∀ l ∈ ls, '\n' ∉ l) (rest : List Char) :
    sourceLines (ls.flatMap (· ++ ['\n']) ++ rest) = ls ++ sourceLines rest := by
  induction ls with
  | nil => rfl
  | cons l more ih =>
    have hl := sourceLines_eq_singleton (h l (by simp))
    have hmore := ih fun other hother => h other (by simp [hother])
    rw [List.flatMap_cons, List.append_assoc, List.append_assoc, List.singleton_append,
      sourceLines_feed, hl, hmore]
    rfl

/-! ## Texts that stand deeper -/

/-- No line of the text starts at the margin. -/
def Indented (s : List Char) : Prop := ∀ line ∈ sourceLines s, ∀ c ∈ line.head?, c = ' '

theorem Indented.feed {s t : List Char} (hs : Indented s) (ht : Indented t) :
    Indented (s ++ '\n' :: t) := by
  intro line hline
  rw [sourceLines_feed] at hline
  rcases List.mem_append.1 hline with hline | hline
  · exact hs line hline
  · exact ht line hline

theorem indented_nil : Indented [] := by
  intro line hline
  rw [List.mem_singleton.1 hline]
  exact nofun

/-- One line behind spaces stands deeper. -/
theorem indented_spaces {width : Nat} (hw : 0 < width) {line : List Char} (h : '\n' ∉ line) :
    Indented (spaces width ++ line) := by
  have hfeed : '\n' ∉ spaces width ++ line := by
    refine List.not_mem_append (fun hmem => ?_) h
    exact absurd (List.eq_of_mem_replicate hmem) (by decide)
  obtain ⟨n, rfl⟩ := Nat.exists_eq_succ_of_ne_zero (Nat.ne_of_gt hw)
  intro found hfound c hc
  rw [sourceLines_eq_singleton hfeed, List.mem_singleton] at hfound
  subst hfound
  exact (Option.some.inj hc).symm

theorem indented_joinWith {pieces : List (List Char)} (h : ∀ piece ∈ pieces, Indented piece) :
    Indented (joinWith ['\n'] pieces) := by
  induction pieces with
  | nil => exact indented_nil
  | cons piece rest ih =>
    have hpiece := h piece (by simp)
    have hrest := ih fun other hother => h other (by simp [hother])
    cases rest with
    | nil => exact hpiece
    | cons next more =>
      rw [joinWith, List.append_assoc]
      exact hpiece.feed hrest

/-- The lines of a text have none of the characters that end a line. -/
theorem endsLine_of_mem_lines {s line : List Char} (h : line ∈ lines s) :
    ∀ c ∈ line, endsLine c = false := by
  induction s generalizing line with
  | nil => exact absurd h List.not_mem_nil
  | cons c rest ih =>
    by_cases hpair : c = '\r' ∧ rest.headD ' ' = '\n'
    · -- the line feed behind the carriage return ends the line
      rw [hpair.1, lines_cons_pair hpair.2] at h
      exact ih h
    rw [lines_cons hpair] at h
    by_cases hend : endsLine c = true
    · rw [if_pos hend] at h
      rcases List.mem_cons.1 h with rfl | h
      · exact nofun
      · exact ih h
    · rw [if_neg hend] at h
      have hplain : endsLine c = false := Bool.eq_false_iff.2 hend
      cases hlines : lines rest with
      | nil =>
        rw [hlines, List.mem_singleton] at h
        subst h
        intro d hd
        rw [List.mem_singleton.1 hd, hplain]
      | cons first more =>
        rw [hlines] at h ih
        rcases List.mem_cons.1 h with rfl | h
        · intro d hd
          rcases List.mem_cons.1 hd with rfl | hd
          · exact hplain
          · exact ih (List.mem_cons_self ..) d hd
        · exact ih (List.mem_cons_of_mem _ h)

/-- **A text that was moved stands deeper**, whatever its lines were. -/
theorem indented_indent {width : Nat} (hw : 0 < width) (s : List Char) :
    Indented (indent width s) := by
  have hline : ∀ line ∈ lines (s ++ ['\n']), '\n' ∉ line := fun line hline hmem =>
    absurd (endsLine_of_mem_lines hline _ hmem) (by decide)
  have hmoved : ∀ line, '\n' ∉ line → Indented (indentLine width line) := by
    intro line h
    unfold indentLine
    split
    · exact indented_nil
    · exact indented_spaces hw h
  unfold indent
  split
  · exact List.append_nil (spaces width) ▸ indented_spaces hw List.not_mem_nil
  · next first more hlines =>
    rw [← joinWith_append_cons]
    refine indented_joinWith fun piece hpiece => ?_
    rcases List.mem_cons.1 hpiece with rfl | hpiece
    · exact indented_spaces hw (hline first (by simp [hlines]))
    · obtain ⟨line, hmem, rfl⟩ := List.mem_map.1 hpiece
      exact hmoved line (hline line (by simp [hlines, hmem]))

end Pagewright.Text

namespace Pagewright

open Pagewright.Text Pagewright.Markup

/-! ## Line feeds of the frame -/

namespace Markup

/-- A literal of code holds no line feed. -/
theorem feed_not_mem_quote (s : List Char) : '\n' ∉ quote s := by
  have hchar : ∀ c, '\n' ∉ quoteChar c := by
    intro c hmem
    by_cases hc : c = '\x85'
    · -- the one line end that stands for itself is no line feed
      rw [hc] at hmem
      exact absurd hmem (by decide)
    · exact absurd ((endsLine_quoteChar c).2 hc _ hmem) (by decide)
  refine List.not_mem_append (List.not_mem_cons_of_ne_of_not_mem (by decide) fun hmem => ?_)
    (by decide)
  obtain ⟨c, _, hc⟩ := List.mem_flatMap.1 hmem
  exact hchar c hc

/-- The literal of an attribute holds a line feed only if its text does. -/
theorem feed_not_mem_attributeLiteral {s : List Char} (h : '\n' ∉ s) :
    '\n' ∉ attributeLiteral s := by
  refine List.not_mem_append (List.not_mem_cons_of_ne_of_not_mem (by decide) fun hmem => ?_)
    (by decide)
  obtain ⟨c, hc, hd⟩ := List.mem_flatMap.1 hmem
  rcases attributeReference_writes.endsLine c with heq | ⟨_, hends⟩
  · rw [heq, List.mem_singleton] at hd
    exact h (hd ▸ hc)
  · exact absurd (hends _ hd) (by decide)

theorem mem_trimBy {p : Char → Bool} {s : List Char} {c : Char} (h : c ∈ trimBy p s) : c ∈ s := by
  rw [trimBy, List.mem_reverse] at h
  have hreversed := List.mem_reverse.1 ((List.dropWhile_sublist p).subset h)
  exact (List.dropWhile_sublist p).subset hreversed

theorem feed_not_mem_classList (s : List Char) : '\n' ∉ classList s := by
  intro hmem
  rcases mem_joinWith hmem with hmem | ⟨word, hword, hmem⟩
  · exact absurd hmem (by decide)
  · have hblank := (of_mem_words (List.mem_filter.1 hword).1).2 _ hmem
    exact absurd hblank (by decide)

/-- The classes of a container stand on one line. -/
theorem feed_not_mem_centredClasses (maxWidth : Value) : '\n' ∉ centredClasses maxWidth := by
  intro hmem
  exact List.not_mem_append (by decide) (feed_not_mem_classList _) (mem_trimBy hmem)

theorem feed_not_mem_containerClass (maxWidth : Value) :
    '\n' ∉ (containerClass maxWidth).toList := by
  unfold containerClass
  split <;> decide

theorem feed_not_mem_styleRules {rules : List (String × List Char)}
    (h : ∀ rule ∈ rules, '\n' ∉ rule.1.toList) : '\n' ∉ styleRules rules := by
  intro hmem
  rcases mem_joinWith hmem with hmem | ⟨text, htext, hmem⟩
  · exact absurd hmem (by decide)
  · obtain ⟨rule, hrule, rfl⟩ := List.mem_map.1 htext
    rcases List.mem_append.1 hmem with hmem | hmem
    · exact h rule hrule hmem
    · have hquote : '\n' ∈ quote rule.2 := by simpa using hmem
      exact feed_not_mem_quote _ hquote

/-- The start of a tag stands on one line if its attributes do. -/
theorem feed_not_mem_openTag {tag : String} {attributes : List Attribute}
    (htag : '\n' ∉ tag.toList) (h : ∀ a ∈ attributes, '\n' ∉ a.text) :
    '\n' ∉ openTag tag attributes := by
  refine List.not_mem_append (by simpa using htag) fun hmem => ?_
  obtain ⟨a, ha, hmem⟩ := List.mem_flatMap.1 hmem
  have hin : '\n' ∈ a.text := by simpa using hmem
  exact h a ha hin

/-- An attribute of one line. -/
theorem feed_not_mem_quoted {name : String} {value : List Char} (hname : '\n' ∉ name.toList)
    (hvalue : '\n' ∉ value) : '\n' ∉ (Attribute.quoted name value).text := by
  have hliteral : '\n' ∉ attributeLiteral value := feed_not_mem_attributeLiteral hvalue
  exact List.not_mem_append hname (by simpa using hliteral)

/-- Style rules stand on one line, since their values are literals. -/
theorem feed_not_mem_style {rules : List (String × List Char)}
    (h : ∀ rule ∈ rules, '\n' ∉ rule.1.toList) : '\n' ∉ (Attribute.style rules).text :=
  List.not_mem_append (List.not_mem_append (by decide) (feed_not_mem_styleRules h)) (by decide)

end Markup

/-! ## Markup that stands deeper -/

theorem indented_joinLines {pieces : List (List Char)} (h : ∀ piece ∈ pieces, Indented piece) :
    Indented (joinLines pieces) :=
  indented_joinWith fun piece hpiece => h piece (List.mem_filter.1 hpiece).1

/-- A body stands deeper, whatever is in it. -/
theorem indented_body {depth : Nat} (hd : 0 < depth) (items : List Markup) :
    Indented ((Markup.body items).text depth) := by
  rw [Markup.text]
  split
  · exact indented_nil
  · exact indented_indent hd _

/-- A block stands deeper if its tag stands on one line and its children stand deeper. -/
theorem indented_block {depth : Nat} (hd : 0 < depth) {tag : String} {attributes : List Attribute}
    {child : Markup} (htag : '\n' ∉ tag.toList) (hopen : ∀ a ∈ attributes, '\n' ∉ a.text)
    (hchild : Indented (child.text (depth + 2))) :
    Indented ((Markup.block tag attributes [child]).text depth) := by
  have hfirst : '\n' ∉ openTag tag attributes ++ ['>'] :=
    List.not_mem_append (feed_not_mem_openTag htag hopen) (by decide)
  have hlast : '\n' ∉ closeTag tag := by
    intro hmem
    have hin : '\n' ∈ tag.toList := by simpa [closeTag] using hmem
    exact htag hin
  rw [Markup.text]
  refine indented_joinLines fun piece hpiece => ?_
  simp only [List.mem_cons, List.not_mem_nil, or_false] at hpiece
  rcases hpiece with rfl | rfl | rfl
  · rw [List.append_assoc]
    exact indented_spaces hd hfirst
  · refine indented_joinLines fun piece hpiece => ?_
    rw [childTexts, childTexts, List.mem_singleton] at hpiece
    rw [hpiece]
    exact hchild
  · exact indented_spaces hd hlast

/-- **No line of a canvas starts at the margin.** -/
theorem indented_canvas (framework : Framework) (settings : PageSettings) (nodes : List Markup) :
    Indented ((framework.canvas settings nodes).text 4) := by
  have hbody : Indented ((Markup.body nodes).text 8) := indented_body (by decide) nodes
  have hdiv : '\n' ∉ "div".toList := by decide
  have hclass : '\n' ∉ "className".toList := by decide
  cases framework with
  | shadcn =>
    refine indented_block (by decide) hdiv ?_ (indented_block (by decide) hdiv ?_ hbody)
    · rintro a ha
      simp only [List.mem_cons, List.not_mem_nil, or_false] at ha
      rcases ha with rfl | rfl
      · exact feed_not_mem_quoted hclass (by decide)
      · exact feed_not_mem_style (by simp)
    · intro a ha
      rw [List.mem_singleton.1 ha]
      exact feed_not_mem_quoted hclass (feed_not_mem_centredClasses _)
  | bootstrap =>
    refine indented_block (by decide) hdiv ?_ (indented_block (by decide) hdiv ?_ hbody)
    · intro a ha
      rw [List.mem_singleton.1 ha]
      exact feed_not_mem_style (by simp)
    · intro a ha
      rw [List.mem_singleton.1 ha]
      exact feed_not_mem_quoted hclass (feed_not_mem_containerClass _)

/-! ## Readers -/

/-- May the character stand in a name of code? -/
def isNameChar (c : Char) : Bool := isPlain c || c == '_' || c == '$'

/-- A name of code. -/
def IsName (s : List Char) : Prop := s ≠ [] ∧ ∀ c ∈ s, isNameChar c = true

instance : DecidablePred IsName := fun s =>
  decidable_of_iff (s ≠ [] ∧ s.all isNameChar = true) (by rw [IsName, List.all_eq_true])

/-- The word that starts an import. -/
def importStart : List Char := "import ".toList

/-- The ways in which a line starts to declare a name of its own. -/
def declarationStarts : List (List Char) :=
  ["const ", "let ", "var ", "function ", "class "].flatMap fun keyword =>
    [keyword.toList, "export ".toList ++ keyword.toList, "export default ".toList ++ keyword.toList]

/-- The names that a line of code declares at the margin. An import declares the names between its
keywords. -/
def lineNames (line : List Char) : List (List Char) :=
  match importStart.isPrefixOf? line with
  | some clauses => (runsOf isNameChar (clauses.takeWhile (· ≠ '"'))).dropLast
  | none =>
    match declarationStarts.findSome? fun start => start.isPrefixOf? line with
    | some declared => (runsOf isNameChar declared).take 1
    | none => []

/-- The module that a line of code imports from. -/
def lineModules (line : List Char) : List (List Char) :=
  match importStart.isPrefixOf? line with
  | some clauses => (readLiteral (clauses.dropWhile (· ≠ '"')).dropLast).toList
  | none => []

/-- The names that a source file declares at its top level, in order. -/
def declaredNames (source : List Char) : List (List Char) := (sourceLines source).flatMap lineNames

/-- The modules that a source file imports, in order. -/
def importedModules (source : List Char) : List (List Char) :=
  (sourceLines source).flatMap lineModules

/-- A line that does not start at the margin is passed over. -/
theorem line_indented {line : List Char} (h : ∀ c ∈ line.head?, c = ' ') :
    lineNames line = [] ∧ lineModules line = [] := by
  cases line with
  | nil => exact ⟨rfl, rfl⟩
  | cons c rest =>
    obtain rfl : c = ' ' := h c rfl
    exact ⟨rfl, rfl⟩

/-! ## Import statements -/

namespace Import

/-- All that an import binds are names. -/
def IsNamed (i : Import) : Prop := ∀ name ∈ i.bindings, IsName name.toList

/-- What stands between the keyword of an import and its module. -/
def front (i : Import) : List Char :=
  if i.clauses.isEmpty then [] else joinWith ", ".toList i.clauses ++ " from ".toList

theorem statement_eq (i : Import) :
    i.statement = importStart ++ (i.front ++ (quote i.source.toList ++ [';'])) := by
  unfold statement front
  by_cases h : i.clauses.isEmpty = true
  · rw [if_pos h, if_pos h, List.nil_append, List.append_assoc]
    rfl
  · rw [if_neg h, if_neg h]
    simp only [List.append_assoc]
    rfl

theorem IsNamed.texts {i : Import} (h : i.IsNamed) :
    (∀ name ∈ i.main?.toList.map String.toList, IsName name) ∧
      ∀ name ∈ i.names.map String.toList, IsName name := by
  constructor
  · intro text htext
    obtain ⟨name, hname, rfl⟩ := List.mem_map.1 htext
    exact h name (List.mem_append_left _ hname)
  · intro text htext
    obtain ⟨name, hname, rfl⟩ := List.mem_map.1 htext
    exact h name (List.mem_append_right _ hname)

/-- Names stand in front of the module, and the marks that set them apart. -/
theorem IsNamed.mem_front {i : Import} (h : i.IsNamed) {c : Char} (hc : c ∈ i.front) :
    isNameChar c = true ∨ c ∈ [' ', ',', '\x7b', '\x7d'] := by
  have hfrom : ∀ c ∈ " from ".toList, isNameChar c = true ∨ c ∈ [' ', ',', '\x7b', '\x7d'] :=
    forall_mem_of_all (by decide)
  have hmarks : ∀ sep ∈ [", ".toList, "\x7b ".toList, " \x7d".toList], ∀ c ∈ sep,
      c ∈ [' ', ',', '\x7b', '\x7d'] := by
    have hall : ∀ sep ∈ [", ".toList, "\x7b ".toList, " \x7d".toList],
        (sep.all fun c => c ∈ [' ', ',', '\x7b', '\x7d']) = true := by decide
    exact fun sep hsep => forall_mem_of_all (hall sep hsep)
  have hname : ∀ name, IsName name → c ∈ name → isNameChar c = true := fun _ hn => hn.2 c
  obtain ⟨hmain, hnames⟩ := h.texts
  unfold front at hc
  split at hc
  · exact absurd hc List.not_mem_nil
  refine (List.mem_append.1 hc).elim (fun hc => ?_) (hfrom c)
  rcases mem_joinWith hc with hc | ⟨clause, hclause, hc⟩
  · exact Or.inr (hmarks _ (by simp) c hc)
  rcases List.mem_append.1 hclause with hclause | hclause
  · exact Or.inl (hname clause (hmain clause hclause) hc)
  -- the named bindings between their braces
  split at hclause
  · exact absurd hclause List.not_mem_nil
  rw [List.mem_singleton.1 hclause, List.append_assoc] at hc
  rcases List.mem_append.1 hc with hc | hc
  · exact Or.inr (hmarks _ (by simp) c hc)
  refine (List.mem_append.1 hc).elim (fun hc => ?_) fun hc => Or.inr (hmarks _ (by simp) c hc)
  rcases mem_joinWith hc with hc | ⟨name, hmem, hc⟩
  · exact Or.inr (hmarks _ (by simp) c hc)
  · exact Or.inl (hname name (hnames name hmem) hc)

/-- The words in front of the module are the bindings and the keyword behind them. -/
theorem IsNamed.runsOf_front {i : Import} (h : i.IsNamed) :
    (runsOf isNameChar i.front).dropLast = i.bindings.map String.toList := by
  obtain ⟨hmain, hnames⟩ := h.texts
  have hcomma : ∀ c ∈ ", ".toList, isNameChar c = false := forall_mem_of_all (by decide)
  have hopen : ∀ c ∈ "\x7b ".toList, isNameChar c = false := forall_mem_of_all (by decide)
  have hend : ∀ c ∈ " \x7d ".toList, isNameChar c = false := forall_mem_of_all (by decide)
  have hspace : ∀ c ∈ [' '], isNameChar c = false := forall_mem_of_all (by decide)
  have hstart : ∀ c ∈ ", \x7b ".toList, isNameChar c = false := forall_mem_of_all (by decide)
  have hfrom : runsOf isNameChar "from ".toList = ["from".toList] := by decide
  have hlist : runsOf isNameChar (joinWith ", ".toList (i.names.map String.toList) ++
      (" \x7d ".toList ++ "from ".toList)) = i.names.map String.toList ++ ["from".toList] := by
    rw [runsOf_joinWith_gap (by decide) hcomma (by decide) hend hnames, hfrom]
  rw [bindings, List.map_append]
  cases hm : i.main? with
  | none =>
    cases hn : i.names with
    | nil => simp [front, clauses, hm, hn, runsOf, splitBy]
    | cons first more =>
      have hfront : i.front = "\x7b ".toList ++ (joinWith ", ".toList (i.names.map String.toList) ++
          (" \x7d ".toList ++ "from ".toList)) := by
        simp [front, clauses, hm, hn, joinWith]
      rw [hfront, runsOf_gap hopen, hlist, List.dropLast_concat, hn]
      rfl
  | some main =>
    obtain ⟨hne, hword⟩ := hmain main.toList (by simp [hm])
    cases hn : i.names with
    | nil =>
      have hfront : i.front = main.toList ++ ([' '] ++ "from ".toList) := by
        simp [front, clauses, hm, hn, joinWith]
      rw [hfront, runsOf_run hne hword (by decide) hspace, hfrom]
      simp
    | cons first more =>
      have hfront : i.front = main.toList ++ (", \x7b ".toList ++
          (joinWith ", ".toList (i.names.map String.toList) ++
            (" \x7d ".toList ++ "from ".toList))) := by
        simp [front, clauses, hm, hn, joinWith]
      rw [hfront, runsOf_run hne hword (by decide) hstart, hlist, ← List.cons_append,
        List.dropLast_concat, hn]
      rfl

/-- **An import statement is read back**: one line with its bindings and its module. -/
theorem IsNamed.statement {i : Import} (h : i.IsNamed) : '\n' ∉ i.statement ∧
    lineNames i.statement = i.bindings.map String.toList ∧
    lineModules i.statement = [i.source.toList] := by
  have hquote : ∀ c ∈ i.front, c ≠ '"' := by
    rintro c hc rfl
    rcases h.mem_front hc with hname | hmark
    · exact absurd hname (by decide)
    · exact absurd hmark (by decide)
  have htake : (i.front ++ (quote i.source.toList ++ [';'])).takeWhile (· ≠ '"') = i.front := by
    rw [List.takeWhile_append_of_pos fun c hc => by simpa using hquote c hc, quote]
    simp
  have hdrop : (i.front ++ (quote i.source.toList ++ [';'])).dropWhile (· ≠ '"') =
      quote i.source.toList ++ [';'] := by
    rw [List.dropWhile_append_of_pos fun c hc => by simpa using hquote c hc, quote]
    simp
  refine ⟨?_, ?_, ?_⟩
  · rw [statement_eq]
    refine List.not_mem_append (by decide) (List.not_mem_append (fun hmem => ?_)
      (List.not_mem_append (feed_not_mem_quote _) (by decide)))
    rcases h.mem_front hmem with hname | hmark
    · exact absurd hname (by decide)
    · exact absurd hmark (by decide)
  · rw [lineNames, statement_eq, isPrefixOf?_append]
    dsimp only
    rw [htake, h.runsOf_front]
  · rw [lineModules, statement_eq, isPrefixOf?_append]
    dsimp only
    rw [hdrop, List.dropLast_concat, readLiteral_quote]
    rfl

end Import

/-! ## Source files -/

section SourceFile

variable {framework : Framework} {imports : List Import} {name : List Char}
  {settings : PageSettings} {nodes : List Markup}

/-- The line that declares the route of a page. -/
def routeLine (settings : PageSettings) : List Char :=
  "export const route = ".toList ++ quote settings.route.content ++ [';']

/-- The line that starts the component of a page. -/
def componentLine (name : List Char) : List Char :=
  "export default function ".toList ++ name ++ "() \x7b".toList

theorem pageSource_eq (framework : Framework) (imports : List Import) (name : List Char)
    (settings : PageSettings) (nodes : List Markup) :
    pageSource framework imports name settings nodes =
      (imports.map Import.statement ++
          [[], routeLine settings, [], componentLine name, "  return (".toList]).flatMap
          (· ++ ['\n']) ++
        ((framework.canvas settings nodes).text 4 ++ '\n' :: "  );\n\x7d\n".toList) := by
  have hroute : "\nexport const route = ".toList = '\n' :: "export const route = ".toList := by
    decide
  have hcomponent : ";\n\nexport default function ".toList =
      [';', '\n', '\n'] ++ "export default function ".toList := by decide
  have hreturn : "() \x7b\n  return (\n".toList =
      "() \x7b".toList ++ '\n' :: ("  return (".toList ++ ['\n']) := by decide
  have hlast : "\n  );\n\x7d\n".toList = '\n' :: "  );\n\x7d\n".toList := by decide
  -- an equation of `pageSource` would be checked by comparing the literals in it
  show imports.flatMap (fun i => i.statement ++ ['\n']) ++ _ ++ _ ++ _ ++ _ ++ _ ++ _ ++ _ =
    (_ ++ [[], "export const route = ".toList ++ _ ++ [';'], [],
      "export default function ".toList ++ _ ++ "() \x7b".toList, _]).flatMap _ ++ _
  simp only [hroute, hcomponent, hreturn, hlast, List.flatMap_append, List.flatMap_map,
    List.flatMap_cons, List.flatMap_nil, List.append_assoc, List.cons_append, List.nil_append,
    List.append_nil]

/-- The lines of a source file. -/
theorem sourceLines_pageSource (himports : ∀ i ∈ imports, i.IsNamed) (hname : IsName name) :
    sourceLines (pageSource framework imports name settings nodes) =
      (imports.map Import.statement ++
          [[], routeLine settings, [], componentLine name, "  return (".toList]) ++
        (sourceLines ((framework.canvas settings nodes).text 4) ++
          ["  );".toList, ['\x7d'], []]) := by
  have hroute : '\n' ∉ routeLine settings :=
    List.not_mem_append (List.not_mem_append (by decide) (feed_not_mem_quote _)) (by decide)
  have hfeed : '\n' ∉ name := fun hmem => absurd (hname.2 _ hmem) (by decide)
  have hcomponent : '\n' ∉ componentLine name :=
    List.not_mem_append (List.not_mem_append (by decide) hfeed) (by decide)
  have hlines : ∀ l ∈ imports.map Import.statement ++
      [[], routeLine settings, [], componentLine name, "  return (".toList], '\n' ∉ l := by
    intro l hl
    simp only [List.mem_append, List.mem_map, List.mem_cons, List.not_mem_nil, or_false] at hl
    rcases hl with ⟨i, hi, rfl⟩ | rfl | rfl | rfl | rfl | rfl
    · exact (himports i hi).statement.1
    · exact List.not_mem_nil
    · exact hroute
    · exact List.not_mem_nil
    · exact hcomponent
    · decide
  have hlast : sourceLines "  );\n\x7d\n".toList = ["  );".toList, ['\x7d'], []] := by decide
  rw [pageSource_eq, sourceLines_flatMap hlines, sourceLines_feed, hlast]

/-- What is read line by line is read from the imports, the route and the component. -/
theorem flatMap_sourceLines {α : Type} (read : List Char → List α)
    (hindented : ∀ line : List Char, (∀ c ∈ line.head?, c = ' ') → read line = [])
    (hclose : read ['\x7d'] = []) (himports : ∀ i ∈ imports, i.IsNamed) (hname : IsName name) :
    (sourceLines (pageSource framework imports name settings nodes)).flatMap read =
      imports.flatMap (fun i => read i.statement) ++
        (read (routeLine settings) ++ read (componentLine name)) := by
  have hempty : read [] = [] := hindented [] nofun
  have hspace (line : List Char) (h : line.head? = some ' ') : read line = [] := by
    refine hindented line fun c hc => ?_
    rw [h] at hc
    exact (Option.mem_some_iff.1 hc).symm
  have hreturn : read "  return (".toList = [] := hspace _ rfl
  have hend : read "  );".toList = [] := hspace _ rfl
  have hcanvas : (sourceLines ((framework.canvas settings nodes).text 4)).flatMap read = [] := by
    rw [List.flatMap_eq_nil_iff]
    exact fun line hline => hindented line (indented_canvas framework settings nodes line hline)
  rw [sourceLines_pageSource himports hname]
  simp only [List.flatMap_append, List.flatMap_map, List.flatMap_cons, List.flatMap_nil, hempty,
    hreturn, hend, hclose, hcanvas, List.nil_append, List.append_nil]

/-- **The names that a source file declares** are what its imports bind, its route, and its
component. -/
theorem declaredNames_pageSource (himports : ∀ i ∈ imports, i.IsNamed) (hname : IsName name) :
    declaredNames (pageSource framework imports name settings nodes) =
      imports.flatMap (fun i => i.bindings.map String.toList) ++ ["route".toList, name] := by
  have hroute : lineNames (routeLine settings) = ["route".toList] := by
    have hword : ∀ c ∈ "route".toList, isNameChar c = true := forall_mem_of_all (by decide)
    have hgap : ∀ c ∈ " = \"".toList, isNameChar c = false := forall_mem_of_all (by decide)
    have hruns := runsOf_run (by decide) hword (by decide) hgap
      (settings.route.content.flatMap quoteChar ++ ['"'] ++ [';'])
    have hline : lineNames (routeLine settings) = (runsOf isNameChar ("route".toList ++
        (" = \"".toList ++ (settings.route.content.flatMap quoteChar ++ ['"'] ++ [';'])))).take 1 :=
      rfl
    rw [hline, hruns]
    rfl
  have hcomponent : lineNames (componentLine name) = [name] := by
    have hgap : ∀ c ∈ "() \x7b".toList, isNameChar c = false := forall_mem_of_all (by decide)
    have hruns := runsOf_run hname.1 hname.2 (by decide) hgap []
    have hline : lineNames (componentLine name) =
        (runsOf isNameChar (name ++ ("() \x7b".toList ++ []))).take 1 := rfl
    rw [hline, hruns]
    rfl
  have hstatement : ∀ i ∈ imports, lineNames i.statement = i.bindings.map String.toList :=
    fun i hi => (himports i hi).statement.2.1
  rw [declaredNames, flatMap_sourceLines lineNames (fun line h => (line_indented h).1) rfl
    himports hname, hroute, hcomponent, List.flatMap_congr hstatement]
  rfl

/-- **The modules that a source file imports** are the sources of its imports. -/
theorem importedModules_pageSource (himports : ∀ i ∈ imports, i.IsNamed) (hname : IsName name) :
    importedModules (pageSource framework imports name settings nodes) =
      imports.map fun i => i.source.toList := by
  have hstatement : ∀ i ∈ imports, lineModules i.statement = [i.source.toList] :=
    fun i hi => (himports i hi).statement.2.2
  have hroute : lineModules (routeLine settings) = [] := rfl
  have hcomponent : lineModules (componentLine name) = [] := rfl
  rw [importedModules, flatMap_sourceLines lineModules (fun line h => (line_indented h).2) rfl
    himports hname, List.flatMap_congr hstatement, hroute, hcomponent, List.append_nil,
    List.append_nil, List.map_eq_flatMap]

end SourceFile

end Pagewright
