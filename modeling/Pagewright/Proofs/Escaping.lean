import Pagewright.Markup.Escape
import Pagewright.Proofs.Words
import Pagewright.Text.Lines

/-!
# Reading written texts back

A text is written at three kinds of slots: as a child of an element, as the literal of an
attribute, and as a string literal in code. Each slot has a reader of its own, which takes exactly
what may stand there: it refuses raw markup, a raw quote, an unfinished escape, and in code a raw
line break. `Slot.read_write` says that the reader of a slot gives back what was written at it.

Writing keeps some of the line ends of a text. `Slot.keeps` says when none is left: these are the
texts that stand in a file as they were written, wherever their element is moved.
-/

namespace Pagewright.Markup

open Pagewright.Text

/-! ## Slots -/

/-- A slot of generated code at which a text is written. -/
inductive Slot where
  | child
  | quoted
  | literal
deriving DecidableEq

/-- A text as it is written at a slot. -/
def Slot.write : Slot → List Char → List Char
  | .child => textChild
  | .quoted => attributeLiteral
  | .literal => quote

/-! ## Readers -/

/-- Reads a text symbol by symbol. A symbol is read from its first character and what stands
behind it, and leaves the rest. -/
def decode (symbol? : Char → List Char → Option (Char × List Char)) (s : List Char) :
    Option (List Char) :=
  match s with
  | [] => some []
  | c :: behind =>
    match symbol? c behind with
    | none => none
    | some (d, rest) =>
      if _h : rest.length ≤ behind.length then (decode symbol? rest).map (d :: ·) else none
termination_by s.length
decreasing_by exact Nat.lt_succ_of_le _h

/-- The character references without their ampersands. -/
def references : List (List Char × Char) :=
  [("amp;".toList, '&'), ("lt;".toList, '<'), ("gt;".toList, '>'), ("quot;".toList, '"'),
   ("#123;".toList, '\x7b'), ("#125;".toList, '\x7d')]

/-- A character reference, or a character that stands for itself. -/
def markupSymbol? (reserved : List Char) (c : Char) (behind : List Char) :
    Option (Char × List Char) :=
  if c = '&' then
    (references.find? fun r => r.1.isPrefixOf behind).map fun r => (r.2, behind.drop r.1.length)
  else if c ∈ reserved then none
  else some (c, behind)

/-- The value of a hexadecimal digit in lower case. -/
def hexValue? (c : Char) : Option Nat :=
  if '0' ≤ c ∧ c ≤ '9' then some (c.toNat - 48)
  else if 'a' ≤ c ∧ c ≤ 'f' then some (c.toNat - 87)
  else none

/-- The characters that an escape of one letter stands for. -/
def letterEscapes : List (Char × Char) :=
  [('"', '"'), ('\\', '\\'), ('n', '\n'), ('r', '\r'), ('t', '\t'), ('b', '\x08'), ('f', '\x0c')]

/-- The character of four digits. -/
def digitEscape? : List Char → Option (Char × List Char)
  | a :: b :: c :: d :: rest => do
    let digits ← [a, b, c, d].mapM hexValue?
    return (Char.ofNat (digits.foldl (fun n digit => n * 16 + digit) 0), rest)
  | _ => none

/-- An escape behind its backslash: a letter, or four digits. -/
def escape? : List Char → Option (Char × List Char)
  | [] => none
  | c :: rest => if c = 'u' then digitEscape? rest else (letterEscapes.lookup c).map (·, rest)

/-- An escape, or a character that stands for itself. -/
def literalSymbol? (c : Char) (behind : List Char) : Option (Char × List Char) :=
  if c = '\\' then escape? behind
  else if c = '"' ∨ breaksLine c = true then none
  else some (c, behind)

/-- What stands between two brackets. -/
def inside? (left right : Char) : List Char → Option (List Char)
  | [] => none
  | c :: rest => if c = left ∧ rest.getLast? = some right then some rest.dropLast else none

/-- The text that a string literal stands for. -/
def readLiteral (s : List Char) : Option (List Char) :=
  (inside? '"' '"' s).bind (decode literalSymbol?)

/-- The text that is read at a slot. -/
def Slot.read : Slot → List Char → Option (List Char)
  | .child, s =>
    if s.head? = some '\x7b' then (inside? '\x7b' '\x7d' s).bind readLiteral
    else decode (markupSymbol? ['<', '>', '\x7b', '\x7d']) s
  | .quoted, s =>
    (inside? '"' '"' s).bind (decode (markupSymbol? ['<', '>', '\x7b', '\x7d', '"']))
  | .literal, s => readLiteral s

theorem inside?_brackets (left right : Char) (s : List Char) :
    inside? left right (left :: s ++ [right]) = some s := by
  rw [List.cons_append, inside?, if_pos ⟨rfl, by simp⟩]
  simp

/-- **What is written symbol by symbol is read symbol by symbol.** -/
theorem decode_flatMap {symbol? : Char → List Char → Option (Char × List Char)}
    {code : Char → List Char} (h : ∀ c rest, ∃ first more, code c = first :: more ∧
      symbol? first (more ++ rest) = some (c, rest)) (s : List Char) :
    decode symbol? (s.flatMap code) = some s := by
  induction s with
  | nil => rw [List.flatMap_nil, decode]
  | cons c rest ih =>
    obtain ⟨first, more, hcode, hsymbol⟩ := h c (rest.flatMap code)
    rw [List.flatMap_cons, hcode, List.cons_append, decode, hsymbol]
    simp [ih]

/-! ## Markup -/

/-- A code that writes characters by references: each character by its reference, or as itself when
it is neither an ampersand nor reserved. -/
def WritesReferences (code : Char → List Char) (reserved : List Char) : Prop :=
  ∀ c, (∃ name, (name, c) ∈ references ∧ code c = '&' :: name) ∨
    c ∉ '&' :: reserved ∧ code c = [c]

theorem attributeReference_writes :
    WritesReferences attributeReference ['<', '>', '\x7b', '\x7d', '"'] := by
  intro c
  unfold attributeReference textReference
  split
  · next hc => exact Or.inl ⟨"quot;".toList, by rw [hc]; decide, rfl⟩
  split
  · next hc => exact Or.inl ⟨"amp;".toList, by rw [hc]; decide, rfl⟩
  split
  · next hc => exact Or.inl ⟨"lt;".toList, by rw [hc]; decide, rfl⟩
  split
  · next hc => exact Or.inl ⟨"gt;".toList, by rw [hc]; decide, rfl⟩
  split
  · next hc => exact Or.inl ⟨"#123;".toList, by rw [hc]; decide, rfl⟩
  split
  · next hc => exact Or.inl ⟨"#125;".toList, by rw [hc]; decide, rfl⟩
  · next hquot hamp hlt hgt hopen hclose =>
    exact Or.inr ⟨by simp [hquot, hamp, hlt, hgt, hopen, hclose], rfl⟩

/-- A text child is written like an attribute, but for the quote. -/
theorem textReference_writes : WritesReferences textReference ['<', '>', '\x7b', '\x7d'] := by
  intro c
  by_cases hc : c = '"'
  · exact Or.inr ⟨by rw [hc]; decide, by rw [hc]; rfl⟩
  · have h := attributeReference_writes c
    rw [attributeReference, if_neg hc] at h
    refine h.imp id (And.imp_left fun hfree hmem => hfree ?_)
    exact List.mem_append_left ['"'] hmem

/-- Every reference is read in front of any rest. -/
theorem markupSymbol?_reference (reserved rest : List Char) : ∀ r ∈ references,
    markupSymbol? reserved '&' (r.1 ++ rest) = some (r.2, rest) := by
  simp only [references, List.forall_mem_cons]
  exact ⟨rfl, rfl, rfl, rfl, rfl, rfl, nofun⟩

/-- A character is read from its reference or from itself. -/
theorem WritesReferences.markupSymbol? {code : Char → List Char} {reserved : List Char}
    (h : WritesReferences code reserved) (c : Char) (rest : List Char) :
    ∃ first more, code c = first :: more ∧
      Markup.markupSymbol? reserved first (more ++ rest) = some (c, rest) := by
  rcases h c with ⟨name, hname, hcode⟩ | ⟨hfree, hcode⟩
  · exact ⟨_, _, hcode, markupSymbol?_reference reserved rest _ hname⟩
  · obtain ⟨hamp, hfree⟩ := not_or.1 (mt List.mem_cons.2 hfree)
    exact ⟨_, _, hcode, by rw [Markup.markupSymbol?, if_neg hamp, if_neg hfree]; rfl⟩

/-- A written text never starts like a string expression. -/
theorem head?_textReferences_ne (s : List Char) :
    (s.flatMap textReference).head? ≠ some '\x7b' := by
  cases s with
  | nil => simp
  | cons c rest =>
    obtain ⟨first, more, hcode, hsymbol⟩ := textReference_writes.markupSymbol? c []
    rw [List.flatMap_cons, hcode, List.cons_append, List.head?_cons]
    rintro h
    rw [Option.some.inj h, show markupSymbol? _ '\x7b' (more ++ []) = none from rfl] at hsymbol
    contradiction

/-! ## String literals -/

theorem hexValue?_hexDigit : ∀ n < 16, hexValue? (hexDigit n) = some n := by decide

/-- The four digits of a number below 65536 are read back. -/
theorem digitEscape?_hexDigits {n : Nat} (h : n < 65536) (rest : List Char) :
    digitEscape? (hexDigits 4 n ++ rest) = some (Char.ofNat n, rest) := by
  have hdigit : ∀ k, hexValue? (hexDigit (k % 16)) = some (k % 16) := fun k =>
    hexValue?_hexDigit _ (Nat.mod_lt _ (by decide))
  have hn : (((0 * 16 + n / 16 / 16 / 16 % 16) * 16 + n / 16 / 16 % 16) * 16 + n / 16 % 16) * 16 +
      n % 16 = n := by omega
  simp only [hexDigits, List.nil_append, List.cons_append, digitEscape?, List.mapM_cons,
    List.mapM_nil, hdigit, bind, Option.bind, pure, List.foldl_cons, List.foldl_nil, hn]

/-- A character of a literal is written by its letter, by its number, or as itself. -/
theorem quoteChar_cases (c : Char) :
    (∃ letter, (letter, c) ∈ letterEscapes ∧ quoteChar c = ['\\', letter]) ∨
      (c.toNat < 0x20 ∨ c = '\u2028' ∨ c = '\u2029') ∧
        quoteChar c = '\\' :: 'u' :: hexDigits 4 c.toNat ∨
      (c ≠ '"' ∧ c ≠ '\\' ∧ 0x20 ≤ c.toNat ∧ c ≠ '\u2028' ∧ c ≠ '\u2029') ∧
        quoteChar c = [c] := by
  unfold quoteChar
  split
  · next hc => exact Or.inl ⟨'"', by rw [hc]; decide, rfl⟩
  split
  · next hc => exact Or.inl ⟨'\\', by rw [hc]; decide, rfl⟩
  split
  · next hc => exact Or.inl ⟨'n', by rw [hc]; decide, rfl⟩
  split
  · next hc => exact Or.inl ⟨'r', by rw [hc]; decide, rfl⟩
  split
  · next hc => exact Or.inl ⟨'t', by rw [hc]; decide, rfl⟩
  split
  · next hc => exact Or.inl ⟨'b', by rw [hc]; decide, rfl⟩
  split
  · next hc => exact Or.inl ⟨'f', by rw [hc]; decide, rfl⟩
  split
  · next hc => exact Or.inr (Or.inl ⟨hc, rfl⟩)
  · next hquote hslash _ _ _ _ _ hcontrol =>
    obtain ⟨hlow, hline, hparagraph⟩ := by simpa only [not_or] using hcontrol
    exact Or.inr (Or.inr ⟨⟨hquote, hslash, Nat.not_lt.1 hlow, hline, hparagraph⟩, rfl⟩)

/-- What is escaped by number has few enough digits. -/
theorem toNat_lt_of_numbered {c : Char} (h : c.toNat < 0x20 ∨ c = '\u2028' ∨ c = '\u2029') :
    c.toNat < 0xD800 := by
  rcases h with h | rfl | rfl
  · omega
  · decide
  · decide

/-- A character is read from its written form in a literal. -/
theorem literalSymbol?_quoteChar (c : Char) (rest : List Char) :
    ∃ first more, quoteChar c = first :: more ∧
      literalSymbol? first (more ++ rest) = some (c, rest) := by
  rcases quoteChar_cases c with ⟨letter, hmem, hcode⟩ | ⟨hc, hcode⟩ | ⟨hc, hcode⟩
  · have hall : ∀ e ∈ letterEscapes, e.1 ≠ 'u' ∧ letterEscapes.lookup e.1 = some e.2 := by decide
    obtain ⟨hu, hlookup⟩ := hall _ hmem
    refine ⟨_, _, hcode, ?_⟩
    rw [literalSymbol?, if_pos rfl, List.singleton_append, escape?, if_neg hu, hlookup]
    rfl
  · have hlt : c.toNat < 65536 := Nat.lt_trans (toNat_lt_of_numbered hc) (by decide)
    refine ⟨_, _, hcode, ?_⟩
    rw [literalSymbol?, if_pos rfl, List.cons_append, escape?, if_pos rfl,
      digitEscape?_hexDigits hlt, Char.ofNat_toNat]
  · obtain ⟨hquote, hslash, hlow, hline, hparagraph⟩ := hc
    have hfeed : c ≠ '\n' := by rintro rfl; exact absurd hlow (by decide)
    have hreturn : c ≠ '\r' := by rintro rfl; exact absurd hlow (by decide)
    have hbreak : ¬(c = '"' ∨ breaksLine c = true) := by
      simp [breaksLine, hquote, hfeed, hreturn, hline, hparagraph]
    refine ⟨_, _, hcode, ?_⟩
    rw [literalSymbol?, if_neg hslash, if_neg hbreak]
    rfl

theorem readLiteral_quote (s : List Char) : readLiteral (quote s) = some s := by
  rw [readLiteral, quote, inside?_brackets]
  exact decode_flatMap literalSymbol?_quoteChar s

/-- **What is written at a slot is read there.** -/
theorem Slot.read_write (slot : Slot) (s : List Char) : slot.read (slot.write s) = some s := by
  cases slot with
  | child =>
    simp only [write, textChild, read]
    split
    · rw [if_pos (by rfl), inside?_brackets]
      exact readLiteral_quote s
    · rw [if_neg (head?_textReferences_ne s)]
      exact decode_flatMap textReference_writes.markupSymbol? s
  | quoted =>
    simp only [write, attributeLiteral, read]
    rw [inside?_brackets]
    exact decode_flatMap attributeReference_writes.markupSymbol? s
  | literal => exact readLiteral_quote s

/-! ## Line ends of written texts -/

/-- No reference ends a line, and neither does what it stands for. -/
theorem endsLine_reference : ∀ r ∈ references, endsLine r.2 = false ∧
    ∀ d ∈ '&' :: r.1, endsLine d = false := by
  have hall : ∀ r ∈ references, endsLine r.2 = false ∧
      (('&' :: r.1).all fun d => endsLine d = false) = true := by decide
  exact fun r hr => ⟨(hall r hr).1, forall_mem_of_all (hall r hr).2⟩

/-- A character stands for itself, or neither it nor its reference ends a line. -/
theorem WritesReferences.endsLine {code : Char → List Char} {reserved : List Char}
    (h : WritesReferences code reserved) (c : Char) :
    code c = [c] ∨ endsLine c = false ∧ ∀ d ∈ code c, endsLine d = false := by
  rcases h c with ⟨name, hname, hcode⟩ | ⟨_, hcode⟩
  · rw [hcode]
    exact Or.inr (endsLine_reference (name, c) hname)
  · exact Or.inl hcode

/-- Writing markup keeps the line ends of a text and makes none. -/
theorem endsLine_flatMap {code : Char → List Char} (h : ∀ c, code c = [c] ∨
    endsLine c = false ∧ ∀ d ∈ code c, endsLine d = false) (s : List Char) :
    (∀ d ∈ s.flatMap code, endsLine d = false) ↔ ∀ c ∈ s, endsLine c = false := by
  simp only [List.mem_flatMap]
  constructor
  · intro hall c hc
    rcases h c with heq | ⟨hend, _⟩
    · exact hall c ⟨c, hc, by rw [heq]; simp⟩
    · exact hend
  · rintro hall d ⟨c, hc, hd⟩
    rcases h c with heq | ⟨_, hend⟩
    · rw [heq] at hd
      rw [List.mem_singleton.1 hd, hall c hc]
    · exact hend d hd

theorem mem_hexDigits {d : Char} : ∀ {width n : Nat}, d ∈ hexDigits width n →
    ∃ k < 16, d = hexDigit k
  | 0, _, h => nomatch h
  | width + 1, n, h => by
    rcases List.mem_append.1 h with h | h
    · exact mem_hexDigits h
    · exact ⟨n % 16, Nat.mod_lt _ (by decide), List.mem_singleton.1 h⟩

theorem endsLine_iff {c : Char} : endsLine c = true ↔ c ∈ ['\n', '\r', '\x0b', '\x0c', '\x1c',
    '\x1d', '\x1e', '\x85', '\u2028', '\u2029'] := by
  simp only [endsLine, Bool.or_eq_true, beq_iff_eq, List.mem_cons, List.not_mem_nil, or_false,
    or_assoc]

/-- The next line U+0085 is the only line end that a literal does not escape. -/
theorem endsLine_quoteChar (c : Char) :
    (∀ d ∈ quoteChar c, endsLine d = false) ↔ c ≠ '\x85' := by
  by_cases hc : c = '\x85'
  · subst hc
    exact iff_of_false (fun h => absurd (h '\x85' (by decide)) (by decide)) fun h => h rfl
  refine iff_of_true ?_ hc
  rcases quoteChar_cases c with ⟨letter, hmem, hcode⟩ | ⟨_, hcode⟩ | ⟨hself, hcode⟩
  · have hall : ∀ e ∈ letterEscapes, endsLine e.1 = false := by decide
    have hletter : endsLine letter = false := hall (letter, c) hmem
    rw [hcode, List.forall_mem_cons, List.forall_mem_singleton]
    exact ⟨by decide, hletter⟩
  · have hall : ∀ k < 16, endsLine (hexDigit k) = false := by decide
    rw [hcode, List.forall_mem_cons, List.forall_mem_cons]
    refine ⟨by decide, by decide, fun d hd => ?_⟩
    obtain ⟨k, hk, rfl⟩ := mem_hexDigits hd
    exact hall k hk
  · obtain ⟨_, _, hlow, hline, hparagraph⟩ := hself
    have hall : ∀ d ∈ ['\n', '\r', '\x0b', '\x0c', '\x1c', '\x1d', '\x1e', '\x85', '\u2028',
        '\u2029'], d.toNat < 0x20 ∨ d = '\x85' ∨ d = '\u2028' ∨ d = '\u2029' :=
      forall_mem_of_all (by decide)
    rw [hcode, List.forall_mem_singleton, ← Bool.not_eq_true, endsLine_iff]
    intro hend
    -- the line ends below U+0020 are control characters, which are escaped
    rcases hall c hend with h | h | h | h
    · exact Nat.not_lt.2 hlow h
    · exact hc h
    · exact hline h
    · exact hparagraph h

/-- Does a text have no line end left when it is written? -/
def Slot.keeps : Slot → List Char → Bool
  | .child, s => if s.any breaksLine then !s.contains '\x85' else s.all fun c => !endsLine c
  | .quoted, s => s.all fun c => !endsLine c
  | .literal, s => !s.contains '\x85'

theorem endsLine_brackets {left right : Char} (hl : endsLine left = false)
    (hr : endsLine right = false) (s : List Char) :
    (∀ d ∈ left :: s ++ [right], endsLine d = false) ↔ ∀ d ∈ s, endsLine d = false := by
  simp only [List.cons_append, List.mem_cons, List.mem_append, List.not_mem_nil, or_false]
  constructor
  · exact fun h d hd => h d (Or.inr (Or.inl hd))
  · rintro h d (rfl | hd | rfl)
    · exact hl
    · exact h d hd
    · exact hr

theorem endsLine_quote (s : List Char) :
    (∀ d ∈ quote s, endsLine d = false) ↔ (!s.contains '\x85') = true := by
  have hchars : (∀ d ∈ s.flatMap quoteChar, endsLine d = false) ↔ ∀ c ∈ s, ¬c = '\x85' := by
    simp only [List.mem_flatMap]
    constructor
    · exact fun h c hc => (endsLine_quoteChar c).1 fun d hd => h d ⟨c, hc, hd⟩
    · rintro h d ⟨c, hc, hd⟩
      exact (endsLine_quoteChar c).2 (h c hc) d hd
  rw [quote, endsLine_brackets (by decide) (by decide), hchars, List.forall_mem_ne']
  simp

/-- **A written text has no line end exactly when its slot keeps it.** -/
theorem Slot.keeps_iff (slot : Slot) (s : List Char) :
    slot.keeps s = true ↔ ∀ d ∈ slot.write s, endsLine d = false := by
  have hall : (s.all fun c => !endsLine c) = true ↔ ∀ c ∈ s, endsLine c = false := by
    simp
  cases slot with
  | child =>
    simp only [keeps, write, textChild]
    split
    · rw [endsLine_brackets (by decide) (by decide), endsLine_quote]
    · rw [hall, endsLine_flatMap textReference_writes.endsLine]
  | quoted =>
    rw [keeps, hall, write, attributeLiteral, endsLine_brackets (by decide) (by decide),
      endsLine_flatMap attributeReference_writes.endsLine]
  | literal => rw [keeps, write, endsLine_quote]

/-- A line feed stands in a written text only if something else ends it. -/
theorem Slot.exists_last_of_feed {slot : Slot} {s : List Char} (h : '\n' ∈ slot.write s) :
    ∃ front d, slot.write s = front ++ [d] ∧ endsLine d = false := by
  cases slot with
  | child =>
    simp only [write, textChild] at h ⊢
    split at h
    · next hbreak => exact ⟨_, '\x7d', by rw [if_pos hbreak], by decide⟩
    · next hbreak =>
      -- a line feed of the text would have made it a string expression
      obtain ⟨c, hc, hd⟩ := List.mem_flatMap.1 h
      rcases textReference_writes.endsLine c with heq | ⟨_, hend⟩
      · rw [heq] at hd
        exact absurd (List.any_eq_true.2 ⟨c, hc, by rw [← List.mem_singleton.1 hd]; decide⟩) hbreak
      · exact absurd (hend _ hd) (by decide)
  | quoted => exact ⟨_, '"', rfl, by decide⟩
  | literal => exact ⟨_, '"', rfl, by decide⟩

end Pagewright.Markup
