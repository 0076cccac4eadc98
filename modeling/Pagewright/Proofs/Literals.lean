import Pagewright.Format.Json
import Pagewright.Proofs.Escaping

/-!
# Escaped texts meet other readers

The readers of `Proofs/Escaping` know how a text is written. Here escaped texts meet readers that
do not. A string literal is a JSON text: the reader of `Format/Json` goes through its bytes and
gives the text back, whatever characters the text has. A text with character references is read in
one pass by a reader that takes every reference it can make out and leaves the rest as it stands,
and which may know more names than were ever written.

Both rest on a step for one character, `stringBytes?_quoteChar` and `referenceSymbol?_reference`.
The reader of JSON works on bytes, so a character may stand for itself only if no byte of it is a
quote, a backslash or a control character (`plain_utf8EncodeChar`).
-/

namespace Pagewright

open Pagewright.Text Pagewright.Markup

/-! ## The bytes of a text -/

/-- Going through bytes from a place on lists what stands from there on. -/
theorem toList_loop (before after read : List UInt8) :
    ByteArray.toList.loop (before ++ after).toByteArray before.length read =
      read.reverse ++ after := by
  induction after generalizing before read with
  | nil =>
    rw [ByteArray.toList.loop.eq_def, if_neg (by simp [List.size_toByteArray])]
    simp
  | cons b rest ih =>
    have hsize : before.length < (before ++ b :: rest).toByteArray.size := by
      simp [List.size_toByteArray]
    have hget : (before ++ b :: rest).toByteArray.get! before.length = b := by
      simp [ByteArray.get!, List.data_toByteArray]
    have hnext := ih (before ++ [b]) (b :: read)
    rw [List.append_assoc, List.singleton_append, List.length_append, List.length_singleton,
      List.reverse_cons, List.append_assoc, List.singleton_append] at hnext
    rw [ByteArray.toList.loop.eq_def, if_pos hsize, hget, hnext]

/-- The bytes of a text are those of its characters. -/
theorem toList_toUTF8 (s : List Char) :
    (String.ofList s).toUTF8.toList = s.flatMap String.utf8EncodeChar := by
  rw [String.toUTF8_eq_toByteArray, String.toByteArray_ofList, List.utf8Encode]
  exact toList_loop [] _ []

theorem fromUTF8?_bytes (s : List Char) :
    String.fromUTF8? ⟨(s.flatMap String.utf8EncodeChar).toArray⟩ = some (String.ofList s) := by
  have hbytes : (⟨(s.flatMap String.utf8EncodeChar).toArray⟩ : ByteArray) =
      (String.ofList s).toByteArray := by
    rw [String.toByteArray_ofList, List.utf8Encode]
    exact ByteArray.ext List.data_toByteArray.symm
  rw [hbytes, String.fromUTF8?, dif_pos (String.ofList s).isValidUTF8]
  rfl

/-! ## A literal is a JSON text -/

namespace Json

theorem utf8_eq (c : Char) : utf8 c = String.utf8EncodeChar c := by
  have h := toList_toUTF8 [c]
  rwa [List.flatMap_singleton] at h

/-- Does the byte stand for itself inside a string? -/
def IsPlain (b : UInt8) : Prop := b ≠ 0x22 ∧ b ≠ 0x5C ∧ ¬b < 0x20

theorem isPlain_ofNat {n : Nat} (hlow : 0x20 ≤ n) (hhigh : n < 256) (hquote : n ≠ 0x22)
    (hslash : n ≠ 0x5C) : IsPlain (UInt8.ofNat n) := by
  have hval : (UInt8.ofNat n).toNat = n := by
    rw [UInt8.toNat_ofNat']
    omega
  refine ⟨fun heq => hquote ?_, fun heq => hslash ?_, fun hlt => ?_⟩
  · rw [← hval, heq]
    rfl
  · rw [← hval, heq]
    rfl
  · rw [UInt8.lt_iff_toNat_lt, hval] at hlt
    exact absurd hlt (Nat.not_lt.2 hlow)

/-- The bytes of a character that is no quote, no backslash and no control character stand for
themselves. -/
theorem plain_utf8EncodeChar {c : Char} (hlow : 0x20 ≤ c.toNat) (hquote : c ≠ '"')
    (hslash : c ≠ '\\') : ∀ b ∈ String.utf8EncodeChar c, IsPlain b := by
  have hc : 0x20 ≤ c.val.toNat := hlow
  have hq : c.val.toNat ≠ 0x22 := fun heq => hquote (Char.toNat_inj.1 heq)
  have hs : c.val.toNat ≠ 0x5C := fun heq => hslash (Char.toNat_inj.1 heq)
  intro b hb
  unfold String.utf8EncodeChar at hb
  dsimp only at hb
  split at hb
  · rw [List.mem_singleton.1 hb]
    exact isPlain_ofNat hc (by omega) hq hs
  -- every byte of a longer code is 0x80 or more
  split at hb
  · simp only [List.mem_cons, List.not_mem_nil, or_false] at hb
    rcases hb with rfl | rfl <;> exact isPlain_ofNat (by omega) (by omega) (by omega) (by omega)
  split at hb
  · simp only [List.mem_cons, List.not_mem_nil, or_false] at hb
    rcases hb with rfl | rfl | rfl <;>
      exact isPlain_ofNat (by omega) (by omega) (by omega) (by omega)
  · simp only [List.mem_cons, List.not_mem_nil, or_false] at hb
    rcases hb with rfl | rfl | rfl | rfl <;>
      exact isPlain_ofNat (by omega) (by omega) (by omega) (by omega)

theorem stringBytes?_plain {bytes : List UInt8} (h : ∀ b ∈ bytes, IsPlain b)
    (read rest : List UInt8) :
    stringBytes? .plain read (bytes ++ rest) =
      stringBytes? .plain (bytes.reverse ++ read) rest := by
  induction bytes generalizing read with
  | nil => rfl
  | cons b more ih =>
    obtain ⟨hquote, hslash, hlow⟩ := h b (by simp)
    rw [List.cons_append, stringBytes?, if_neg hquote, if_neg hslash, if_neg hlow,
      ih fun d hd => h d (by simp [hd]), List.reverse_cons, List.append_assoc,
      List.singleton_append]

/-- An escape by letter. -/
theorem stringBytes?_letter {b : UInt8} {c : Char} (hb : b ≠ 0x75) (h : letterEscape? b = some c)
    (read rest : List UInt8) :
    stringBytes? .plain read (0x5C :: b :: rest) =
      stringBytes? .plain ((utf8 c).reverse ++ read) rest := by
  rw [stringBytes?, if_neg (by decide), if_pos rfl, stringBytes?, if_neg hb, h]

theorem utf8_hexDigit : ∀ n < 16, ∃ b, utf8 (hexDigit n) = [b] ∧ hexValue? b = some n := by
  have hall : ∀ n < 16, String.utf8EncodeChar (hexDigit n) = [UInt8.ofNat (hexDigit n).toNat] ∧
      hexValue? (UInt8.ofNat (hexDigit n).toNat) = some n := by decide
  intro n hn
  exact ⟨_, (utf8_eq _).trans (hall n hn).1, (hall n hn).2⟩

/-- An escape by number, below the surrogates. -/
theorem stringBytes?_digits {n : Nat} (h : n < 0xD800) (read rest : List UInt8) :
    stringBytes? .plain read (0x5C :: 0x75 :: ((hexDigits 4 n).flatMap utf8 ++ rest)) =
      stringBytes? .plain ((utf8 (Char.ofNat n)).reverse ++ read) rest := by
  have hdigit : ∀ k, ∃ b, utf8 (hexDigit (k % 16)) = [b] ∧ hexValue? b = some (k % 16) :=
    fun k => utf8_hexDigit _ (Nat.mod_lt _ (by decide))
  obtain ⟨a, ha, hva⟩ := hdigit (n / 16 / 16 / 16)
  obtain ⟨b, hb, hvb⟩ := hdigit (n / 16 / 16)
  obtain ⟨c, hc, hvc⟩ := hdigit (n / 16)
  obtain ⟨d, hd, hvd⟩ := hdigit n
  have hbytes : (hexDigits 4 n).flatMap utf8 = [a, b, c, d] := by
    simp only [hexDigits, List.nil_append, List.cons_append, List.flatMap_cons, List.flatMap_nil,
      ha, hb, hc, hd]
  have hn : (((0 * 16 + n / 16 / 16 / 16 % 16) * 16 + n / 16 / 16 % 16) * 16 + n / 16 % 16) * 16 +
      n % 16 = n := by omega
  have hescaped : escaped? n none = some (.inl (Char.ofNat n)) := if_pos (Or.inl h)
  rw [hbytes, stringBytes?, if_neg (by decide), if_pos rfl, stringBytes?, if_pos rfl]
  simp only [List.cons_append, List.nil_append, stringBytes?, hva, hvb, hvc, hvd, hn, hescaped]
  rfl

/-- **The written form of a character is read as the character**, whatever stands behind it. -/
theorem stringBytes?_quoteChar (c : Char) (read rest : List UInt8) :
    stringBytes? .plain read ((quoteChar c).flatMap utf8 ++ rest) =
      stringBytes? .plain ((utf8 c).reverse ++ read) rest := by
  have hslash : utf8 '\\' = [0x5C] := utf8_eq _
  rcases quoteChar_cases c with ⟨letter, hmem, hcode⟩ | ⟨hc, hcode⟩ | ⟨hself, hcode⟩
  · have hall : ∀ e ∈ letterEscapes,
        String.utf8EncodeChar e.1 = [UInt8.ofNat e.1.toNat] ∧ UInt8.ofNat e.1.toNat ≠ 0x75 ∧
          letterEscape? (UInt8.ofNat e.1.toNat) = some e.2 := by decide
    obtain ⟨hbyte, hb, hescape⟩ := hall (letter, c) hmem
    rw [hcode, List.flatMap_cons, List.flatMap_singleton, hslash, utf8_eq letter, hbyte]
    exact stringBytes?_letter hb hescape read rest
  · have hu : utf8 'u' = [0x75] := utf8_eq _
    have hdigits := stringBytes?_digits (toNat_lt_of_numbered hc) read rest
    rw [Char.ofNat_toNat] at hdigits
    rw [hcode, List.flatMap_cons, List.flatMap_cons, hslash, hu]
    exact hdigits
  · obtain ⟨hquote, hbackslash, hlow, _⟩ := hself
    rw [hcode, List.flatMap_singleton, utf8_eq]
    exact stringBytes?_plain (plain_utf8EncodeChar hlow hquote hbackslash) read rest

theorem stringBytes?_quoted (s : List Char) (read rest : List UInt8) :
    stringBytes? .plain read ((s.flatMap quoteChar).flatMap utf8 ++ 0x22 :: rest) =
      some ((s.flatMap utf8).reverse ++ read, rest) := by
  induction s generalizing read with
  | nil => rfl
  | cons c more ih =>
    rw [List.flatMap_cons, List.flatMap_append, List.append_assoc, stringBytes?_quoteChar, ih,
      List.flatMap_cons, List.reverse_append, List.append_assoc]

/-- **The literal of a text is JSON for the text.** -/
theorem read_quote (s : List Char) :
    read (String.ofList (quote s)).toUTF8.toList = .ok (.text (String.ofList s)) := by
  have hutf8 : String.utf8EncodeChar = utf8 := funext fun c => (utf8_eq c).symm
  have hquote : utf8 '"' = [0x22] := utf8_eq _
  have hbytes : (String.ofList (quote s)).toUTF8.toList =
      0x22 :: ((s.flatMap quoteChar).flatMap utf8 ++ [0x22]) := by
    rw [toList_toUTF8, hutf8, quote, List.cons_append, List.flatMap_cons, List.flatMap_append,
      List.flatMap_singleton, hquote]
    rfl
  have hstring : readString ((s.flatMap quoteChar).flatMap utf8 ++ [0x22]) =
      .ok (String.ofList s, []) := by
    rw [readString, stringBytes?_quoted, List.append_nil]
    dsimp only
    rw [List.reverse_reverse, ← hutf8, fromUTF8?_bytes]
  rw [hbytes, read]
  show (readValue _ _ >>= _) = _
  rw [readValue]
  show ((readString _ >>= _) >>= _) = _
  rw [hstring]
  rfl

end Json

/-! ## A reader of character references -/

namespace Markup

/-- The names that every reader of markup knows. -/
def knownNames : List (List Char × Char) :=
  [("amp".toList, '&'), ("lt".toList, '<'), ("gt".toList, '>'), ("quot".toList, '"'),
   ("apos".toList, '\x27')]

/-- The character of a reference, by what stands between its ampersand and its semicolon: a decimal
number, a known name, or a further name that this reader knows. -/
def referenced? (further : List Char → Option Char) (name : List Char) : Option Char :=
  match name with
  | '#' :: digit :: digits =>
    if (digit :: digits).all Char.isDigit then
      some (Char.ofNat (Nat.ofDigitChars 10 (digit :: digits) 0))
    else further name
  | _ => (knownNames.lookup name).or (further name)

/-- A reference, or a character that stands for itself, as an ampersand does that starts none. -/
def referenceSymbol? (further : List Char → Option Char) (c : Char) (behind : List Char) :
    Option (Char × List Char) :=
  if c = '&' then
    match behind.dropWhile (· != ';'), referenced? further (behind.takeWhile (· != ';')) with
    | _ :: rest, some d => some (d, rest)
    | _, _ => some (c, behind)
  else some (c, behind)

/-- Reads the character references of a text in one pass from left to right. -/
def readReferences (further : List Char → Option Char) (s : List Char) : Option (List Char) :=
  decode (referenceSymbol? further) s

variable (further : List Char → Option Char)

/-- **A written reference is made out** in front of any rest, whatever further names are known. -/
theorem referenceSymbol?_reference (rest : List Char) : ∀ r ∈ references,
    referenceSymbol? further '&' (r.1 ++ rest) = some (r.2, rest) := by
  simp only [references, List.forall_mem_cons]
  exact ⟨rfl, rfl, rfl, rfl, rfl, rfl, fun _ h => absurd h List.not_mem_nil⟩

/-- **What is written by references is read back.** -/
theorem WritesReferences.readReferences {code : Char → List Char} {reserved : List Char}
    (h : WritesReferences code reserved) (s : List Char) :
    Markup.readReferences further (s.flatMap code) = some s := by
  refine decode_flatMap (fun c rest => ?_) s
  rcases h c with ⟨name, hname, hcode⟩ | ⟨hfree, hcode⟩
  · exact ⟨_, _, hcode, referenceSymbol?_reference further rest _ hname⟩
  · have hamp : c ≠ '&' := fun heq => hfree (heq ▸ List.mem_cons_self ..)
    exact ⟨_, _, hcode, if_neg hamp⟩

/-! ## Characters that are never left raw -/

/-- A reference has no reserved character. -/
theorem reference_closed : ∀ r ∈ references,
    ∀ d ∈ '&' :: r.1, d ∉ ['<', '>', '\x7b', '\x7d', '"'] := by
  have hall : ∀ r ∈ references,
      (('&' :: r.1).all fun d => d ∉ ['<', '>', '\x7b', '\x7d', '"']) = true := by decide
  exact fun r hr => forall_mem_of_all (hall r hr)

/-- What is written by references has no reserved character. -/
theorem WritesReferences.closed {code : Char → List Char} {reserved : List Char}
    (h : WritesReferences code reserved) (hreserved : reserved ⊆ ['<', '>', '\x7b', '\x7d', '"'])
    (s : List Char) : ∀ d ∈ s.flatMap code, d ∉ reserved := by
  intro d hd
  obtain ⟨c, _, hd⟩ := List.mem_flatMap.1 hd
  rcases h c with ⟨name, hname, hcode⟩ | ⟨hfree, hcode⟩
  · exact fun hmem => reference_closed _ hname d (hcode ▸ hd) (hreserved hmem)
  · rw [hcode, List.mem_singleton] at hd
    exact fun hmem => hfree (hd ▸ List.mem_cons_of_mem _ hmem)

/-- A character that may stand in a literal: neither a control character nor a line terminator. -/
def IsLiteralChar (c : Char) : Prop := 0x20 ≤ c.toNat ∧ c ≠ '\u2028' ∧ c ≠ '\u2029'

instance (c : Char) : Decidable (IsLiteralChar c) :=
  inferInstanceAs (Decidable (_ ∧ _ ∧ _))

theorem IsLiteralChar.breaksLine_eq_false {c : Char} (h : IsLiteralChar c) :
    breaksLine c = false := by
  obtain ⟨hlow, hline, hparagraph⟩ := h
  have hfeed : c ≠ '\n' := by rintro rfl; exact absurd hlow (by decide)
  have hreturn : c ≠ '\r' := by rintro rfl; exact absurd hlow (by decide)
  simp [breaksLine, hfeed, hreturn, hline, hparagraph]

theorem quoteChar_closed (c : Char) : ∀ d ∈ quoteChar c, IsLiteralChar d := by
  rcases quoteChar_cases c with ⟨letter, hmem, hcode⟩ | ⟨_, hcode⟩ | ⟨hself, hcode⟩
  · have hall : ∀ e ∈ letterEscapes, IsLiteralChar e.1 := by decide
    have hletter : IsLiteralChar letter := hall (letter, c) hmem
    rw [hcode, List.forall_mem_cons, List.forall_mem_singleton]
    exact ⟨by decide, hletter⟩
  · have hall : ∀ k < 16, IsLiteralChar (hexDigit k) := by decide
    rw [hcode, List.forall_mem_cons, List.forall_mem_cons]
    refine ⟨by decide, by decide, fun d hd => ?_⟩
    obtain ⟨k, hk, rfl⟩ := mem_hexDigits hd
    exact hall k hk
  · rw [hcode, List.forall_mem_singleton]
    exact hself.2.2

theorem quote_closed (s : List Char) : ∀ d ∈ quote s, IsLiteralChar d := by
  intro d hd
  rw [quote, List.mem_append, List.mem_cons, List.mem_singleton] at hd
  rcases hd with (rfl | hd) | rfl
  · decide
  · obtain ⟨c, _, hd⟩ := List.mem_flatMap.1 hd
    exact quoteChar_closed c d hd
  · decide

/--
**Escaping loses nothing and leaves nothing raw.**

A text child is the text with references, without a raw markup character, or, when the text breaks
a line, a literal between braces. An attribute is a quoted text with references, without a raw
markup character or a raw quote inside. A literal is JSON for its text and has neither a control
character nor a line terminator. References are read in one pass, whatever further names the
reader knows.
-/
theorem escaped_closed_and_read (s : String) :
    (if s.toList.any breaksLine then
      ∃ inner, textChild s.toList = '\x7b' :: ('"' :: inner ++ ['"']) ++ ['\x7d'] ∧
        (∀ c ∈ inner, c ∉ ['\r', '\n', '\u2028', '\u2029']) ∧
        Json.read (String.ofList ('"' :: inner ++ ['"'])).toUTF8.toList = .ok (.text s)
    else
      (∀ c ∈ textChild s.toList, c ∉ ['<', '>', '\x7b', '\x7d']) ∧
        readReferences further (textChild s.toList) = some s.toList) ∧
    (∃ inner, attributeLiteral s.toList = '"' :: inner ++ ['"'] ∧
      (∀ c ∈ inner, c ∉ ['<', '>', '\x7b', '\x7d', '"']) ∧
      readReferences further inner = some s.toList) ∧
    Json.read (String.ofList (quote s.toList)).toUTF8.toList = .ok (.text s) ∧
    ∀ c ∈ quote s.toList, 0x20 ≤ c.toNat ∧ c ≠ '\u2028' ∧ c ≠ '\u2029' := by
  have hread : Json.read (String.ofList (quote s.toList)).toUTF8.toList = .ok (.text s) := by
    rw [Json.read_quote, String.ofList_toList]
  refine ⟨?_, ⟨s.toList.flatMap attributeReference, rfl,
    attributeReference_writes.closed (List.Subset.refl _) _,
    attributeReference_writes.readReferences further _⟩, hread, quote_closed _⟩
  split
  · next hbreak =>
    refine ⟨s.toList.flatMap quoteChar, if_pos hbreak, fun c hc hmem => ?_, hread⟩
    obtain ⟨d, _, hd⟩ := List.mem_flatMap.1 hc
    have hkept := (quoteChar_closed d c hd).breaksLine_eq_false
    have hall : ∀ d ∈ ['\r', '\n', '\u2028', '\u2029'], breaksLine d = true :=
      forall_mem_of_all (by decide)
    exact absurd (hall c hmem) (by rw [hkept]; decide)
  · next hbreak =>
    have htext : textChild s.toList = s.toList.flatMap textReference := if_neg hbreak
    rw [htext]
    exact ⟨textReference_writes.closed (List.subset_append_left _ ['"']) _,
      textReference_writes.readReferences further _⟩

end Markup

end Pagewright
