import Pagewright.Text.Lines

/-!
# What indenting does to a text

`indent` cuts a text into lines and joins them again. Read from left to right it does something
simpler: it writes every character that ends no line as it is, and a line feed with spaces behind
it for every line end (`indent_eq`). What becomes of a character depends on what stands behind it
only. So a text that is put together out of parts can be moved part by part
(`moved_append`), and a part without a line end is not touched (`moved_eq_self`).

A part with a line end never comes out as it was, however often it is moved
(`Moved.moved_eq_iff`): a line end other than a line feed is replaced for good, and a line feed in
front of something else makes the part longer each time.
-/

namespace Pagewright.Text

/-! ## Moving a text character by character -/

/-- Does a line that holds something start here? -/
def startsLine : List Char → Bool
  | [] => false
  | c :: _ => !endsLine c

/-- What becomes of a character with `after` behind it. A carriage return leaves its line end to
the line feed behind it, also to the one that is appended to the whole text. -/
def movedChar (width : Nat) (c : Char) (after : List Char) : List Char :=
  if c = '\r' ∧ after.headD '\n' = '\n' then []
  else if endsLine c then '\n' :: if startsLine after then spaces width else []
  else [c]

/-- What becomes of a part of a text with `after` behind it. -/
def moved (width : Nat) : (part : List Char) → (after : List Char) → List Char
  | [], _ => []
  | c :: rest, after => movedChar width c (rest ++ after) ++ moved width rest after

theorem moved_append (width : Nat) (s t after : List Char) :
    moved width (s ++ t) after = moved width s (t ++ after) ++ moved width t after := by
  induction s with
  | nil => rfl
  | cons c rest ih => rw [List.cons_append, moved, moved, ih, List.append_assoc, List.append_assoc]

/-- The lines behind a character that is not the carriage return of a pair. -/
theorem lines_cons {c : Char} {s : List Char} (hp : ¬(c = '\r' ∧ s.headD ' ' = '\n')) :
    lines (c :: s) = if endsLine c then [] :: lines s else match lines s with
      | [] => [[c]]
      | line :: more => (c :: line) :: more := by
  rw [lines.eq_def]
  split
  · next h => cases h
  · next h => cases h; exact absurd ⟨rfl, rfl⟩ hp
  · next h => cases h; rfl

/-- A carriage return in front of a line feed ends no line of its own. -/
theorem lines_cons_pair {s : List Char} (h : s.headD ' ' = '\n') : lines ('\r' :: s) = lines s := by
  cases s with
  | nil => exact absurd h (by decide)
  | cons c rest =>
    obtain rfl : c = '\n' := h
    rfl

theorem joinWith_append_cons (sep front first : List Char) (more : List (List Char)) :
    joinWith sep ((front ++ first) :: more) = front ++ joinWith sep (first :: more) := by
  cases more with
  | nil => rfl
  | cons next rest => simp only [joinWith, List.append_assoc]

/-- The lines of a text that ends with a line feed: whether the first holds something, and what
joining them with spaces gives. -/
theorem exists_lines (width : Nat) (s : List Char) :
    ∃ first more, lines (s ++ ['\n']) = first :: more ∧ first.isEmpty = !startsLine s ∧
      joinWith ['\n'] (first :: more.map (indentLine width)) = moved width s [] := by
  induction s with
  | nil => exact ⟨[], [], rfl, rfl, rfl⟩
  | cons c rest ih =>
    obtain ⟨first, more, hlines, hempty, hjoin⟩ := ih
    by_cases hpair : c = '\r' ∧ rest.headD '\n' = '\n'
    · -- the line feed behind the carriage return ends the line
      obtain ⟨rfl, hhead⟩ := hpair
      have hstart : startsLine rest = false := by
        cases rest with
        | nil => rfl
        | cons d _ => obtain rfl : d = '\n' := hhead; rfl
      refine ⟨first, more, ?_, by rw [hempty, hstart]; rfl, ?_⟩
      · rw [List.cons_append, lines_cons_pair, hlines]
        cases rest with
        | nil => rfl
        | cons d _ => exact hhead
      · rw [hjoin, moved, movedChar, if_pos ⟨rfl, by simpa using hhead⟩, List.nil_append]
    · by_cases hend : endsLine c = true
      · -- the first line is empty, and the lines behind it are further lines now
        refine ⟨[], first :: more, ?_, by simp [startsLine, hend], ?_⟩
        · rw [List.cons_append, lines_cons, if_pos hend, hlines]
          cases rest <;> simpa using hpair
        · rw [moved, movedChar, if_neg (by simpa using hpair), if_pos hend, List.append_nil,
              ← hjoin]
          rw [List.map_cons, joinWith, List.nil_append, List.singleton_append, List.cons_append]
          -- the next line is moved if it holds something
          rw [indentLine, hempty]
          cases hstart : startsLine rest with
          | true => exact congrArg _ (joinWith_append_cons ..)
          | false =>
            obtain rfl : first = [] := by simpa [hstart] using hempty
            rfl
      · -- the first line gets a character in front, and is still not moved
        have hplain : endsLine c = false := by simpa using hend
        refine ⟨c :: first, more, ?_, by simp [startsLine, hplain], ?_⟩
        · rw [List.cons_append, lines_cons, if_neg hend, hlines]
          cases rest <;> simpa using hpair
        rw [moved, movedChar, if_neg (by simpa using hpair), if_neg hend, ← hjoin]
        cases more <;> rfl

/-- **Indenting moves a text character by character**, behind the spaces of its first line. -/
theorem indent_eq (width : Nat) (s : List Char) :
    indent width s = spaces width ++ moved width s [] := by
  obtain ⟨first, more, hlines, _, hjoin⟩ := exists_lines width s
  rw [indent, hlines, ← hjoin]

/-! ## Parts that come out as they were -/

/-- A part without a line end is not touched. -/
theorem moved_eq_self {s : List Char} (h : ∀ c ∈ s, endsLine c = false) (width : Nat)
    (after : List Char) : moved width s after = s := by
  induction s with
  | nil => rfl
  | cons c rest ih =>
    have hc := h c (by simp)
    have hr : c ≠ '\r' := by rintro rfl; exact absurd hc (by decide)
    rw [moved, ih fun d hd => h d (by simp [hd]), movedChar, if_neg fun hp => hr hp.1, hc]
    rfl

/-- The line ends of a part that was moved are line feeds. -/
theorem eq_of_endsLine_moved {width : Nat} {s after : List Char} {c : Char}
    (h : c ∈ moved width s after) (hc : endsLine c = true) : c = '\n' := by
  induction s with
  | nil => exact absurd h List.not_mem_nil
  | cons d rest ih =>
    rcases List.mem_append.1 h with h | h
    · unfold movedChar at h
      split at h
      · exact absurd h List.not_mem_nil
      · split at h
        · rcases List.mem_cons.1 h with rfl | h
          · rfl
          · split at h
            · rw [List.eq_of_mem_replicate h] at hc
              exact absurd hc (by decide)
            · exact absurd h List.not_mem_nil
        · rename_i hd
          rw [List.mem_singleton.1 h] at hc
          exact absurd hc hd
    · exact ih h

/-- A line feed stays one. -/
theorem feed_mem_moved {width : Nat} {s after : List Char} (h : '\n' ∈ s) :
    '\n' ∈ moved width s after := by
  induction s with
  | nil => exact absurd h List.not_mem_nil
  | cons c rest ih =>
    rcases List.mem_cons.1 h with rfl | h
    · exact List.mem_append_left _ (List.mem_cons_self ..)
    · exact List.mem_append_right _ (ih h)

theorem moved_singleton {d : Char} (hd : endsLine d = false) (width : Nat) (after : List Char) :
    moved width [d] after = [d] :=
  moved_eq_self (fun c hc => by rw [List.mem_singleton.1 hc, hd]) width after

theorem length_movedChar_pos {c : Char} (h : endsLine c = true → c = '\n') (width : Nat)
    (after : List Char) : 1 ≤ (movedChar width c after).length := by
  have hr : c ≠ '\r' := by rintro rfl; exact absurd (h (by decide)) (by decide)
  rw [movedChar, if_neg fun hp => hr hp.1]
  split <;> simp

/-- A part whose line ends are line feeds does not get shorter. -/
theorem length_le_moved {s : List Char} (hf : ∀ c ∈ s, endsLine c = true → c = '\n') (width : Nat)
    (after : List Char) : s.length ≤ (moved width s after).length := by
  induction s with
  | nil => exact Nat.le_refl _
  | cons c rest ih =>
    have hpos := length_movedChar_pos (hf c (by simp)) width (rest ++ after)
    have := ih fun d hd => hf d (by simp [hd])
    rw [moved, List.length_append, List.length_cons]
    omega

/-- A part gets longer if a line feed in it has something behind it. -/
theorem length_lt_moved {s : List Char} (hf : ∀ c ∈ s, endsLine c = true → c = '\n')
    (hn : '\n' ∈ s) {width : Nat} (hw : 0 < width) {d : Char} (hd : endsLine d = false)
    (after : List Char) : s.length < (moved width s (d :: after)).length := by
  induction s with
  | nil => exact absurd hn List.not_mem_nil
  | cons c rest ih =>
    have hrest : ∀ e ∈ rest, endsLine e = true → e = '\n' := fun e he => hf e (by simp [he])
    have hle := length_le_moved hrest width (d :: after)
    rw [moved, List.length_append, List.length_cons]
    by_cases hlater : '\n' ∈ rest
    · have hpos := length_movedChar_pos (hf c (by simp)) width (rest ++ d :: after)
      have := ih hrest hlater
      omega
    · -- the last line feed of the part: a line that holds something starts behind it
      obtain rfl : c = '\n' := by simpa [hlater, eq_comm] using hn
      have hstart : startsLine (rest ++ d :: after) = true := by
        cases rest with
        | nil => simp [startsLine, hd]
        | cons e more =>
          have he : endsLine e = false := Bool.eq_false_iff.2 fun he =>
            hlater (by simp [hrest e (by simp) he])
          simp [startsLine, he]
      have : (movedChar width '\n' (rest ++ d :: after)).length = width + 1 := by
        simp [movedChar, endsLine, hstart, spaces]
      omega

/-- What has become of a part of a text: it was moved any number of times. -/
inductive Moved (s : List Char) : List Char → Prop where
  | never : Moved s s
  | again {t : List Char} (width : Nat) (after : List Char) :
      Moved s t → Moved s (moved width t after)

theorem Moved.eq_self {s t : List Char} (h : Moved s t) (hs : ∀ c ∈ s, endsLine c = false) :
    t = s := by
  induction h with
  | never => rfl
  | again width after _ ih => rw [ih, moved_eq_self hs]

/-- A part that ends with something else than a line end keeps that end, its line feeds, and its
length. -/
theorem Moved.grows {front t : List Char} {d : Char} (h : Moved (front ++ [d]) t)
    (hd : endsLine d = false) (hn : '\n' ∈ front)
    (hf : ∀ c ∈ front, endsLine c = true → c = '\n') :
    ∃ front', t = front' ++ [d] ∧ '\n' ∈ front' ∧
      (∀ c ∈ front', endsLine c = true → c = '\n') ∧ front.length ≤ front'.length := by
  induction h with
  | never => exact ⟨front, rfl, hn, hf, Nat.le_refl _⟩
  | again width after _ ih =>
    obtain ⟨front', rfl, hn', hf', hle⟩ := ih
    refine ⟨moved width front' ([d] ++ after), ?_, feed_mem_moved hn',
      fun c hc hend => eq_of_endsLine_moved hc hend,
      Nat.le_trans hle (length_le_moved hf' width _)⟩
    rw [moved_append, moved_singleton hd]

/--
**A part with a line end never comes out as it was.**

Its last line has to hold something, or line feeds must not be among its line ends.
-/
theorem Moved.moved_eq_iff {s t : List Char} (h : Moved s t) {width : Nat} (hw : 0 < width)
    (hlast : '\n' ∈ s → ∃ front d, s = front ++ [d] ∧ endsLine d = false) (after : List Char) :
    moved width t after = s ↔ ∀ c ∈ s, endsLine c = false := by
  constructor
  · intro heq c hc
    refine Bool.eq_false_iff.2 fun hend => ?_
    -- what was moved has no line ends but line feeds, so the part had no others either
    have hf : ∀ e ∈ s, endsLine e = true → e = '\n' := fun e he hend =>
      eq_of_endsLine_moved (heq ▸ he) hend
    obtain rfl := hf c hc hend
    obtain ⟨front, d, rfl, hd⟩ := hlast hc
    have hn : '\n' ∈ front := by
      refine (List.mem_append.1 hc).resolve_right fun hmem => ?_
      rw [← List.mem_singleton.1 hmem] at hd
      exact absurd hd (by decide)
    -- then it has grown, and grows once more: its length does not fit
    obtain ⟨front', rfl, hn', hf', hle⟩ := h.grows hd hn fun e he => hf e (by simp [he])
    have hlt := length_lt_moved hf' hn' hw hd after
    have hlen := congrArg List.length heq
    rw [moved_append, moved_singleton hd, List.length_append, List.length_append,
      List.singleton_append] at hlen
    omega
  · intro hs
    rw [h.eq_self hs, moved_eq_self hs]

end Pagewright.Text
