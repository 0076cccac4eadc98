import Pagewright.Markup.Basic
import Pagewright.Proofs.Escaping
import Pagewright.Proofs.Indenting

/-!
# Markup as pieces

The text of markup is a row of pieces: what the layout writes itself, and what the given texts are
written as. `Markup.pieces` cuts the text there, and keeps with each written piece its slot, the
text that was written, and the image that stands in the markup now. The image is what the slot
made of the text, unless a body was moved around it.

`pieceText_pieces` says that the pieces are the text, and `values_pieces` that they hold every
given text once and in order. An image is what was written, moved as often as bodies enclose it
(`genuine_pieces`), so it is unchanged exactly when the slot keeps the text
(`image_eq_write_iff`).
-/

namespace Pagewright

open Pagewright.Text Pagewright.Markup

/-! ## Pieces -/

/-- A stretch of generated code: text of the layout, or the image of a text at a slot. -/
inductive Piece where
  | plain (text : List Char)
  | written (slot : Slot) (value image : List Char)

namespace Piece

/-- The code of a piece. -/
def text : Piece → List Char
  | .plain s => s
  | .written _ _ image => image

/-- The text that a piece is the image of, with its slot. -/
def value? : Piece → Option (Slot × List Char)
  | .plain _ => none
  | .written slot value _ => some (slot, value)

/-- A text written at a slot. -/
def write (slot : Slot) (value : List Char) : Piece := .written slot value (slot.write value)

/-- A piece moved `width` columns, with `after` behind it. -/
def moved (width : Nat) (after : List Char) : Piece → Piece
  | .plain s => .plain (Text.moved width s after)
  | .written slot value image => .written slot value (Text.moved width image after)

end Piece

/-- The code of pieces. -/
def pieceText (pieces : List Piece) : List Char := pieces.flatMap Piece.text

/-- The texts that pieces are images of. -/
def pieceValues (pieces : List Piece) : List (Slot × List Char) := pieces.filterMap Piece.value?

/-- Pieces moved `width` columns, each with the others behind it. -/
def movedPieces (width : Nat) : List Piece → List Piece
  | [] => []
  | piece :: rest => piece.moved width (pieceText rest) :: movedPieces width rest

/-- Joins rows of pieces by line feeds; a row without code takes no line. -/
def joinPieces : List (List Piece) → List Piece
  | [] => []
  | row :: rest =>
    row ++
      (if pieceText row = [] ∨ pieceText (joinPieces rest) = [] then [] else [.plain ['\n']]) ++
      joinPieces rest

/-! ## The pieces of markup -/

namespace Markup

/-- The pieces of what a click does. -/
def ClickAction.pieces : ClickAction → List Piece
  | .visit url => [.plain "\x7b() => \x7b window.location.href = ".toList, .write .literal url,
      .plain "; \x7d\x7d".toList]
  | .announce message => [.plain "\x7b() => alert(".toList, .write .literal message,
      .plain ")\x7d".toList]

/-- The pieces of the rules of a style object. -/
def rulePieces : List (String × List Char) → List Piece
  | [] => []
  | [rule] => [.plain (rule.1.toList ++ [':', ' ']), .write .literal rule.2]
  | rule :: next :: rest =>
    .plain (rule.1.toList ++ [':', ' ']) :: .write .literal rule.2 :: .plain ", ".toList ::
      rulePieces (next :: rest)

/-- The pieces of an attribute. -/
def Attribute.pieces : Attribute → List Piece
  | .flag name => [.plain name.toList]
  | .quoted name value => [.plain (name.toList ++ ['=']), .write .quoted value]
  | .numeral name value => [.plain (name.toList ++ '=' :: '\x7b' :: value ++ ['\x7d'])]
  | .style rules =>
    .plain "style=\x7b\x7b ".toList :: rulePieces rules ++ [.plain " \x7d\x7d".toList]
  | .onClick action => .plain "onClick=".toList :: action.pieces

/-- The pieces of the start of a tag. -/
def openPieces (tag : String) (attributes : List Attribute) : List Piece :=
  .plain ('<' :: tag.toList) :: attributes.flatMap fun a => .plain [' '] :: a.pieces

end Markup

mutual

/-- The pieces of markup that stands `depth` columns deep. -/
def Markup.pieces (depth : Nat) : Markup → List Piece
  | .passage content => [.plain (spaces depth), .write .child content]
  | .single tag attributes =>
    .plain (spaces depth) :: openPieces tag attributes ++ [.plain " />".toList]
  | .short tag attributes content =>
    .plain (spaces depth) :: openPieces tag attributes ++
      [.plain ['>'], .write .child content, .plain (closeTag tag)]
  | .block tag attributes children =>
    joinPieces [.plain (spaces depth) :: openPieces tag attributes ++ [.plain ['>']],
      joinPieces (childPieces (depth + 2) children), [.plain (spaces depth ++ closeTag tag)]]
  | .body items =>
    let inner := joinPieces (childPieces 0 items)
    (if pieceText inner = [] then [] else [.plain (spaces depth)]) ++ movedPieces depth inner
  | .verbatim content => [.plain content]

/-- The rows of pieces of markup that stands equally deep. -/
def childPieces (depth : Nat) : List Markup → List (List Piece)
  | [] => []
  | piece :: rest => piece.pieces depth :: childPieces depth rest

end

/-! ## The given texts of markup -/

/-- The text that an action is given. -/
def Markup.ClickAction.target : ClickAction → List Char
  | .visit url => url
  | .announce message => message

/-- The texts that an attribute is given, with their slots. -/
def Markup.Attribute.values : Attribute → List (Slot × List Char)
  | .flag _ => []
  | .quoted _ value => [(.quoted, value)]
  | .numeral _ _ => []
  | .style rules => rules.map fun rule => (.literal, rule.2)
  | .onClick action => [(.literal, action.target)]

mutual

/-- The texts that markup is given, with their slots, in the order in which they are written. -/
def Markup.values : Markup → List (Slot × List Char)
  | .passage content => [(.child, content)]
  | .single _ attributes => attributes.flatMap Attribute.values
  | .short _ attributes content => attributes.flatMap Attribute.values ++ [(.child, content)]
  | .block _ attributes children => attributes.flatMap Attribute.values ++ markupValues children
  | .body items => markupValues items
  | .verbatim _ => []

/-- The texts that pieces of markup are given. -/
def markupValues : List Markup → List (Slot × List Char)
  | [] => []
  | piece :: rest => piece.values ++ markupValues rest

end

theorem mem_markupValues {items : List Markup} {given : Slot × List Char} :
    given ∈ markupValues items ↔ ∃ m ∈ items, given ∈ m.values := by
  induction items with
  | nil => simp [markupValues]
  | cons m rest ih => simp [markupValues, ih]

/-! ## Pieces and texts -/

@[simp]
theorem pieceText_nil : pieceText [] = [] := rfl

@[simp]
theorem pieceText_cons (piece : Piece) (rest : List Piece) :
    pieceText (piece :: rest) = piece.text ++ pieceText rest := rfl

@[simp]
theorem pieceText_append (first more : List Piece) :
    pieceText (first ++ more) = pieceText first ++ pieceText more := List.flatMap_append

/-- Moving pieces moves their code. -/
theorem pieceText_movedPieces (width : Nat) (pieces : List Piece) :
    pieceText (movedPieces width pieces) = moved width (pieceText pieces) [] := by
  induction pieces with
  | nil => rfl
  | cons piece rest ih =>
    rw [movedPieces, pieceText_cons, ih, pieceText_cons, moved_append, List.append_nil]
    cases piece <;> rfl

theorem joinLines_cons (t : List Char) (rest : List (List Char)) :
    joinLines (t :: rest) =
      t ++ (if t = [] ∨ joinLines rest = [] then [] else ['\n']) ++ joinLines rest := by
  unfold joinLines
  cases t with
  | nil => simp
  | cons c s =>
    rw [List.filter_cons_of_pos (by rfl)]
    cases hrest : rest.filter fun piece => !piece.isEmpty with
    | nil => simp [joinWith]
    | cons u more =>
      have hu : u ≠ [] := by
        have : u ∈ rest.filter fun piece => !piece.isEmpty := by rw [hrest]; simp
        simpa using (List.mem_filter.1 this).2
      have hjoin : joinWith ['\n'] (u :: more) ≠ [] := by
        cases more <;> simp [joinWith, hu]
      rw [joinWith, if_neg (by simp [hjoin])]

/-- Joining rows of pieces joins their code. -/
theorem pieceText_joinPieces (rows : List (List Piece)) :
    pieceText (joinPieces rows) = joinLines (rows.map pieceText) := by
  induction rows with
  | nil => rfl
  | cons row rest ih =>
    rw [joinPieces, List.map_cons, joinLines_cons, ← ih, pieceText_append, pieceText_append]
    split <;> rfl

theorem pieceText_rulePieces (rules : List (String × List Char)) :
    pieceText (rulePieces rules) = styleRules rules := by
  unfold styleRules
  induction rules with
  | nil => rfl
  | cons rule rest ih =>
    cases rest with
    | nil =>
      simp only [rulePieces, pieceText_cons, pieceText_nil, Piece.text, Piece.write, Slot.write,
        List.map_cons, List.map_nil, joinWith, List.append_nil, List.append_assoc,
        List.cons_append, List.nil_append]
    | cons next more =>
      rw [rulePieces, pieceText_cons, pieceText_cons, pieceText_cons, ih]
      simp only [Piece.text, Piece.write, Slot.write, List.map_cons, joinWith, List.append_assoc,
        List.cons_append, List.nil_append]

theorem pieceText_click (action : ClickAction) : pieceText action.pieces = action.handler := by
  cases action with
  | visit url =>
    show "\x7b() => \x7b window.location.href = ".toList ++
        (quote url ++ ("; \x7d\x7d".toList ++ [])) =
      "\x7b() => \x7b window.location.href = ".toList ++ quote url ++ "; \x7d\x7d".toList
    rw [List.append_nil, List.append_assoc]
  | announce message =>
    show "\x7b() => alert(".toList ++ (quote message ++ (")\x7d".toList ++ [])) =
      "\x7b() => alert(".toList ++ quote message ++ ")\x7d".toList
    rw [List.append_nil, List.append_assoc]

theorem pieceText_attribute (a : Attribute) : pieceText a.pieces = a.text := by
  cases a with
  | flag name => exact List.append_nil _
  | quoted name value =>
    show name.toList ++ ['='] ++ (attributeLiteral value ++ []) =
      name.toList ++ '=' :: attributeLiteral value
    rw [List.append_nil, List.append_assoc, List.singleton_append]
  | numeral name value => exact List.append_nil _
  | style rules =>
    show pieceText (.plain "style=\x7b\x7b ".toList :: rulePieces rules ++
        [.plain " \x7d\x7d".toList]) =
      "style=\x7b\x7b ".toList ++ styleRules rules ++ " \x7d\x7d".toList
    rw [pieceText_append, pieceText_cons, pieceText_rulePieces, pieceText_cons, pieceText_nil,
      List.append_nil]
    rfl
  | onClick action =>
    show "onClick=".toList ++ pieceText action.pieces = "onClick=".toList ++ action.handler
    rw [pieceText_click]

theorem pieceText_openPieces (tag : String) (attributes : List Attribute) :
    pieceText (openPieces tag attributes) = openTag tag attributes := by
  rw [openPieces, openTag, pieceText_cons, Piece.text]
  congr 1
  induction attributes with
  | nil => rfl
  | cons a rest ih =>
    rw [List.flatMap_cons, pieceText_append, pieceText_cons, pieceText_attribute, ih]
    rfl

mutual

/-- **The pieces of markup are its text.** -/
theorem pieceText_pieces : ∀ (m : Markup) (depth : Nat), pieceText (m.pieces depth) = m.text depth
  | .passage content, depth => by
    rw [Markup.pieces, Markup.text, pieceText_cons, pieceText_cons, pieceText_nil, List.append_nil]
    rfl
  | .single tag attributes, depth => by
    simp only [Markup.pieces, Markup.text, Piece.text, pieceText_openPieces, pieceText_cons,
      pieceText_append, pieceText_nil, List.append_nil, List.append_assoc]
  | .short tag attributes content, depth => by
    simp only [Markup.pieces, Markup.text, Piece.text, Piece.write, Slot.write,
      pieceText_openPieces, pieceText_cons, pieceText_append, pieceText_nil, List.append_nil,
      List.append_assoc, List.cons_append, List.nil_append]
  | .block tag attributes children, depth => by
    rw [Markup.pieces, Markup.text, pieceText_joinPieces]
    simp only [List.map_cons, List.map_nil, pieceText_joinPieces,
      pieceText_childPieces children (depth + 2), pieceText_cons, pieceText_append, pieceText_nil,
      pieceText_openPieces, Piece.text, List.append_nil, List.append_assoc]
  | .body items, depth => by
    have hinner : pieceText (joinPieces (childPieces 0 items)) =
        joinLines (childTexts 0 items) := by
      rw [pieceText_joinPieces, pieceText_childPieces items 0]
    rw [Markup.pieces, Markup.text, pieceText_append, pieceText_movedPieces, hinner]
    split
    · -- a body without code is no line, so nothing is moved
      next hempty =>
      rw [hempty]
      rfl
    · next hne =>
      rw [pieceText_cons, pieceText_nil, List.append_nil, Piece.text, ← indent_eq]
      split
      · next hempty => exact absurd hempty hne
      · rfl
  | .verbatim content, depth => List.append_nil content

theorem pieceText_childPieces : ∀ (items : List Markup) (depth : Nat),
    (childPieces depth items).map pieceText = childTexts depth items
  | [], _ => rfl
  | m :: rest, depth => by
    rw [childPieces, childTexts, List.map_cons, pieceText_pieces m depth,
      pieceText_childPieces rest depth]

end

/-! ## Pieces and given texts -/

@[simp]
theorem pieceValues_append (first more : List Piece) :
    pieceValues (first ++ more) = pieceValues first ++ pieceValues more := List.filterMap_append

theorem pieceValues_movedPieces (width : Nat) (pieces : List Piece) :
    pieceValues (movedPieces width pieces) = pieceValues pieces := by
  induction pieces with
  | nil => rfl
  | cons piece rest ih =>
    cases piece with
    | plain s => exact ih
    | written slot value image => exact congrArg ((slot, value) :: ·) ih

theorem pieceValues_joinPieces (rows : List (List Piece)) :
    pieceValues (joinPieces rows) = rows.flatMap pieceValues := by
  induction rows with
  | nil => rfl
  | cons row rest ih =>
    rw [joinPieces, pieceValues_append, pieceValues_append, ih, List.flatMap_cons]
    split <;> simp [pieceValues, Piece.value?]

theorem pieceValues_rulePieces (rules : List (String × List Char)) :
    pieceValues (rulePieces rules) = rules.map fun rule => (.literal, rule.2) := by
  induction rules with
  | nil => rfl
  | cons rule rest ih =>
    cases rest with
    | nil => rfl
    | cons next more => exact congrArg ((.literal, rule.2) :: ·) ih

theorem pieceValues_attribute (a : Attribute) : pieceValues a.pieces = a.values := by
  cases a with
  | flag name => rfl
  | quoted name value => rfl
  | numeral name value => rfl
  | style rules =>
    show pieceValues (rulePieces rules ++ [.plain " \x7d\x7d".toList]) = _
    rw [pieceValues_append, pieceValues_rulePieces]
    exact List.append_nil _
  | onClick action => cases action <;> rfl

theorem pieceValues_openPieces (tag : String) (attributes : List Attribute) :
    pieceValues (openPieces tag attributes) = attributes.flatMap Attribute.values := by
  show pieceValues (attributes.flatMap fun a => .plain [' '] :: a.pieces) = _
  induction attributes with
  | nil => rfl
  | cons a rest ih =>
    rw [List.flatMap_cons, pieceValues_append, ih, List.flatMap_cons, ← pieceValues_attribute]
    rfl

mutual

/-- **The pieces of markup hold every given text**, once and in order. -/
theorem values_pieces : ∀ (m : Markup) (depth : Nat), pieceValues (m.pieces depth) = m.values
  | .passage content, depth => rfl
  | .single tag attributes, depth => by
    show pieceValues (openPieces tag attributes ++ [.plain " />".toList]) = _
    rw [pieceValues_append, pieceValues_openPieces]
    exact List.append_nil _
  | .short tag attributes content, depth => by
    show pieceValues (openPieces tag attributes ++ _) = _
    rw [pieceValues_append, pieceValues_openPieces]
    rfl
  | .block tag attributes children, depth => by
    rw [Markup.pieces, Markup.values, pieceValues_joinPieces, List.flatMap_cons, List.flatMap_cons,
      pieceValues_joinPieces, values_childPieces children (depth + 2), ← pieceValues_openPieces]
    show pieceValues (openPieces tag attributes ++ [.plain ['>']]) ++ (_ ++ []) = _
    rw [pieceValues_append, List.append_nil]
    exact congrArg (· ++ _) (List.append_nil _)
  | .body items, depth => by
    rw [Markup.pieces, Markup.values, pieceValues_append, pieceValues_movedPieces,
      pieceValues_joinPieces, values_childPieces items 0]
    split <;> rfl
  | .verbatim content, depth => rfl

theorem values_childPieces : ∀ (items : List Markup) (depth : Nat),
    (childPieces depth items).flatMap pieceValues = markupValues items
  | [], _ => rfl
  | m :: rest, depth => by
    rw [childPieces, markupValues, List.flatMap_cons, values_pieces m depth,
      values_childPieces rest depth]

end

/-! ## Images -/

/-- Is the image of a piece what was written at its slot, moved any number of times? -/
def Piece.Genuine : Piece → Prop
  | .plain _ => True
  | .written slot value image => Moved (slot.write value) image

theorem Piece.genuine_write (slot : Slot) (value : List Char) :
    (Piece.write slot value).Genuine := Moved.never

theorem genuine_movedPieces {width : Nat} {pieces : List Piece}
    (h : ∀ piece ∈ pieces, piece.Genuine) : ∀ piece ∈ movedPieces width pieces, piece.Genuine := by
  induction pieces with
  | nil => exact fun _ hp => absurd hp List.not_mem_nil
  | cons first rest ih =>
    intro piece hp
    rcases List.mem_cons.1 hp with rfl | hp
    · have hfirst := h first (by simp)
      cases first with
      | plain s => trivial
      | written slot value image => exact Moved.again width (pieceText rest) hfirst
    · exact ih (fun other hother => h other (by simp [hother])) piece hp

theorem genuine_joinPieces {rows : List (List Piece)}
    (h : ∀ row ∈ rows, ∀ piece ∈ row, piece.Genuine) :
    ∀ piece ∈ joinPieces rows, piece.Genuine := by
  induction rows with
  | nil => exact fun _ hp => absurd hp List.not_mem_nil
  | cons row rest ih =>
    intro piece hp
    rcases List.mem_append.1 hp with hp | hp
    · rcases List.mem_append.1 hp with hp | hp
      · exact h row (by simp) piece hp
      · split at hp
        · exact absurd hp List.not_mem_nil
        · rw [List.mem_singleton.1 hp]
          trivial
    · exact ih (fun other hother => h other (by simp [hother])) piece hp

theorem genuine_rulePieces : ∀ rules : List (String × List Char),
    ∀ piece ∈ rulePieces rules, piece.Genuine
  | [] => nofun
  | [_] => by
    simp only [rulePieces, List.forall_mem_cons]
    exact ⟨trivial, Piece.genuine_write .., nofun⟩
  | _ :: next :: rest => by
    simp only [rulePieces, List.forall_mem_cons]
    exact ⟨trivial, Piece.genuine_write .., trivial, genuine_rulePieces (next :: rest)⟩

theorem genuine_attribute (a : Attribute) : ∀ piece ∈ a.pieces, piece.Genuine := by
  cases a with
  | flag name => exact List.forall_mem_singleton.2 trivial
  | quoted name value =>
    exact List.forall_mem_cons.2 ⟨trivial, List.forall_mem_singleton.2 (Piece.genuine_write ..)⟩
  | numeral name value => exact List.forall_mem_singleton.2 trivial
  | style rules =>
    refine List.forall_mem_cons.2 ⟨trivial, ?_⟩
    exact List.forall_mem_append.2 ⟨genuine_rulePieces rules, List.forall_mem_singleton.2 trivial⟩
  | onClick action =>
    cases action <;>
    exact List.forall_mem_cons.2 ⟨trivial, List.forall_mem_cons.2 ⟨trivial, List.forall_mem_cons.2
      ⟨Piece.genuine_write .., List.forall_mem_singleton.2 trivial⟩⟩⟩

theorem genuine_openPieces (tag : String) (attributes : List Attribute) :
    ∀ piece ∈ openPieces tag attributes, piece.Genuine := by
  refine List.forall_mem_cons.2 ⟨trivial, fun piece hp => ?_⟩
  obtain ⟨a, _, hp⟩ := List.mem_flatMap.1 hp
  exact List.forall_mem_cons.2 ⟨trivial, genuine_attribute a⟩ piece hp

mutual

theorem genuine_pieces : ∀ (m : Markup) (depth : Nat), ∀ piece ∈ m.pieces depth, piece.Genuine
  | .passage content, depth =>
    List.forall_mem_cons.2 ⟨trivial, List.forall_mem_singleton.2 (Piece.genuine_write ..)⟩
  | .single tag attributes, depth =>
    List.forall_mem_cons.2 ⟨trivial, List.forall_mem_append.2
      ⟨genuine_openPieces tag attributes, List.forall_mem_singleton.2 trivial⟩⟩
  | .short tag attributes content, depth =>
    List.forall_mem_cons.2 ⟨trivial, List.forall_mem_append.2
      ⟨genuine_openPieces tag attributes, List.forall_mem_cons.2 ⟨trivial, List.forall_mem_cons.2
        ⟨Piece.genuine_write .., List.forall_mem_singleton.2 trivial⟩⟩⟩⟩
  | .block tag attributes children, depth => by
    rw [Markup.pieces]
    refine genuine_joinPieces (List.forall_mem_cons.2 ⟨?_, List.forall_mem_cons.2 ⟨?_, ?_⟩⟩)
    · exact List.forall_mem_cons.2 ⟨trivial, List.forall_mem_append.2
        ⟨genuine_openPieces tag attributes, List.forall_mem_singleton.2 trivial⟩⟩
    · exact genuine_joinPieces (genuine_childPieces children (depth + 2))
    · exact List.forall_mem_singleton.2 (List.forall_mem_singleton.2 trivial)
  | .body items, depth => by
    rw [Markup.pieces]
    refine List.forall_mem_append.2 ⟨?_, ?_⟩
    · split
      · nofun
      · exact List.forall_mem_singleton.2 trivial
    · exact genuine_movedPieces (genuine_joinPieces (genuine_childPieces items 0))
  | .verbatim content, depth => List.forall_mem_singleton.2 trivial

theorem genuine_childPieces : ∀ (items : List Markup) (depth : Nat),
    ∀ row ∈ childPieces depth items, ∀ piece ∈ row, piece.Genuine
  | [], _ => nofun
  | m :: rest, depth =>
    List.forall_mem_cons.2 ⟨genuine_pieces m depth, genuine_childPieces rest depth⟩

end

/-! ## Written pieces in a body -/

/-- A written piece of moved pieces is a written piece of them, moved. -/
theorem written_of_movedPieces {width : Nat} {pieces : List Piece} {slot : Slot}
    {value image : List Char} (h : .written slot value image ∈ movedPieces width pieces) :
    ∃ before after, .written slot value before ∈ pieces ∧ image = moved width before after := by
  induction pieces with
  | nil => exact absurd h List.not_mem_nil
  | cons first rest ih =>
    rcases List.mem_cons.1 h with heq | h
    · cases first with
      | plain s => cases heq
      | written slot' value' before =>
        cases heq
        exact ⟨before, pieceText rest, List.mem_cons_self .., rfl⟩
    · obtain ⟨before, after, hmem, himage⟩ := ih h
      exact ⟨before, after, List.mem_cons_of_mem _ hmem, himage⟩

/--
**In a body a given text stands as it was written exactly when its slot keeps it.**

Bodies inside the body may have moved it before; the outermost one moves it once more.
-/
theorem image_eq_write_iff {items : List Markup} {depth : Nat} (hd : 0 < depth) {slot : Slot}
    {value image : List Char}
    (h : .written slot value image ∈ (Markup.body items).pieces depth) :
    image = slot.write value ↔ slot.keeps value = true := by
  rw [Markup.pieces] at h
  have hmem : .written slot value image ∈ movedPieces depth (joinPieces (childPieces 0 items)) := by
    refine (List.mem_append.1 h).resolve_left fun hplain => ?_
    split at hplain
    · exact absurd hplain List.not_mem_nil
    · exact Piece.noConfusion (List.mem_singleton.1 hplain)
  obtain ⟨before, after, hbefore, rfl⟩ := written_of_movedPieces hmem
  have hgenuine : Moved (slot.write value) before :=
    genuine_joinPieces (genuine_childPieces items 0) _ hbefore
  rw [hgenuine.moved_eq_iff hd Slot.exists_last_of_feed, Slot.keeps_iff]

/-! ## Bodies in blocks -/

theorem infix_joinLines {texts : List (List Char)} {t : List Char} (h : t ∈ texts) :
    t <:+: joinLines texts := by
  induction texts with
  | nil => exact absurd h List.not_mem_nil
  | cons u rest ih =>
    rw [joinLines_cons, List.append_assoc]
    rcases List.mem_cons.1 h with rfl | h
    · exact List.infix_append' [] t _
    · exact ((ih h).trans (List.suffix_append _ _).isInfix).trans (List.suffix_append _ _).isInfix

/-- The text of the inside of a block stands in the text of the block. -/
theorem infix_block (tag : String) (attributes : List Attribute) (m : Markup) (depth : Nat) :
    m.text (depth + 2) <:+: (Markup.block tag attributes [m]).text depth := by
  rw [Markup.text]
  have hinner : m.text (depth + 2) <:+: joinLines (childTexts (depth + 2) [m]) :=
    infix_joinLines (List.mem_singleton.2 rfl)
  exact hinner.trans (infix_joinLines (by simp))

end Pagewright
