/-!
# Cutting text into words

Text is a list of characters throughout the library. This file holds the cuts that every other
text rule is built from: a text is split at each character of a class, the empty pieces are
dropped, and pieces are joined again by a separator. `collapse` is the cut that keeps a trace of
what it removed: each longest run outside the wanted class becomes one mark.
-/

namespace Pagewright.Text

/-- Splits a text at every character of the class `cut`; the pieces around the cuts, also empty
ones, are kept in order. -/
def splitBy (cut : Char → Bool) : List Char → List (List Char)
  | [] => [[]]
  | c :: rest =>
    if cut c then [] :: splitBy cut rest
    else match splitBy cut rest with
      | [] => [[c]]
      | piece :: pieces => (c :: piece) :: pieces

/-- The longest runs of characters of the class `keep`, in order. -/
def runsOf (keep : Char → Bool) (s : List Char) : List (List Char) :=
  (splitBy (fun c => !keep c) s).filter (fun piece => !piece.isEmpty)

/-- Joins texts by a separator. -/
def joinWith (sep : List Char) : List (List Char) → List Char
  | [] => []
  | [t] => t
  | t :: u :: rest => t ++ sep ++ joinWith sep (u :: rest)

/-- Drops the characters of the class `p` from both ends. -/
def trimBy (p : Char → Bool) (s : List Char) : List Char :=
  ((s.dropWhile p).reverse.dropWhile p).reverse

/-- Writes `mark` in place of each longest run of characters outside `keep`. The flag says whether
the text stands directly behind such a run. -/
def collapseFrom (keep : Char → Bool) (mark : Char) : Bool → List Char → List Char
  | _, [] => []
  | inRun, c :: rest =>
    if keep c then c :: collapseFrom keep mark false rest
    else if inRun then collapseFrom keep mark true rest
    else mark :: collapseFrom keep mark true rest

/-- Each longest run of characters outside `keep` becomes one `mark`. -/
def collapse (keep : Char → Bool) (mark : Char) (s : List Char) : List Char :=
  collapseFrom keep mark false s

theorem splitBy_ne_nil (cut : Char → Bool) (s : List Char) : splitBy cut s ≠ [] := by
  cases s with
  | nil => simp [splitBy]
  | cons c rest =>
    unfold splitBy
    split
    · simp
    · split <;> simp

end Pagewright.Text
