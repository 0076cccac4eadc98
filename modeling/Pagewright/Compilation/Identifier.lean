import Pagewright.Distinct
import Pagewright.Number.Layout
import Pagewright.Text.Case
import Pagewright.Text.Folding
import Pagewright.Text.Words

/-!
# Names of generated pages

The identifier of a page is derived from its title: the lower-case letters and digits that the
title folds to, with an underscore for each run of anything else between them. A page whose title
leaves nothing has a fixed identifier, and one that would start with a digit gets a word in front.
Identifiers that are already taken get the first free number from two, and component names bound
by an import get a suffix as often as needed.
-/

namespace Pagewright

open Pagewright.Text

/-- Is the character a lower-case letter or a digit of ASCII? -/
def isIdentifierLetter (c : Char) : Bool := ('a' ≤ c && c ≤ 'z') || ('0' ≤ c && c ≤ '9')

/-- Does the text start with a digit of ASCII? -/
def startsWithNumber : List Char → Bool
  | [] => false
  | c :: _ => '0' ≤ c && c ≤ '9'

/-- The identifier of a title. -/
def deriveIdentifier (title : List Char) : List Char :=
  let parts := runsOf isIdentifierLetter ((foldAscii title).map Char.toLower)
  match joinWith ['_'] parts with
  | [] => "untitled".toList
  | name => if startsWithNumber name then "page_".toList ++ name else name

/-- The component name of an identifier: its parts, each with a capital first letter. -/
def componentName (identifier : List Char) : List Char :=
  (splitBy (fun c => c == '_') identifier).flatMap capitalize

/-- The word that sets a page apart from a component of the same name. -/
def pageSuffix : List Char := "Page".toList

/-- Appends the suffix to a name until it is none of the taken ones. Each taken name that is met
is struck out, since longer names cannot meet it again. -/
def freeName (name : List Char) (taken : List (List Char)) : List Char :=
  if _h : name ∈ taken then freeName (name ++ pageSuffix) (strike name taken) else name
termination_by taken.length
decreasing_by exact length_strike_lt _h

/-- The component name of a page that imports the given names. -/
def pageComponentName (identifier : List Char) (bound : List (List Char)) : List Char :=
  freeName (componentName identifier) bound

/-- An identifier with a number. -/
def numbered (base : List Char) (number : Nat) : List Char :=
  base ++ '_' :: Number.natDigits number

/-- The first number from `number` on that makes a free identifier of a base. Each taken
identifier that is met is struck out. -/
def freeNumber (base : List Char) (number : Nat) (taken : List (List Char)) : Nat :=
  if _h : numbered base number ∈ taken then
    freeNumber base (number + 1) (strike (numbered base number) taken)
  else number
termination_by taken.length
decreasing_by exact length_strike_lt _h

/-- The base itself if it is free, or the base with the first free number from two. -/
def uniqueIdentifier (base : List Char) (taken : List (List Char)) : List Char :=
  if base ∈ taken then numbered base (freeNumber base 2 taken) else base

/-- Identifiers for bases in order, each free of those before it and of the taken ones. -/
def uniqueIdentifiers (taken : List (List Char)) : List (List Char) → List (List Char)
  | [] => []
  | base :: rest =>
    let identifier := uniqueIdentifier base taken
    identifier :: uniqueIdentifiers (identifier :: taken) rest

end Pagewright
