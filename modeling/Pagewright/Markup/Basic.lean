import Pagewright.Markup.Escape
import Pagewright.Text.Lines

/-!
# Markup

Generated pages consist of elements. An element has a tag, attributes, and either nothing between
its ends, one text on the same line, or a block of further lines that stand two columns deeper.
What a zone contributes to a block is a body of its own: it is first written as if it stood at the
margin and then moved to its place as a text, line by line. A layout that writes its text itself
contributes it verbatim.
-/

namespace Pagewright.Markup

open Pagewright.Text

/-- What a click does. -/
inductive ClickAction where
  | visit (url : List Char)
  | announce (message : List Char)
deriving DecidableEq

/-- The handler that carries out an action. -/
def ClickAction.handler : ClickAction → List Char
  | .visit url => "\x7b() => \x7b window.location.href = ".toList ++ quote url ++
      "; \x7d\x7d".toList
  | .announce message => "\x7b() => alert(".toList ++ quote message ++ ")\x7d".toList

/-- An attribute of an element. -/
inductive Attribute where
  | flag (name : String)
  | quoted (name : String) (value : List Char)
  | numeral (name : String) (value : List Char)
  | style (rules : List (String × List Char))
  | onClick (action : ClickAction)
deriving DecidableEq

/-- The rules of a style object. -/
def styleRules (rules : List (String × List Char)) : List Char :=
  joinWith ", ".toList (rules.map fun rule => rule.1.toList ++ ':' :: ' ' :: quote rule.2)

/-- The text of an attribute. -/
def Attribute.text : Attribute → List Char
  | .flag name => name.toList
  | .quoted name value => name.toList ++ '=' :: attributeLiteral value
  | .numeral name value => name.toList ++ '=' :: '\x7b' :: value ++ ['\x7d']
  | .style rules => "style=\x7b\x7b ".toList ++ styleRules rules ++ " \x7d\x7d".toList
  | .onClick action => "onClick=".toList ++ action.handler

/-- The start of a tag with its attributes, up to the bracket that closes it. -/
def openTag (tag : String) (attributes : List Attribute) : List Char :=
  '<' :: tag.toList ++ attributes.flatMap fun a => ' ' :: a.text

/-- The end tag of an element. -/
def closeTag (tag : String) : List Char := '<' :: '/' :: tag.toList ++ ['>']

end Pagewright.Markup

namespace Pagewright

open Pagewright.Text Pagewright.Markup

/-- A piece of a page that starts on a line of its own. -/
inductive Markup where
  | passage (content : List Char)
  | single (tag : String) (attributes : List Attribute)
  | short (tag : String) (attributes : List Attribute) (content : List Char)
  | block (tag : String) (attributes : List Attribute) (children : List Markup)
  | body (items : List Markup)
  | verbatim (content : List Char)

/-- Joins pieces by line feeds; a piece without text takes no line. -/
def joinLines (pieces : List (List Char)) : List Char :=
  joinWith ['\n'] (pieces.filter fun piece => !piece.isEmpty)

mutual

/-- The text of a piece of markup that stands `depth` columns deep. -/
def Markup.text (depth : Nat) : Markup → List Char
  | .passage content => spaces depth ++ textChild content
  | .single tag attributes => spaces depth ++ openTag tag attributes ++ " />".toList
  | .short tag attributes content =>
    spaces depth ++ openTag tag attributes ++ '>' :: textChild content ++ closeTag tag
  | .block tag attributes children =>
    joinLines [spaces depth ++ openTag tag attributes ++ ['>'],
      joinLines (childTexts (depth + 2) children), spaces depth ++ closeTag tag]
  | .body items =>
    match joinLines (childTexts 0 items) with
    | [] => []
    | s => indent depth s
  | .verbatim content => content

/-- The texts of pieces of markup that stand equally deep. -/
def childTexts (depth : Nat) : List Markup → List (List Char)
  | [] => []
  | piece :: rest => piece.text depth :: childTexts depth rest

end

/-- The text of a sequence of pieces at the margin. -/
def markupText (pieces : List Markup) : List Char := joinLines (childTexts 0 pieces)

end Pagewright
