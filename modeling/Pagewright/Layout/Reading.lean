import Pagewright.Markup.Basic
import Pagewright.Value.Display
import Pagewright.Value.Entries
import Pagewright.Value.Number

/-!
# What a layout reads

A layout reads the props it shows in the order in which it shows them, and the first prop that is
not there ends the rendering of the page. Props that conform to the bundled schemas have
everything that the layouts read.
-/

namespace Pagewright

open Pagewright.Text Pagewright.Markup

/-- Why a node or a page cannot be laid out. A layout that is not bundled has reports of its
own. -/
inductive LayoutFault where
  | absent (holder name : String)
  | notEntries
  | notAName
  | other (report : String)
deriving DecidableEq

/-- The report of a fault. -/
def LayoutFault.message : LayoutFault → String
  | .absent holder name => "'" ++ holder ++ "' has no attribute '" ++ name ++ "'"
  | .notEntries => "the entries are not a list"
  | .notAName => "a variant is not a name"
  | .other report => report

/-- What a value is called when a part of it is missed. -/
def Value.holder : Value → String
  | .null => "None"
  | .bool _ => "bool object"
  | .int _ => "int object"
  | .float _ => "float object"
  | .text _ => "str object"
  | .moment m => if m.clock.isSome then "datetime.datetime object" else "datetime.date object"
  | .bytes _ => "bytes object"
  | .list _ => "list object"
  | .row _ => "tuple object"
  | .map _ => "dict object"
  | .ordered _ => "ruamel.yaml.compat.ordereddict object"
  | .set _ => "set object"
  | .loop _ own => own.holder
  | .within _ .list => "list object"
  | .within _ .map => "dict object"
  | .within _ .ordered => "ruamel.yaml.compat.ordereddict object"

/-- The prop that a layout shows. -/
def Props.shown (props : Props) (name : String) : Except LayoutFault Value :=
  match props.get? name with
  | some v => .ok v
  | none => .error (.absent "dict object" name)

/-- The content of a prop that a layout shows. -/
def Props.shownContent (props : Props) (name : String) : Except LayoutFault (List Char) :=
  (props.shown name).map Value.content

/-- The entry of an unfolding list. -/
structure FoldedEntry where
  title : List Char
  content : List Char
deriving DecidableEq

/-- The entry that a value stands for: a mapping with both parts. A text and bytes have a title of
their own, which is none of a document. -/
def foldedEntry (v : Value) : Except LayoutFault FoldedEntry :=
  match v.entries? with
  | some entry => do
    let title ← Props.shownContent entry "title"
    let content ← Props.shownContent entry "content"
    return ⟨title, content⟩
  | none => match v with
    | .text _ => .error (.absent v.holder "content")
    | .bytes _ => .error (.absent v.holder "content")
    | v => .error (.absent v.holder "title")

/-- The entries of the `items` prop: the elements of its value. -/
def Props.foldedEntries (props : Props) : Except LayoutFault (List FoldedEntry) := do
  match (props.get? "items").bind Value.elements? with
  | some elements => elements.mapM foldedEntry
  | none => throw .notEntries

/-- The name that a prop gives, if it is a text; a list or a mapping cannot be looked up. -/
def Props.variant (props : Props) (name : String) : Except LayoutFault (Option String) :=
  match props.get name with
  | .text s => .ok (some s)
  | .scalar _ => .ok none
  | _ => .error .notAName

/-- The action of a button: a link or a message, when it has a target. -/
def Props.clickAction? (props : Props) : Option ClickAction :=
  let target := props.get "actionTarget"
  if target.isVoid then none
  else match props.get "actionType" with
    | .text "link" => some (.visit target.content)
    | .text "alert" => some (.announce target.content)
    | _ => none

/-- The click attribute of a button. -/
def Props.clickAttributes (props : Props) : List Attribute :=
  props.clickAction?.toList.map Attribute.onClick

end Pagewright
