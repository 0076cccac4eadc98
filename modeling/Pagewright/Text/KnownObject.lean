import Pagewright.Text.FieldValue
import Pagewright.Text.Spelling

/-!
# Objects that are known

A part of what belongs to a text: its class, its description, and the procedures and operations that
a text has. These belong to something in turn: a class has a name, a module, and the classes it
builds on; a procedure has a name and an owner. What is not known is answered as if it were not
there. A pattern only names procedures; it never runs them.
-/

namespace Pagewright.Text

/-- The class of a value: of texts, of classes, of rows, of nothing, the one that all build on, and
the classes of the procedures and operations of a text and of a class. -/
inductive ValueKind where
  | text
  | kind
  | row
  | nothing
  | base
  | procedure
  | operation
  | classProcedure
  | classOperation
deriving DecidableEq

namespace ValueKind

/-- The name of a class. -/
def name : ValueKind → String
  | .text => "str"
  | .kind => "type"
  | .row => "tuple"
  | .nothing => "NoneType"
  | .base => "object"
  | .procedure => "builtin_function_or_method"
  | .operation => "method-wrapper"
  | .classProcedure => "method_descriptor"
  | .classOperation => "wrapper_descriptor"

/-- The classes that a class builds on. -/
def bases : ValueKind → List ValueKind
  | .base => []
  | _ => [.base]

/-- The spelling of a class. -/
def spelled (k : ValueKind) : List Char :=
  "<class ".toList ++ spell k.name.toList ++ ['>']

/-- The lines of the description of a class. -/
def descriptionLines : ValueKind → List String
  | .text =>
    ["str(object='') -> str",
     "str(bytes_or_buffer[, encoding[, errors]]) -> str",
     "",
     "Create a new string object from the given object. If encoding or",
     "errors is specified, then the object must expose a data buffer",
     "that will be decoded using the given encoding and error handler.",
     "Otherwise, returns the result of object.__str__() (if defined)",
     "or repr(object).",
     "encoding defaults to sys.getdefaultencoding().",
     "errors defaults to 'strict'."]
  | .kind =>
    ["type(object) -> the object's type",
     "type(name, bases, dict, **kwds) -> a new type"]
  | .row =>
    ["Built-in immutable sequence.",
     "",
     "If no argument is given, the constructor returns an empty tuple.",
     "If iterable is specified the tuple is initialized from iterable's items.",
     "",
     "If the argument is a tuple, the return value is the same object."]
  | .base =>
    ["The base class of the class hierarchy.",
     "",
     "When called, it accepts no arguments and returns a new featureless",
     "instance that has no instance attributes and cannot be given any.",
     ""]
  | _ => []

end ValueKind

/-- A procedure or an operation, with the class that owns it. -/
structure Procedure where
  name : String
  owner : ValueKind
  isOperation : Bool
deriving DecidableEq

/-- The procedures that a text has of its own. -/
def textProcedures : List String :=
  ["__format__", "__getnewargs__", "__sizeof__", "capitalize", "casefold", "center", "count",
   "encode", "endswith", "expandtabs", "find", "format", "format_map", "index", "isalnum",
   "isalpha", "isascii", "isdecimal", "isdigit", "isidentifier", "islower", "isnumeric",
   "isprintable", "isspace", "istitle", "isupper", "join", "ljust", "lower", "lstrip", "partition",
   "removeprefix", "removesuffix", "replace", "rfind", "rindex", "rjust", "rpartition", "rsplit",
   "rstrip", "split", "splitlines", "startswith", "strip", "swapcase", "title", "translate",
   "upper", "zfill"]

/-- The operations that a text has of its own. -/
def textOperations : List String :=
  ["__add__", "__contains__", "__eq__", "__ge__", "__getattribute__", "__getitem__", "__gt__",
   "__hash__", "__iter__", "__le__", "__len__", "__lt__", "__mod__", "__mul__", "__ne__",
   "__repr__", "__rmod__", "__rmul__", "__str__"]

/-- The procedures that every value has. -/
def commonProcedures : List String := ["__reduce_ex__", "__reduce__", "__getstate__", "__dir__"]

/-- The operations that every value has. -/
def commonOperations : List String := ["__setattr__", "__delattr__", "__init__"]

/-- The procedure or operation of a text that has a name. -/
def textProcedure? (name : String) : Option Procedure :=
  if textProcedures.contains name then some ⟨name, .text, false⟩
  else if textOperations.contains name then some ⟨name, .text, true⟩
  else if commonProcedures.contains name then some ⟨name, .base, false⟩
  else if commonOperations.contains name then some ⟨name, .base, true⟩
  else none

/-- The procedures of the classes themselves; their values have them, too. -/
def classProcedures : List String := ["__new__", "__init_subclass__", "__subclasshook__"]

/-- The procedures of the classes that their values do not have. -/
def innerClassProcedures : List String := ["mro", "__subclasses__"]

/-- The procedure of a class that has a name. Only the class of texts makes tables for
translations. -/
def classProcedure? (k : ValueKind) (name : String) : Option Procedure :=
  if classProcedures.contains name ∨ (k = .text ∧ name = "maketrans") then some ⟨name, k, false⟩
  else none

/-- Whose a procedure is: that of a text, that of a class, or one of no value yet. -/
inductive ProcedureHolder where
  | text (s : List Char)
  | kind (k : ValueKind)
  | nobody
deriving DecidableEq

/-- An object that is known. -/
inductive KnownObject where
  | kind (k : ValueKind)
  | row (kinds : List ValueKind)
  | nothing
  | procedure (p : Procedure) (of : ProcedureHolder)
deriving DecidableEq

/-- A text or an object that is known. -/
abbrev KnownValue := FieldValue KnownObject

namespace KnownObject

/-- The class of an object. -/
def kindOf : KnownObject → ValueKind
  | .kind _ => .kind
  | .row _ => .row
  | .nothing => .nothing
  | .procedure p .nobody => if p.isOperation then .classOperation else .classProcedure
  | .procedure p _ => if p.isOperation then .operation else .procedure

/-- The spelling of a procedure. The place of a text or a class in memory is not known; a zero
stands for it. -/
def spelledProcedure (p : Procedure) (of : ProcedureHolder) : String :=
  match of, p.isOperation with
  | .text _, false => "<built-in method " ++ p.name ++ " of str object at 0x0>"
  | .text _, true => "<method-wrapper '" ++ p.name ++ "' of str object at 0x0>"
  | .kind _, _ => "<built-in method " ++ p.name ++ " of type object at 0x0>"
  | .nobody, false => "<method '" ++ p.name ++ "' of '" ++ p.owner.name ++ "' objects>"
  | .nobody, true => "<slot wrapper '" ++ p.name ++ "' of '" ++ p.owner.name ++ "' objects>"

/-- The spelling of an object. -/
def spelled : KnownObject → List Char
  | .kind k => k.spelled
  | .row [k] => '(' :: k.spelled ++ [',', ')']
  | .row kinds => '(' :: joinWith [',', ' '] (kinds.map ValueKind.spelled) ++ [')']
  | .nothing => "None".toList
  | .procedure p of => (spelledProcedure p of).toList

/-- The description of a class; some classes have none. -/
def description (k : ValueKind) : KnownValue :=
  if k.descriptionLines.isEmpty then .object .nothing
  else .text ("\n".intercalate k.descriptionLines).toList

/-- What belongs to a text. -/
def ofText (s : List Char) (name : String) : Option KnownValue :=
  if name = "__doc__" then some (description .text)
  else match classProcedure? .text name with
    | some p => some (.object (.procedure p (.kind .text)))
    | none => (textProcedure? name).map fun p => .object (.procedure p (.text s))

/-- What belongs to a class. -/
def ofKind (k : ValueKind) (name : String) : Option KnownValue :=
  match name with
  | "__name__" => some (.text k.name.toList)
  | "__qualname__" => some (.text k.name.toList)
  | "__module__" => some (.text "builtins".toList)
  | "__mro__" => some (.object (.row (k :: k.bases)))
  | "__bases__" => some (.object (.row k.bases))
  | "__base__" => some (.object (k.bases.head?.elim .nothing .kind))
  | "__doc__" => some (description k)
  | _ =>
    if innerClassProcedures.contains name then
      some (.object (.procedure ⟨name, k, false⟩ (.kind k)))
    else match classProcedure? k name with
      | some p => some (.object (.procedure p (.kind k)))
      | none =>
        if k = .text then (textProcedure? name).map fun p => .object (.procedure p .nobody)
        else none

/-- What belongs to a procedure. The full name of a procedure of a text names its class; any other
full name names the owner. -/
def ofProcedure (p : Procedure) (of : ProcedureHolder) (name : String) : Option KnownValue :=
  let isBound := of ≠ .nobody ∧ p.isOperation = false
  match name with
  | "__name__" => some (.text p.name.toList)
  | "__qualname__" =>
    let owner := match of with
      | .text _ => if p.isOperation then p.owner else .text
      | _ => p.owner
    some (.text (owner.name ++ "." ++ p.name).toList)
  | "__self__" => match of with
    | .text s => some (.text s)
    | .kind k => some (.object (if p.name = "maketrans" then .nothing else .kind k))
    | .nobody => none
  | "__objclass__" => if isBound then none else some (.object (.kind p.owner))
  | "__module__" => if isBound then some (.object .nothing) else none
  | _ => none

/-- What belongs to a value by a name. Every value has its class. -/
def named : KnownValue → String → Option KnownValue
  | .text _, "__class__" => some (.object (.kind .text))
  | .object o, "__class__" => some (.object (.kind o.kindOf))
  | .text s, name => ofText s name
  | .object (.kind k), name => ofKind k name
  | .object (.row _), "__doc__" => some (description .row)
  | .object .nothing, "__doc__" => some (.object .nothing)
  | .object (.procedure p of), name => ofProcedure p of name
  | _, _ => none

/-- What an object holds at a subscript: a row holds its classes by position. -/
def item : KnownObject → Subscript → Except ObjectFault KnownValue
  | .row kinds, .position n =>
    kinds[n]?.elim (.error (.pastEnd "tuple index out of range")) fun k => .ok (.object (.kind k))
  | _, _ => .error .unfitKind

end KnownObject

/-- The objects that are known. They are laid out without a layout only, and there is room for as
many characters as can be addressed beside what is kept of a text. -/
def Objects.known : Objects where
  Object := KnownObject
  named := fun v name => (KnownObject.named v name).elim (.error .noSuchName) .ok
  item := KnownObject.item
  display := fun o => .ok o.spelled
  spelled := fun o => .ok o.spelled
  laidOut := fun o layout => if layout.isEmpty then .ok o.spelled else .error .unfitKind
  room := 0x7fffffffffffffce

end Pagewright.Text
