import Pagewright.Text.Words

/-!
# Paths

A path is a root and the names along it. Repeated slashes, a slash at the end and the name of one
dot do not count; the name of two dots does, since it may lead out of a linked folder. Exactly two
slashes in front are a root of their own.
-/

namespace Pagewright

open Pagewright.Text

/-- Where a path starts: at the working folder, at the top, or at the second top that two slashes
name. -/
inductive PathRoot where
  | here
  | top
  | doubled
deriving DecidableEq

/-- The text of a root. -/
def PathRoot.text : PathRoot → String
  | .here => ""
  | .top => "/"
  | .doubled => "//"

/-- A path. -/
structure Path where
  root : PathRoot
  names : List String
deriving DecidableEq

namespace Path

/-- The root that a text starts with. -/
def rootOf (s : List Char) : PathRoot :=
  match (s.takeWhile fun c => c == '/').length with
  | 0 => .here
  | 2 => .doubled
  | _ => .top

/-- The path that a text writes. -/
def ofText (text : String) : Path where
  root := rootOf text.toList
  names := ((runsOf (fun c => c != '/') text.toList).filter fun name => name != ['.']).map
    String.ofList

/-- The text of a path; the path without a root and without names is written as a dot. -/
def text (path : Path) : String :=
  match path.root, path.names with
  | .here, [] => "."
  | root, names => root.text ++ "/".intercalate names

/-- Does the path start at the top? -/
def isAbsolute (path : Path) : Bool := path.root != .here

/-- The last name of a path; empty when it has none. -/
def name (path : Path) : String := path.names.getLast?.getD ""

/-- The path without its last name. -/
def parent (path : Path) : Path := { path with names := path.names.dropLast }

/-- The path behind a folder; a path that starts at the top does not depend on the folder. -/
def within (folder path : Path) : Path :=
  if path.isAbsolute then path else { folder with names := folder.names ++ path.names }

/-- The path as seen from a folder, when its names start with those of the folder. -/
def relativeTo? (path folder : Path) : Option Path :=
  if path.root = folder.root ∧ folder.names.isPrefixOf path.names then
    some ⟨.here, path.names.drop folder.names.length⟩
  else none

/-- The part of a name from its last dot on; a name that starts or ends with that dot has none. -/
def suffixOf (name : List Char) : List Char :=
  let ending := (name.reverse.takeWhile fun c => c != '.').reverse
  if ending.isEmpty || name.length ≤ ending.length + 1 then [] else '.' :: ending

/-- Does the path name a JSON file? -/
def isJson (path : Path) : Bool :=
  (suffixOf path.name.toList).map Char.toLower == ".json".toList

end Path

end Pagewright
