import Pagewright.Distinct
import Pagewright.Text.Quoted
import Pagewright.Text.Words

/-!
# Imports of generated code

A page imports from modules: a default binding, named bindings, or nothing at all, as from a style
sheet. Requests for one module are merged into one import that has every name once.
-/

namespace Pagewright

open Pagewright.Text

/-- The import of a module. An empty default name is no default. -/
structure Import where
  source : String
  names : List String := []
  main : Option String := none
deriving DecidableEq

namespace Import

/-- The default binding. -/
def main? (i : Import) : Option String := i.main.filter fun name => !name.isEmpty

/-- The local names that the import introduces. -/
def bindings (i : Import) : List String := i.main?.toList ++ i.names

/-- What stands between the keyword and the module. -/
def clauses (i : Import) : List (List Char) :=
  i.main?.toList.map String.toList ++
    if i.names.isEmpty then []
    else ["\x7b ".toList ++ joinWith ", ".toList (i.names.map String.toList) ++ " \x7d".toList]

/-- The import statement. -/
def statement (i : Import) : List Char :=
  let source := quote i.source.toList
  if i.clauses.isEmpty then "import ".toList ++ source ++ [';']
  else "import ".toList ++ joinWith ", ".toList i.clauses ++ " from ".toList ++ source ++ [';']

/-- The default of a merged import: the first default of the requests that is not empty. -/
def mergeMain (requests : List Import) : Option String :=
  requests.foldl
    (fun main request => if main.any (fun name => !name.isEmpty) then main else request.main) none

/-- One import for each module, in the order of first requests. -/
def merge (requests : List Import) : List Import :=
  (firstOccurrences (requests.map Import.source)).map fun source =>
    let own := requests.filter fun request => request.source == source
    { source, names := firstOccurrences (own.flatMap Import.names), main := mergeMain own }

end Import

end Pagewright
