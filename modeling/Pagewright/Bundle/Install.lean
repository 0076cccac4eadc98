import Pagewright.Distinct
import Pagewright.Profile.Basic
import Pagewright.Rendering.Basic

/-!
# Install commands

Dependencies are grouped by kind into one shell command per kind, in the order in which the kinds
are first met, and each command names a dependency once. A kind without a command is left out with
a notice.
-/

namespace Pagewright

/-- The start of the install command of a kind. -/
def installCommand? (kind : String) : Option String :=
  match kind with
  | "shadcn" => some "npx shadcn@latest add"
  | "npm" => some "npm install"
  | _ => none

/-- Has the kind an install command? -/
def Dependency.isInstallable (d : Dependency) : Bool := (installCommand? d.kind).isSome

/-- The names of the dependencies of a kind, once each. -/
def namesOfKind (kind : String) (dependencies : List Dependency) : List String :=
  firstOccurrences ((dependencies.filter fun d => d.kind == kind).map Dependency.name)

/-- The install command of each kind that has one. -/
def installCommands (dependencies : List Dependency) : List String :=
  (firstOccurrences (dependencies.map Dependency.kind)).filterMap fun kind =>
    (installCommand? kind).map fun command =>
      command ++ " " ++ " ".intercalate (namesOfKind kind dependencies)

/-- The notice of a dependency whose kind has no command. -/
def Dependency.notice (d : Dependency) : Notice where
  level := .warning
  text := "Ignoring dependency " ++ d.name ++ " of unknown kind " ++
    String.ofList (Text.spell d.kind.toList)

/-- The notices of the dependencies that are left out. -/
def installNotices (dependencies : List Dependency) : List Notice :=
  (dependencies.filter fun d => !d.isInstallable).map Dependency.notice

end Pagewright
