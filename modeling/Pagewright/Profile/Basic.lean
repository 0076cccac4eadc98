import Pagewright.Layout.Page

/-!
# Target profiles

A profile says what is generated for an output framework: how it lays out the types of components
that it can render, how it writes a page, which imports and install-time dependencies each type
needs, and which the page needs in any case.
-/

namespace Pagewright

/-- What has to be installed before generated code runs. -/
structure Dependency where
  kind : String
  name : String
deriving DecidableEq

/-- A target profile. -/
structure Profile where
  name : String
  label : String
  extension : String
  rules : List (String × Layout)
  frame : Frame
  imports : List (String × List Import) := []
  baseImports : List Import := []
  dependencies : List (String × List Dependency) := []
  baseDependencies : List Dependency := []

namespace Profile

/-- The layout of nodes of a type. -/
def rule? (profile : Profile) (type : String) : Option Layout := profile.rules.lookup type

/-- Can the target render nodes of the type? -/
def supports (profile : Profile) (type : String) : Bool := (profile.rule? type).isSome

/-- The imports of a page that uses the given types. -/
def resolveImports (profile : Profile) (types : List String) : List Import :=
  Import.merge (profile.baseImports ++
    types.flatMap fun type => (profile.imports.lookup type).getD [])

/-- The dependencies of pages that use the given types. -/
def resolveDependencies (profile : Profile) (types : List String) : List Dependency :=
  firstOccurrences (profile.baseDependencies ++
    types.flatMap fun type => (profile.dependencies.lookup type).getD [])

end Profile

/-- The import of names from a component file of the project. -/
def uiImport (file : String) (names : List String) : Import :=
  { source := "@/components/ui/" ++ file, names }

/-- Pages composed of ready-made components. -/
def shadcnProfile : Profile where
  name := "shadcn"
  label := "Shadcn UI (React)"
  extension := ".tsx"
  rules := Framework.shadcn.rules
  frame := Framework.shadcn.frame
  baseImports := [{ source := "react", main := some "React" }]
  imports := [
    ("Card", [uiImport "card"
      ["Card", "CardHeader", "CardTitle", "CardDescription", "CardContent", "CardFooter"]]),
    ("Button", [uiImport "button" ["Button"]]),
    ("Input", [uiImport "input" ["Input"]]),
    ("Label", [uiImport "label" ["Label"]]),
    ("Accordion", [uiImport "accordion"
      ["Accordion", "AccordionContent", "AccordionItem", "AccordionTrigger"]]),
    ("Separator", [uiImport "separator" ["Separator"]]),
    ("Badge", [uiImport "badge" ["Badge"]]),
    ("Alert", [uiImport "alert" ["Alert", "AlertDescription", "AlertTitle"],
      { source := "lucide-react", names := ["AlertCircle"] }]),
    ("Progress", [uiImport "progress" ["Progress"]])]
  dependencies := [
    ("Card", [⟨"shadcn", "card"⟩]),
    ("Button", [⟨"shadcn", "button"⟩]),
    ("Input", [⟨"shadcn", "input"⟩]),
    ("Label", [⟨"shadcn", "label"⟩]),
    ("Accordion", [⟨"shadcn", "accordion"⟩]),
    ("Separator", [⟨"shadcn", "separator"⟩]),
    ("Badge", [⟨"shadcn", "badge"⟩]),
    ("Alert", [⟨"shadcn", "alert"⟩, ⟨"npm", "lucide-react"⟩]),
    ("Progress", [⟨"shadcn", "progress"⟩])]

/-- Pages of plain markup with utility classes. -/
def bootstrapProfile : Profile where
  name := "bootstrap"
  label := "Bootstrap (HTML/CSS)"
  extension := ".tsx"
  rules := Framework.bootstrap.rules
  frame := Framework.bootstrap.frame
  baseImports := [
    { source := "react", main := some "React" },
    { source := "bootstrap/dist/css/bootstrap.min.css" },
    { source := "bootstrap/dist/js/bootstrap.bundle.min.js" }]
  baseDependencies := [⟨"npm", "bootstrap"⟩]

/-- A table of profiles by name. -/
abbrev ProfileTable := List (String × Profile)

/-- The bundled profiles. -/
def bundledProfiles : ProfileTable :=
  [(shadcnProfile.name, shadcnProfile), (bootstrapProfile.name, bootstrapProfile)]

/-- No profile has the name. -/
structure UnknownProfile where
  name : String
  known : List String
deriving DecidableEq

/-- Texts in the order of their code points. -/
def sortedNames (names : List String) : List String :=
  names.mergeSort fun a b => decide (a ≤ b)

/-- The report of a missing profile. -/
def UnknownProfile.message (e : UnknownProfile) : String :=
  "Unknown target '" ++ e.name ++ "'. Known targets: " ++ ", ".intercalate (sortedNames e.known)

/-- The profile of a name. -/
def ProfileTable.profile (table : ProfileTable) (name : String) :
    Except UnknownProfile Profile :=
  match table.lookup name with
  | some profile => .ok profile
  | none => .error ⟨name, table.map Prod.fst⟩

end Pagewright
