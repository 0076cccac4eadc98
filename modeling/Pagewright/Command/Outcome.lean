import Pagewright.Bundle.Zip
import Pagewright.Catalogue.Bundled
import Pagewright.Command.Basic
import Pagewright.Files.Tree

/-!
# Outcomes of commands

What a command prints comes first, then how it ends: with a status, with a fault, or with an
archive that is still to be written. Lines that are printed before a fault is met stay printed. A
check ends with status one when a node would be left out.
-/

namespace Pagewright

/-- Why a command fails. -/
inductive CommandFault where
  | settings (fault : SettingsFault)
  | document (fault : LoadFault)
  | page (fault : DocumentFault)
  | target (fault : UnknownProfile)
  | compilation (fault : CompileFault)
  | exporting (fault : ExportFault)
  | writing (fault : WriteFault) (destination : Path)
deriving DecidableEq

/-- The report of a fault that ends a command. -/
def CommandFault.message : CommandFault → String
  | .settings fault => fault.message
  | .document (.missing path) => missingDocument path
  | .document (.longName path) => PathFault.longName.message path
  | .document .isFolder => "The document is a folder."
  | .document .notUtf8 => "The document is not text."
  | .document (.json _) => "The document is not JSON."
  | .document (.yaml _) => "The document is not YAML."
  | .document (.payload fault) => fault.message
  | .page fault => fault.message
  | .target fault => fault.message
  | .compilation fault => (ExportFault.page fault).message
  | .exporting fault => fault.message
  | .writing fault destination => fault.message destination

/-- How a command ends. -/
inductive Ending where
  | status (code : Nat)
  | failed (fault : CommandFault)
  | write (destination : Path) (archive : List ArchiveEntry)

/-- What a command prints and how it ends. -/
structure Outcome where
  output : String := ""
  ending : Ending

/-- The outcome of a step that can fail after some output. -/
def Outcome.ofExcept (output : String) : Except CommandFault (String × Ending) → Outcome
  | .ok (more, ending) => ⟨output ++ more, ending⟩
  | .error fault => ⟨output, .failed fault⟩

namespace Command

/-- The text of lines. -/
def linesText (lines : List String) : String := String.join (lines.map fun line => line ++ "\n")

/-- The line of a target: its name, its label and the types it can render. -/
def targetLine (entry : String × Profile) : String :=
  entry.1 ++ ": " ++ entry.2.label ++ " (" ++
    ", ".intercalate (sortedNames (entry.2.rules.map Prod.fst)) ++ ")"

/-- The listing of the targets. -/
def targetLines (profiles : ProfileTable) : List String :=
  (profiles.mergeSort fun a b => decide (a.1 ≤ b.1)).map targetLine

/-- The line of a node that would be left out. -/
def problemLine? (profile : Option Profile) (page : Page) (node : Node) : Option String :=
  let start := page.id ++ ": "
  let ending := node.type ++ " (" ++ node.id.toText ++ ")"
  if !Bundled.catalogue.knows node.type then some (start ++ "unknown type " ++ ending)
  else match profile with
    | none => none
    | some profile =>
      if profile.supports node.type then none
      else some (start ++ profile.name ++ " cannot emit " ++ ending)

/-- The lines of the zones of a page that nothing leads to. -/
def orphanLines (page : Page) : List String :=
  (page.orphanedZones Bundled.catalogue).map fun key => page.id ++ ": orphaned zone " ++ key

/-- The lines of the nodes of a page that would be left out. -/
def problemLines (profile : Option Profile) (page : Page) : List String :=
  (page.walk Bundled.catalogue).filterMap (problemLine? profile page)

/-- The profile of a name that is not empty. -/
def profileOf? (name : Option String) : Except CommandFault (Option Profile) :=
  match name.filter fun name => !name.isEmpty with
  | none => .ok none
  | some name => ((bundledProfiles.profile name).map some).mapError .target

/-- What a check finds. -/
def checkOutcome (document : Document) (profile : Option Profile) : Outcome :=
  let findings := linesText (document.pages.flatMap fun page =>
    orphanLines page ++ problemLines profile page)
  if document.pages.any fun page => !(problemLines profile page).isEmpty then
    ⟨findings, .status 1⟩
  else match document.compile Bundled.catalogue (profile.getD shadcnProfile) with
    | .error fault => ⟨findings, .failed (.compilation fault)⟩
    | .ok pages => ⟨findings ++ "ok: " ++ toString pages.length ++ " page(s)\n", .status 0⟩

/-- The source of a page. -/
def previewText (document : Document) (page : Option String) (target : String) :
    Except CommandFault String := do
  let page ← match page.filter fun id => !id.isEmpty with
    | none => pure document.firstPage
    | some id => (document.page id).mapError .page
  let profile ← (bundledProfiles.profile target).mapError .target
  let compiled ← (page.compile Bundled.catalogue profile none).mapError .compilation
  return compiled.fileText

/-- The archive of an export and where it goes. -/
def exportArchive (objects : Text.Objects) (document : Document) (settings : ExportSettings)
    (target : Option String) (folder : Option Path) : Except CommandFault Ending := do
  let target := (target.filter fun name => !name.isEmpty).getD settings.target
  let limit := settings.timeout.elim .null Value.float
  let result ← (document.exportFor objects Bundled.catalogue bundledProfiles target limit
    settings.archivePattern).mapError .exporting
  let folder := folder.getD settings.outputFolder
  return .write (folder.within (.ofText result.archiveName)) result.archive

/-- The document that a path leads to. -/
def loadDocument (read : Path → FileState) (path : Path) : Except CommandFault Document :=
  (Document.load Bundled.catalogue path (read path)).mapError .document

/-- What a command prints and how it ends, given what paths lead to and what belongs to texts. -/
def outcome (objects : Text.Objects) (read : Path → FileState) : Command → Outcome
  | .help => ⟨helpText, .status 0⟩
  | .targets => ⟨linesText (targetLines bundledProfiles), .status 0⟩
  | .check path target =>
    match (do return (← loadDocument read path, ← profileOf? target)) with
    | .error fault => ⟨"", .failed fault⟩
    | .ok (document, profile) => checkOutcome document profile
  | .preview path page target => .ofExcept "" do
    let document ← loadDocument read path
    return (← previewText document page target, .status 0)
  | .exportSite path target folder settings => .ofExcept "" do
    let settings ← (ExportSettings.load objects settings (read settings)).mapError .settings
    let document ← loadDocument read path
    return ("", ← exportArchive objects document settings target folder)

end Command

/-- The path as it is shown to someone in a folder. -/
def Path.shown (path folder : Path) : String := ((path.relativeTo? folder).getD path).text

/-- What is printed once an archive is written. -/
def writtenLine (destination folder : Path) : String :=
  "wrote " ++ destination.shown folder ++ "\n"

/-! ## Commands on a file tree -/

/-- The content of a file. -/
inductive FileContent where
  | bytes (content : List UInt8)
  | archive (entries : List ArchiveEntry)

/-- The bytes of a file. -/
def FileContent.toBytes : FileContent → List UInt8
  | .bytes content => content
  | .archive entries => Zip.encode entries

/-- What a path leads to in a tree. -/
def readState (files : FileTree FileContent) (folder : Place) (path : Path) : FileState :=
  match files.locate folder path with
  | .error .longName => .longName
  | .error _ => .missing
  | .ok place => match files.look? place with
    | none => .missing
    | some .folder => .folder
    | some (.file content) => .bytes content.toBytes

/-- What a finished command printed, and its status or why it failed. -/
structure Run where
  output : String
  result : Except CommandFault Nat

/-- Runs a command in a folder of a file tree. -/
def Command.run (command : Command) (objects : Text.Objects) (files : FileTree FileContent)
    (folder : Place) (refusals : Refusals := .nothing) : Run × FileTree FileContent :=
  let outcome := command.outcome objects (readState files folder)
  match outcome.ending with
  | .status code => (⟨outcome.output, .ok code⟩, files)
  | .failed fault => (⟨outcome.output, .error fault⟩, files)
  | .write destination archive =>
    let attempt := files.write folder destination (.archive archive) refusals
    match attempt.fault with
    | some fault => (⟨outcome.output, .error (.writing fault destination)⟩, attempt.tree)
    | none =>
      (⟨outcome.output ++ writtenLine destination ⟨.top, folder⟩, .ok 0⟩, attempt.tree)

end Pagewright
