import Pagewright.Bundle.Archive
import Pagewright.Export.Settings

/-!
# Exports

An export compiles every page of a document for a target, packs the result, and names the archive.
The time limit applies to the packing alone; a limit that leaves no time is always exceeded, and
one that leaves some is taken to suffice.
-/

namespace Pagewright

open Pagewright.Text Pagewright.Number

/-- A finished export. -/
structure ExportResult where
  target : String
  archiveName : String
  pages : List CompiledPage
  archive : List ArchiveEntry

/-- Why an export fails. -/
inductive ExportFault where
  | target (fault : UnknownProfile)
  | page (fault : CompileFault)
  | limitNotNumber
  | limitOutOfRange
  | timedOut (target : String) (limit : String)
  | pack (fault : PackFault)
  | archiveName (fault : PatternFault)
deriving DecidableEq

/-- The report of a fault. -/
def ExportFault.message : ExportFault → String
  | .target fault => fault.message
  | .page (.render (.layout fault)) => fault.message
  | .page (.frame fault) => fault.message
  | .page (.render (.node _)) => "A node cannot be rendered."
  | .page (.visit _) => "A page cannot be walked."
  | .page .titleNotText => "A page title is not a text."
  | .limitNotNumber => "The time limit is not a number."
  | .limitOutOfRange => "The time limit is out of range."
  | .timedOut name limit => "Export for target '" ++ name ++ "' timed out after " ++ limit ++ "s."
  | .pack fault => fault.message
  | .archiveName fault => fault.message

/-- Refuses the limits that no export can keep. -/
def checkLimit (target : String) (limit : Value) : Except ExportFault Unit :=
  let refused : Except ExportFault Unit := .error (.timedOut target limit.toText)
  match limit with
  | .null => .ok ()
  | .bool b => if b then .ok () else refused
  | .int n =>
    if n ≤ 0 then refused else if fitsBinary64 n then .ok () else .error .limitOutOfRange
  | .float x => if x.isPositive then .ok () else refused
  | _ => .error .limitNotNumber

/-- Exports a document for a target. -/
def Document.exportFor (document : Document) (objects : Objects) (catalogue : Catalogue)
    (profiles : ProfileTable) (target : String) (limit : Value) (pattern : String) :
    Except ExportFault ExportResult := do
  let profile ← (profiles.profile target).mapError .target
  let pages ← (document.compile catalogue profile).mapError .page
  checkLimit profile.name limit
  let archive ← (profile.pack pages).mapError .pack
  let name ← (archiveName objects pattern profile.name).mapError .archiveName
  return { target := profile.name, archiveName := name, pages, archive }

end Pagewright
