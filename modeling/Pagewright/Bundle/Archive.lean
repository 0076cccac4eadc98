import Pagewright.Bundle.Manifest

/-!
# Bundles

A bundle is an archive of the manifest and the source files of the pages, in page order. Two pages
cannot have one path, and an archive has no room for a name of more than 65535 bytes.
-/

namespace Pagewright

/-- A file of an archive. -/
structure ArchiveEntry where
  path : String
  text : String
deriving DecidableEq

/-- Two pages would be written to one path. -/
structure RepeatedPath where
  path : String
deriving DecidableEq

/-- The report of a repeated path. -/
def RepeatedPath.message (e : RepeatedPath) : String :=
  "Duplicate archive path '" ++ e.path ++ "'."

/-- The path of the manifest. -/
def manifestPath : String := "README.md"

/-- The entries of pages, where some paths are taken. -/
def pageEntries (taken : List String) : List CompiledPage → Except RepeatedPath (List ArchiveEntry)
  | [] => .ok []
  | page :: rest =>
    if page.path ∈ taken then .error ⟨page.path⟩
    else (pageEntries (page.path :: taken) rest).map fun entries =>
      ⟨page.path, page.fileText⟩ :: entries

/-- The files of a bundle: the manifest first, then one file per page. -/
def Profile.bundle (profile : Profile) (pages : List CompiledPage) :
    Except RepeatedPath (List ArchiveEntry) :=
  (pageEntries [manifestPath] pages).map fun entries =>
    ⟨manifestPath, profile.manifest pages⟩ :: entries

/-- The name under which an archive stores a file: a name ends before a zero character. -/
def ArchiveEntry.storedName (entry : ArchiveEntry) : String :=
  String.ofList (entry.path.toList.takeWhile fun c => c != '\x00')

/-- The greatest number of bytes of a stored name. -/
def storedNameLimit : Nat := 65535

/-- Has an archive room for the name of the entry? -/
def ArchiveEntry.fits (entry : ArchiveEntry) : Bool :=
  entry.storedName.utf8ByteSize ≤ storedNameLimit

/-- Why pages are not packed. -/
inductive PackFault where
  | repeatedPath (fault : RepeatedPath)
  | longName (name : String)
deriving DecidableEq

/-- The report of a fault. -/
def PackFault.message : PackFault → String
  | .repeatedPath fault => fault.message
  | .longName name => "The name '" ++ name ++ "' is too long for an archive."

/-- The files of a bundle whose names an archive has room for. -/
def Profile.pack (profile : Profile) (pages : List CompiledPage) :
    Except PackFault (List ArchiveEntry) := do
  let entries ← (profile.bundle pages).mapError .repeatedPath
  match entries.find? fun entry => !entry.fits with
  | some entry => throw (.longName entry.storedName)
  | none => return entries

end Pagewright
