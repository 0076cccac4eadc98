import Pagewright.Bundle.Install
import Pagewright.Compilation.Page

/-!
# The manifest of a bundle

The manifest says how to install what the pages of a bundle import, and lists the pages in a table
with one row per page.
-/

namespace Pagewright

open Pagewright.Text Pagewright.Markup

/-- The path of a page inside a bundle. -/
def CompiledPage.path (page : CompiledPage) : String := "src/pages/" ++ page.fileName

/-- The types that pages use. -/
def typesOfPages (pages : List CompiledPage) : List String :=
  firstOccurrences (pages.flatMap CompiledPage.usedTypes)

/-- The dependencies of pages. -/
def Profile.pageDependencies (profile : Profile) (pages : List CompiledPage) : List Dependency :=
  profile.resolveDependencies (typesOfPages pages)

/-- The row of a page in the table of pages. -/
def CompiledPage.tableRow (page : CompiledPage) : List Char :=
  "| ".toList ++ tableCell page.title.content ++ " | ".toList ++ tableCell page.route.content ++
    " | ".toList ++ tableCell page.path.toList ++ " |\n".toList

/-- The install section of a manifest. -/
def installSection (commands : List String) : List Char :=
  if commands.isEmpty then "No additional dependencies are required.\n".toList
  else
    "Run this to install dependencies:\n\n\x60\x60\x60bash\n".toList ++
      commands.flatMap (fun command => command.toList ++ ['\n']) ++ "\x60\x60\x60\n".toList

/-- The manifest of pages. -/
def Profile.manifest (profile : Profile) (pages : List CompiledPage) : String :=
  String.ofList ("# Generated Site (".toList ++ profile.label.toList ++ ")\n\n".toList ++
    installSection (installCommands (profile.pageDependencies pages)) ++
    "\n## Pages\n\n| Page | Route | File |\n| --- | --- | --- |\n".toList ++
    pages.flatMap CompiledPage.tableRow)

end Pagewright
