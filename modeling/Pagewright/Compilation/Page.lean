import Pagewright.Compilation.Identifier
import Pagewright.Rendering.Basic

/-!
# Compiling pages

A page compiles to one source file. The types that the page reaches decide its imports, these
decide how its component may be called, and the nodes at the top of the page, rendered with
everything below them, make up its body, around which the profile writes the file. The pages of a
document compile in order, each under an identifier that no page before it has.
-/

namespace Pagewright

/-- The source file of a page and what went into it. -/
structure CompiledPage where
  identifier : String
  componentName : String
  fileName : String
  fileText : String
  title : Value
  route : Value
  usedTypes : List String

/-- Why a page does not compile. -/
inductive CompileFault where
  | titleNotText
  | visit (fault : VisitFault)
  | render (fault : RenderFault)
  | frame (fault : LayoutFault)
deriving DecidableEq

/-- The text of a title; a title that holds nothing is empty. -/
def titleText (title : Value) : Except CompileFault (List Char) :=
  match title with
  | .text s => .ok s.toList
  | v => if v.isVoid then .ok [] else .error .titleNotText

/-- The identifier that the title of a page derives. -/
def Page.deriveIdentifier (page : Page) : Except CompileFault (List Char) :=
  (titleText page.settings.title).map Pagewright.deriveIdentifier

/-- The types that a page uses in a profile. -/
def Page.usedTypes (page : Page) (catalogue : Catalogue) (profile : Profile) : List String :=
  page.collectTypes catalogue profile.supports

/-- The markup of nodes of a page. -/
def Page.render (page : Page) (catalogue : Catalogue) (profile : Profile) (nodes : List Node) :
    Except RenderFault (List Markup) :=
  layoutItems (page.expand catalogue profile nodes)

/-- The notices of rendering nodes of a page. -/
def Page.notices (page : Page) (catalogue : Catalogue) (profile : Profile)
    (nodes : List Node) : List Notice :=
  itemNotices profile page.id (page.expand catalogue profile nodes)

/-- The text of nodes of a page at the margin. -/
def Page.renderText (page : Page) (catalogue : Catalogue) (profile : Profile)
    (nodes : List Node) : Except RenderFault String :=
  (page.render catalogue profile nodes).map fun markup => String.ofList (markupText markup)

/-- Compiles a page under an identifier. -/
def Page.compileAs (page : Page) (catalogue : Catalogue) (profile : Profile)
    (identifier : List Char) : Except CompileFault CompiledPage := do
  (page.checkVisit catalogue profile.supports).mapError .visit
  let types := page.usedTypes catalogue profile
  let imports := profile.resolveImports types
  let name := pageComponentName identifier
    (imports.flatMap fun i => i.bindings.map String.toList)
  let nodes ← (page.render catalogue profile page.content).mapError .render
  let text ← (profile.frame imports name page.settings nodes).mapError .frame
  return {
    identifier := String.ofList identifier
    componentName := String.ofList name
    fileName := String.ofList identifier ++ profile.extension
    fileText := String.ofList (Text.closeLastLine text)
    title := page.settings.title
    route := page.settings.route
    usedTypes := types }

/-- Compiles a page under a given identifier, or under the one of its title. -/
def Page.compile (page : Page) (catalogue : Catalogue) (profile : Profile)
    (identifier : Option String) : Except CompileFault CompiledPage := do
  match identifier.filter fun name => !name.isEmpty with
  | some name => page.compileAs catalogue profile name.toList
  | none => page.compileAs catalogue profile (← page.deriveIdentifier)

/-- Compiles pages in order under identifiers that are free of the taken ones. -/
def compilePages (catalogue : Catalogue) (profile : Profile) (taken : List (List Char)) :
    List Page → Except CompileFault (List CompiledPage)
  | [] => .ok []
  | page :: rest => do
    let identifier := uniqueIdentifier (← page.deriveIdentifier) taken
    let compiled ← page.compileAs catalogue profile identifier
    let more ← compilePages catalogue profile (identifier :: taken) rest
    return compiled :: more

/-- Compiles every page of a document in order. -/
def Document.compile (document : Document) (catalogue : Catalogue) (profile : Profile) :
    Except CompileFault (List CompiledPage) :=
  compilePages catalogue profile [] document.pages

end Pagewright
