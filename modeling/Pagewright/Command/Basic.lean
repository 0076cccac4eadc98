import Pagewright.Command.Arguments
import Pagewright.Export.Basic

/-!
# Commands

A command exports a document, shows the source of one page, lists the targets, or checks a
document for what a target would leave out. What a command does is decided from its arguments and
from what the paths it reads lead to; the only change it asks for is one archive that is to be
written.
-/

namespace Pagewright

/-- A command. -/
inductive Command where
  | exportSite (document : Path) (target : Option String) (folder : Option Path) (settings : Path)
  | preview (document : Path) (page : Option String) (target : String)
  | targets
  | check (document : Path) (target : Option String)
  | help
deriving DecidableEq

/-- The path of the settings unless another is given. -/
def defaultSettingsPath : Path := .ofText "config/pagecraft.yaml"

/-- The summary of the commands. -/
def helpText : String :=
  "Usage: pagewright COMMAND\n\n" ++
  "  export DOCUMENT [--target NAME] [--output-dir FOLDER] [--config FILE]\n" ++
  "  preview DOCUMENT [--page ID] [--target NAME]\n" ++
  "  targets\n" ++
  "  check DOCUMENT [--target NAME]\n"

namespace Command

/-- The document that arguments name, and nothing else besides their options. -/
def documentOf (arguments : Arguments) (environment : List (String × String)) :
    Except UsageFault Path :=
  match arguments.positional, arguments.options.lookup "document" with
  | [], _ => match arguments.option? environment "document" with
    | some text => .ok (.ofText text)
    | none => .error (.missingArgument "document")
  | [text], none => .ok (.ofText text)
  | text :: _, some _ => .error (.unexpectedArgument text)
  | _ :: text :: _, none => .error (.unexpectedArgument text)

/-- Refuses a word for a switch that is neither yes nor no. -/
def checkSwitch (arguments : Arguments) (environment : List (String × String)) (name : String) :
    Except UsageFault Unit :=
  match arguments.option? environment name with
  | none => .ok ()
  | some word => if (switchValue? word).isSome then .ok () else .error (.notASwitchWord word)

/-- The export that arguments ask for. -/
def readExport (environment : List (String × String)) (rest : List String) :
    Except UsageFault Command := do
  let arguments ← Arguments.sort
    ⟨["document", "target", "output-dir", "config"], ["verbose"]⟩ rest
  checkSwitch arguments environment "verbose"
  let option := arguments.option? environment
  return .exportSite (← documentOf arguments environment) (option "target")
    ((option "output-dir").map Path.ofText)
    (((option "config").map Path.ofText).getD defaultSettingsPath)

/-- The preview that arguments ask for. -/
def readPreview (environment : List (String × String)) (rest : List String) :
    Except UsageFault Command := do
  let arguments ← Arguments.sort ⟨["document", "page", "target"], ["verbose"]⟩ rest
  checkSwitch arguments environment "verbose"
  let option := arguments.option? environment
  return .preview (← documentOf arguments environment) (option "page")
    ((option "target").getD "shadcn")

/-- The check that arguments ask for. -/
def readCheck (environment : List (String × String)) (rest : List String) :
    Except UsageFault Command := do
  let arguments ← Arguments.sort ⟨["document", "target"], []⟩ rest
  return .check (← documentOf arguments environment) (arguments.option? environment "target")

/-- The listing of targets, which has no arguments. -/
def readTargets (rest : List String) : Except UsageFault Command := do
  match (← Arguments.sort ⟨[], []⟩ rest).positional with
  | [] => return .targets
  | text :: _ => throw (.unexpectedArgument text)

/-- Do arguments ask for the summary? -/
def asksForHelp (arguments : List String) : Bool :=
  let options := arguments.takeWhile fun argument => argument != "--"
  options.contains "--help" || options.contains "-h"

/-- The command that arguments make up in an environment. -/
def ofArguments (environment : List (String × String)) (arguments : List String) :
    Except UsageFault Command :=
  if asksForHelp arguments then .ok .help
  else match arguments with
    | [] => .ok .help
    | "export" :: rest => readExport environment rest
    | "preview" :: rest => readPreview environment rest
    | "targets" :: rest => readTargets rest
    | "check" :: rest => readCheck environment rest
    | name :: _ => .error (.unknownCommand name)

/-- The paths that a command reads. -/
def inputs : Command → List Path
  | .exportSite document _ _ settings => [settings, document]
  | .preview document _ _ => [document]
  | .check document _ => [document]
  | _ => []

end Command

end Pagewright
