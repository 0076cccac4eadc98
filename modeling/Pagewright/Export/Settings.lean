import Pagewright.Document.Loading
import Pagewright.Profile.Basic
import Pagewright.Text.Pattern

/-!
# Export settings

The settings of exports are read from a YAML mapping with at most four keys; a key that is not
given has its default, and so has every key when the file is not there. The name of an archive is a
pattern that may refer to the target and to nothing else, which is tried out when the settings are
read. What belongs to the text of a target besides its characters is taken as it comes: the settings
are read for any `Objects`.
-/

namespace Pagewright

open Pagewright.Text Pagewright.Number

/-- The pattern of archive names unless another is set. -/
def defaultArchivePattern : String := "\x7btarget\x7d-project-export.zip"

/-- The settings of exports. -/
structure ExportSettings where
  target : String := "shadcn"
  outputFolder : Path := .ofText "dist"
  archivePattern : String := defaultArchivePattern
  timeout : Option Binary64 := none
deriving DecidableEq

/-- The name of the archive of a target. -/
def archiveName (objects : Objects) (pattern target : String) : Except PatternFault String :=
  (fillPattern objects pattern.toList "target" target.toList).map String.ofList

/-- Why settings cannot be read. -/
inductive SettingsFault where
  | longName
  | isFolder
  | notUtf8
  | yaml (fault : Yaml.Fault)
  | notMapping
  | unknownKeys (path : Path) (keys : List String)
  | keyNotText
  | target
  | folderNotText
  | archivePattern
  | archiveReference (fault : PatternFault)
  | timeout
  | timeoutOutOfRange
deriving DecidableEq

/-- The report of a fault. -/
def SettingsFault.message : SettingsFault → String
  | .longName => "The name of the settings file is too long."
  | .isFolder => "The settings file is a folder."
  | .notUtf8 => "The settings file is not text."
  | .yaml _ => "The settings file is not YAML."
  | .notMapping => "Top-level YAML structure must be a mapping."
  | .unknownKeys path keys =>
    "Unknown configuration keys in '" ++ path.text ++ "': " ++ ", ".intercalate (sortedNames keys)
  | .keyNotText => "A configuration key is not a text."
  | .target => "'default_target' must be a non-empty string."
  | .folderNotText => "'output_dir' must be a text."
  | .archivePattern => "'archive_name' must be a non-empty string."
  | .archiveReference fault =>
    "'archive_name' may only reference \x7btarget\x7d: " ++ fault.message
  | .timeout => "'timeout' must be a positive number of seconds."
  | .timeoutOutOfRange => "'timeout' is out of range."

/-- The keys of the settings. -/
def settingsKeys : List String := ["default_target", "output_dir", "archive_name", "timeout"]

/-- The name of a key that is none of the settings. -/
def unknownName? : Key → Except SettingsFault (Option String)
  | .text name => .ok (if name ∈ settingsKeys then none else some name)
  | _ => .error .keyNotText

/-- Refuses keys that are none of the settings. -/
def checkKeys (path : Path) (entries : Props) : Except SettingsFault Unit := do
  let unknown ← (entries.map Prod.fst).filterMapM unknownName?
  if unknown.isEmpty then return () else throw (.unknownKeys path unknown)

/-- A text that is not blank, or the fault. -/
def filledText (fault : SettingsFault) : Value → Except SettingsFault String
  | .text s => if (trim s.toList).isEmpty then .error fault else .ok s
  | _ => .error fault

/-- The target that is exported unless another is asked for. -/
def readTarget (v : Value) : Except SettingsFault String :=
  (filledText .target v).map fun s => String.ofList (trim s.toList)

/-- The folder that receives archives. -/
def readFolder : Value → Except SettingsFault Path
  | .text s => .ok (.ofText s)
  | _ => .error .folderNotText

/-- The pattern of archive names, tried out on a target. -/
def readArchivePattern (objects : Objects) (v : Value) : Except SettingsFault String := do
  let pattern ← filledText .archivePattern v
  match archiveName objects pattern "probe" with
  | .ok _ => return pattern
  | .error fault => throw (.archiveReference fault)

/-- The number of seconds after which an export is given up. -/
def readTimeout : Value → Except SettingsFault (Option Binary64)
  | .null => .ok none
  | .int n =>
    if n ≤ 0 then .error .timeout
    else if fitsBinary64 n then .ok (some (.ofInt n))
    else .error .timeoutOutOfRange
  | .float x => if x.isPositive then .ok (some x) else .error .timeout
  | _ => .error .timeout

namespace ExportSettings

/-- The settings that the entries of a mapping give. -/
def ofEntries (objects : Objects) (path : Path) (entries : Props) :
    Except SettingsFault ExportSettings := do
  checkKeys path entries
  let defaults : ExportSettings := {}
  let target ← (entries.get? "default_target").elim (.ok defaults.target) readTarget
  let outputFolder ← (entries.get? "output_dir").elim (.ok defaults.outputFolder) readFolder
  let archivePattern ←
    (entries.get? "archive_name").elim (.ok defaults.archivePattern) (readArchivePattern objects)
  let timeout ← readTimeout (entries.get "timeout")
  return { target, outputFolder, archivePattern, timeout }

/-- The settings at a path, given what the path leads to. -/
def load (objects : Objects) (path : Path) (state : FileState) :
    Except SettingsFault ExportSettings := do
  match state with
  | .missing => return {}
  | .longName => throw .longName
  | .folder => throw .isFolder
  | .bytes content =>
    match Text.ofUtf8? content with
    | none => throw .notUtf8
    | some text => match (← (yamlContent text).mapError .yaml).entries? with
      | some entries => ofEntries objects path entries
      | none => throw .notMapping

end ExportSettings

end Pagewright
