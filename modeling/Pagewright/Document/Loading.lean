import Pagewright.Document.Payload
import Pagewright.Files.Reading
import Pagewright.Format.Json
import Pagewright.Format.Yaml.Basic
import Pagewright.Text.Utf8

/-!
# Documents from files

A document file is JSON when its name says so, and YAML otherwise. A JSON file without content and
a YAML file whose value holds nothing count as an empty mapping.
-/

namespace Pagewright

/-- Why a document cannot be loaded. -/
inductive LoadFault where
  | missing (path : Path)
  | longName (path : Path)
  | isFolder
  | notUtf8
  | json (fault : Json.Fault)
  | yaml (fault : Yaml.Fault)
  | payload (fault : PayloadFault)
deriving DecidableEq

/-- The report that a document file is not there. -/
def missingDocument (path : Path) : String := "Document file '" ++ path.text ++ "' not found."

/-- Does the byte stand for a blank of ASCII? -/
def isBlankByte (b : UInt8) : Bool := b == 0x20 || (0x09 ≤ b && b ≤ 0x0D)

/-- The value of the content of a JSON file. -/
def jsonContent (bytes : List UInt8) : Except LoadFault Value :=
  if bytes.all isBlankByte then .ok (.map []) else (Json.read bytes).mapError .json

/-- The value of the content of a YAML file, where a value that holds nothing is the empty
mapping. -/
def yamlContent (text : String) : Except Yaml.Fault Value :=
  (Yaml.read text.toList).map fun value => if value.isVoid then .map [] else value

/-- The value that the content of a document file writes. -/
def fileContent (path : Path) (bytes : List UInt8) : Except LoadFault Value :=
  if path.isJson then jsonContent bytes
  else match Text.ofUtf8? bytes with
    | none => .error .notUtf8
    | some text => (yamlContent text).mapError .yaml

/-- The document at a path, given what the path leads to. -/
def Document.load (catalogue : Catalogue) (path : Path) (state : FileState) :
    Except LoadFault Document :=
  match state with
  | .missing => .error (.missing path)
  | .longName => .error (.longName path)
  | .folder => .error .isFolder
  | .bytes content => do
    let payload ← fileContent path content
    (Document.ofPayload catalogue payload).mapError .payload

end Pagewright
