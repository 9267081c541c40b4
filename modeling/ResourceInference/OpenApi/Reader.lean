import ResourceInference.Json.Reader
import ResourceInference.OpenApi.Decode
import ResourceInference.OpenApi.Format
import ResourceInference.Yaml.Reader

/-!
# Reading documents

From text to document. Version 3 of the description format is the only one that is read.
-/

set_option autoImplicit false

namespace ResourceInference

/-- Why a text is no document. -/
inductive DocumentError where
  /-- A JSON text ends too early. -/
  | truncated
  /-- A text is not JSON, or a list spells more fields than a record has. -/
  | malformed
  /-- A JSON text does not spell what is asked for. -/
  | misshapen
  /-- A text is not YAML, or does not spell what is asked for. -/
  | yaml
  /-- The document is of another version. -/
  | unsupportedVersion (version : String)
  deriving DecidableEq, Repr

namespace DocumentError

/-- The error of a JSON text. -/
def ofReadError : Json.ReadError → DocumentError
  | .truncated => truncated
  | .malformed => malformed

/-- The error of a JSON text with the wrong shape. -/
def ofDecodeError : DecodeError → DocumentError
  | .shape => misshapen
  | .surplus => malformed

/-- What is said of a version that is not read. -/
def unsupportedMessage (version : String) : String := "unsupported OpenAPI version: " ++ version

end DocumentError

/-- What a JSON text spells. -/
def readJson {α : Type} (decode : Reading → Node → Decode.Result α) (text : String) :
    Except DocumentError α :=
  match Json.read text with
  | .error e => .error (.ofReadError e)
  | .ok node => (decode .json node).mapError .ofDecodeError

/-- What a YAML text spells. -/
def readYaml {α : Type} (decode : Reading → Node → Decode.Result α) (text : String) :
    Except DocumentError α :=
  match Yaml.read? text with
  | none => .error .yaml
  | some node => (decode .yaml node).mapError fun _ => .yaml

/-- What a text in a format spells. -/
def readText {α : Type} (decode : Reading → Node → Decode.Result α) (format : TextFormat)
    (text : String) : Except DocumentError α :=
  match format with
  | .json => readJson decode text
  | .yaml => readYaml decode text

/-- Whether a version is one of version 3. -/
def isVersionThree (version : String) : Bool := "3.".toList.isPrefixOf version.toList

/-- The document that a text spells. -/
def Document.read (format : TextFormat) (text : String) : Except DocumentError Document := do
  let d ← readText Document.decode format text
  if isVersionThree d.openapi then pure d else throw (.unsupportedVersion d.openapi)

end ResourceInference
