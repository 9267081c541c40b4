import ResourceInference.Data.Decode
import ResourceInference.Inference.Options
import ResourceInference.Naming.Kebab
import ResourceInference.Yaml.Reader

/-!
# Configuration

What a project says once for all runs, as YAML. Every setting has a default; unknown keys are
ignored. The name of the package defaults to the title of the document in kebab case.
-/

set_option autoImplicit false

namespace ResourceInference

open Decode

/-! ## Rules -/

/-- A way to read patterns. -/
def PatternType.decode (reading : Reading) (node : Node) : Result PatternType := do
  match PatternType.ofName? (← keyword reading (PatternType.all.map PatternType.name) node) with
  | some type => pure type
  | none => throw .shape

/-- A rule that excludes operations. -/
def ExclusionRule.decode (reading : Reading) (node : Node) : Result ExclusionRule := do
  let f ← fields reading ["method", "pathPattern", "patternType"] node
  let rule : ExclusionRule := {
    method := ← f.withDefault "method" (optional (text reading)) none
    pathPattern := ← f.withDefault "pathPattern" (text reading) ""
    patternType := ← f.withDefault "patternType" (PatternType.decode reading) .wildcard }
  f.close reading
  pure rule

/-! ## Settings -/

/-- The settings of a project. -/
structure Config where
  input : Option String := none
  output : Option String := none
  metadataOutput : Option String := none
  packageName : Option String := none
  useParentAsModule : Bool := false
  idsHaveNamespace : Bool := false
  namespaceSeparator : String := "_"
  /-- Endings of resource names, beside those that every project has. -/
  allowedPlurals : List String := []
  normalizePathParameters : Bool := true
  duplicateEnums : DuplicateEnumPolicy := .fail
  excludedPaths : List String := []
  exclusions : List ExclusionRule := []

namespace Config

/-- The names of the settings. -/
def names : List String :=
  ["input", "output", "metadata_output", "package_name", "use_parent_resource_as_module",
    "operation_ids_have_namespace", "namespace_separator", "allowed_plural_resources",
    "normalize_path_params", "on_duplicate_enum", "excluded_paths", "exclusions"]

/-- A policy. -/
def decodePolicy (node : Node) : Result DuplicateEnumPolicy := do
  let words := DuplicateEnumPolicy.all.map DuplicateEnumPolicy.name
  match DuplicateEnumPolicy.ofName? (← keyword .yaml words node) with
  | some policy => pure policy
  | none => throw .shape

/-- The settings that a tree spells. -/
def decode (node : Node) : Result Config := do
  let f ← fields .yaml names node
  let texts : Node → Result (List String) := Decode.list .yaml (text .yaml)
  pure {
    input := ← f.optional "input" (text .yaml)
    output := ← f.optional "output" (text .yaml)
    metadataOutput := ← f.optional "metadata_output" (text .yaml)
    packageName := ← f.optional "package_name" (text .yaml)
    useParentAsModule := ← f.withDefault "use_parent_resource_as_module" bool false
    idsHaveNamespace := ← f.withDefault "operation_ids_have_namespace" bool false
    namespaceSeparator := ← f.withDefault "namespace_separator" (text .yaml) "_"
    allowedPlurals := ← f.withDefault "allowed_plural_resources" texts []
    normalizePathParameters := ← f.withDefault "normalize_path_params" bool true
    duplicateEnums := ← f.withDefault "on_duplicate_enum" decodePolicy .fail
    excludedPaths := ← f.withDefault "excluded_paths" texts []
    exclusions :=
      ← f.withDefault "exclusions" (Decode.list .yaml (ExclusionRule.decode .yaml)) [] }

/-- The settings that a text spells, if it spells any. -/
def read? (text : String) : Option Config :=
  (Yaml.read? text).bind fun node => (decode node).toOption

/-- The options of inference for a document with a title. -/
def options (c : Config) (title : String) : Except ExclusionError InferenceOptions := do
  let exclusions ← ExclusionList.make c.exclusions c.excludedPaths
  pure {
    packageName := c.packageName.getD (Naming.kebabCase title)
    useParentAsModule := c.useParentAsModule
    namespaceSeparator := if c.idsHaveNamespace then some c.namespaceSeparator else none
    allowedPlurals := c.allowedPlurals ++ Naming.defaultPlurals
    normalizePathParameters := c.normalizePathParameters
    duplicateEnums := c.duplicateEnums
    exclusions }

end Config

end ResourceInference
