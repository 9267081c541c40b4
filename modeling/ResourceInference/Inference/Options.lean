import ResourceInference.Exclusion
import ResourceInference.Naming.Operation
import ResourceInference.OpenApi.Document

/-!
# Options of inference

What can be chosen apart from the document.
-/

set_option autoImplicit false

namespace ResourceInference

/-- What happens when two enums with different members want one token. -/
inductive DuplicateEnumPolicy where
  /-- Inference fails. -/
  | fail
  /-- The second enum becomes its scalar type. -/
  | warn
  deriving DecidableEq, Repr

namespace DuplicateEnumPolicy

/-- All policies. -/
def all : List DuplicateEnumPolicy := [fail, warn]

/-- A policy as it is written. -/
def name : DuplicateEnumPolicy → String
  | fail => "fail"
  | warn => "warn"

/-- The policy that is written so. -/
def ofName? (name : String) : Option DuplicateEnumPolicy := all.find? (·.name = name)

end DuplicateEnumPolicy

/-- The options of inference. -/
structure InferenceOptions where
  /-- The first part of every token. -/
  packageName : String
  /-- Whether the module of a path is the resource around it, and not its first segment. -/
  useParentAsModule : Bool := false
  /-- What separates the namespace of an operation id from the rest, if ids have namespaces. -/
  namespaceSeparator : Option String := none
  /-- Endings of resource names that look like a plural and are none. -/
  allowedPlurals : List String := Naming.defaultPlurals
  /-- Whether the ids in paths are named by their place. -/
  normalizePathParameters : Bool := true
  duplicateEnums : DuplicateEnumPolicy := .fail
  exclusions : ExclusionList := .none

/-- What inference works on: a document and the options. -/
structure InferenceTask where
  document : Document
  options : InferenceOptions

/-- The token of a name in a module of a package. -/
def typeToken (package module name : String) : String := package ++ ":" ++ module ++ ":" ++ name

/-- The token of a name in a module. -/
def InferenceTask.token (task : InferenceTask) (module name : String) : String :=
  typeToken task.options.packageName module name

end ResourceInference
