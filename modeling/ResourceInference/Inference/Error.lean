import ResourceInference.Json.Printer
import ResourceInference.OpenApi.Encode
import ResourceInference.OpenApi.Lookup
import ResourceInference.Provider.Metadata
import ResourceInference.Text.Visible

/-!
# Why inference fails

Every cause ends inference, but for two enums that want one token, which may be tolerated.
-/

set_option autoImplicit false

namespace ResourceInference

/-- Why no package can be inferred. -/
inductive InferenceError where
  /-- A reference leads nowhere. -/
  | lookup (error : LookupError)
  /-- Two enums with different members want one token. -/
  | duplicateEnum (token : String) (wanted existing : List EnumMember)
  | missingOperationId (method : Method) (path : String)
  | missingResponseSchema (path : String)
  | missingRequestSchema (method : Method) (path : String)
  /-- A name is already mapped to another one. -/
  | nameConflict (key existing wanted : String)
  | autoNameConflict (token existing wanted : String)
  /-- Two paths want one slot of a token. -/
  | ambiguousOperation (token : String) (slot : CrudSlot) (existing wanted : String)
  | discriminatorTargetNotFound (name path : String)
  /-- Two types with different shapes want one token. -/
  | typeConflict (token : String)
  /-- Nothing is said that could become a type. -/
  | unsupportedSchema (name : String) (schema : Schema)
  /-- A schema contains itself without an object in between. -/
  | endlessSchema (name : String)
  /-- Every token that an enum could take is taken. -/
  | endlessEnum (name : String)

namespace InferenceError

/-- The names of members, in brackets. -/
def memberNames (members : List EnumMember) : String :=
  "[" ++ ", ".intercalate (members.map (·.name)) ++ "]"

/-- What is said of the error. -/
def message : InferenceError → String
  | lookup error => "resolve error: " ++ error.message
  | duplicateEnum token wanted existing =>
    "duplicate enum with different values " ++ Text.quoteVisible token ++ ": " ++
      memberNames wanted ++ " vs. " ++ memberNames existing
  | missingOperationId method path =>
    "operationId is missing for path " ++ method.name ++ " " ++ path
  | missingResponseSchema path =>
    "path " ++ path ++ " has no schema definition for status code 200"
  | missingRequestSchema method path =>
    "path " ++ path ++ " has no request body schema for " ++ method.key ++ " method"
  | nameConflict key existing wanted =>
    "mapping for " ++ key ++ " already exists and has a value " ++ existing ++
      " but a new mapping with value " ++ wanted ++ " was requested"
  | autoNameConflict token existing wanted =>
    "auto-name prop already exists for resource " ++ token ++ " (existing: " ++ existing ++
      ", new: " ++ wanted ++ ")"
  | ambiguousOperation token slot existing wanted =>
    slot.name ++ " operation for " ++ token ++ " is already mapped to " ++ existing ++
      ", cannot also map " ++ wanted
  | discriminatorTargetNotFound name path =>
    name ++ " not found in api schemas for discriminated type in path " ++ path
  | typeConflict token => "type " ++ token ++ " is already registered with a different shape"
  | unsupportedSchema name schema =>
    "failed to generate property types for " ++ name ++ ": " ++ Json.compact schema.encode
  | endlessSchema name => "schema of " ++ name ++ " contains itself"
  | endlessEnum name => "no name is left for the enum " ++ name

/-- What the error goes back to, if that is an error of its own. -/
def cause? : InferenceError → Option String
  | lookup error => some error.message
  | _ => none

end InferenceError

end ResourceInference
