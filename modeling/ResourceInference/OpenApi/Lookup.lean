import ResourceInference.OpenApi.Document
import ResourceInference.Text.Split

/-!
# Following references

A reference has the form `#/components/SECTION/NAME`. A schema reference is followed through
component schemas that are references themselves until a schema stands there; a component that
comes round again is a circle. References to parameters, bodies and responses are followed one
step: a component that is itself a reference counts as missing.
-/

set_option autoImplicit false

namespace ResourceInference

/-- Why a reference leads nowhere. -/
inductive LookupError where
  /-- Following component schemas comes back to this one. -/
  | circular (name : String)
  /-- The reference has not the form of references. -/
  | malformed (path : String)
  /-- The reference points into another section than its place asks for. -/
  | wrongSection (expected found path : String)
  /-- There is no such component. -/
  | notFound (path : String)
  deriving DecidableEq, Repr

namespace Lookup

/-- The start of every reference to a component. -/
def componentsStart : String := "#/components/"

/-- The start of every reference to a component schema. -/
def schemasStart : String := "#/components/schemas/"

/-- The reference to a component schema. -/
def schemaReference (name : String) : String := schemasStart ++ name

end Lookup

namespace LookupError

/-- What is said of the error. -/
def message : LookupError → String
  | circular name => "circular reference detected: " ++ Lookup.schemaReference name
  | malformed path => "invalid reference format: " ++ path
  | wrongSection expected found path =>
    "invalid reference format: expected section '" ++ expected ++ "', got '" ++ found ++
      "' in " ++ path
  | notFound path => "reference target not found: " ++ path

end LookupError

namespace Lookup

/-- The name of the component that a reference into `expected` points at. -/
def targetName (expected path : String) : Except LookupError String :=
  match Text.stripStart? componentsStart.toList path.toList with
  | none => .error (.malformed path)
  | some rest =>
    match Text.cutAt? '/' rest with
    | none => .error (.malformed path)
    | some (found, name) =>
      if String.ofList found = expected then .ok (String.ofList name)
      else .error (.wrongSection expected (String.ofList found) path)

/-- The name of a component schema, given by reference or by name. -/
def schemaName (reference : String) : String :=
  match Text.stripStart? schemasStart.toList reference.toList with
  | some name => String.ofList name
  | none => reference

/-- The schema at the end of the references that start at a component schema. `seen` are the
names passed; there are at most `bound` names left that are not among them. -/
def follow (d : Document) (name : String) (seen : List String) :
    Nat → Except LookupError Schema
  | 0 => .error (.circular name)
  | bound + 1 =>
    if seen.contains name then .error (.circular name)
    else match d.schema? name with
      | none => .error (.notFound (schemaReference name))
      | some (.item schema) => .ok schema
      | some (.ref path) => do follow d (← targetName "schemas" path) (name :: seen) bound

/-- The schema that a component schema is, after all references. -/
def component (d : Document) (name : String) : Except LookupError Schema :=
  follow d name [] (d.tables.schemas.length + 1)

/-- A schema, and the name of the component it was reached by. -/
structure Found where
  name : Option String
  schema : Schema

/-- The schema that stands at a place or that the reference there leads to. -/
def schema (d : Document) : SchemaOrRef → Except LookupError Found
  | .item schema => .ok ⟨none, schema⟩
  | .ref path => do
    let name ← targetName "schemas" path
    pure ⟨some name, ← component d name⟩

/-- The component schema that a name or a reference means. -/
def schemaByName (d : Document) (reference : String) : Except LookupError Found := do
  let name := schemaName reference
  pure ⟨some name, ← component d name⟩

/-- The component that stands at a place or that the reference there points at. -/
def direct {α : Type} (kind : String) (table : List (String × RefOr α)) :
    RefOr α → Except LookupError α
  | .item component => .ok component
  | .ref path => do
    let name ← targetName kind path
    match (table.lookup name).bind RefOr.item? with
    | some component => pure component
    | none => throw (.notFound path)

/-- A parameter. -/
def parameter (d : Document) : RefOr Parameter → Except LookupError Parameter :=
  direct "parameters" d.tables.parameters

/-- A request body. -/
def requestBody (d : Document) : RefOr RequestBody → Except LookupError RequestBody :=
  direct "requestBodies" d.tables.requestBodies

/-- A response. -/
def response (d : Document) : RefOr Response → Except LookupError Response :=
  direct "responses" d.tables.responses

end Lookup

end ResourceInference
