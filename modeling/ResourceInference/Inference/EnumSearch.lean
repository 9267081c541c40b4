import ResourceInference.Inference.Session

/-!
# Enums of schemas

An enum is registered under the token of its name. If an object has the token, the enum takes the
name with `Enum` behind it; if a different enum has it, the name with the resource in front; and
if the name starts with the resource already, the search fails. Names grow from try to try, so the
search comes to a free one when it has passed all that are taken.
-/

set_option autoImplicit false

namespace ResourceInference

/-- A type spec, and whether finding it registered the token that it is. -/
structure Resolved where
  type : TypeSpec
  isNew : Bool

namespace EnumSearch

/-! ## Members -/

/-- The text that a value is named after; null has none. -/
def literal? : Value → Option String
  | .string s => some s
  | .null => none
  | value => some (Json.compact value)

/-- The name of a member; no member has the name of the enum. -/
def memberName (enumName name : String) : String := if name = enumName then name ++ "_" else name

/-- The members of an enum of texts, one for each Pascal-case name that is not among `seen`. -/
def stringMembersFrom (enumName : String) (seen : List String) : List Value → List EnumMember
  | [] => []
  | value :: rest =>
    match (literal? value).map Naming.pascalCase with
    | none => stringMembersFrom enumName seen rest
    | some name =>
      if seen.contains name then stringMembersFrom enumName seen rest
      else ⟨memberName enumName name, value⟩ :: stringMembersFrom enumName (name :: seen) rest

/-- The members of an enum of texts: the first value for every Pascal-case name. -/
def stringMembers (enumName : String) (values : List Value) : List EnumMember :=
  stringMembersFrom enumName [] values

/-- Whether a value is null. -/
def isNull : Value → Bool
  | .null => true
  | _ => false

/-- The members of an enum of integers, named by their digits. -/
def integerMembers (values : List Value) : List EnumMember :=
  (values.filter fun value => !isNull value).map fun value => ⟨Json.compact value, value⟩

/-- The enum of a name that a schema describes, if enums are made for its type. -/
def ofSchema? (typeName : String) (schema : Schema) : Option EnumType :=
  match schema.primaryType? with
  | some .string =>
    some ⟨schema.description, .string, stringMembers typeName schema.enum⟩
  | some .integer => some ⟨schema.description, .integer, integerMembers schema.enum⟩
  | _ => none

/-! ## Search -/

/-- Whether a name starts with another one. -/
def startsWith (start name : String) : Bool := start.toList.isPrefixOf name.toList

/-- Find or register the enum of a schema under a name, trying at most `bound` names. -/
def search (task : InferenceTask) (scope : Scope) (schema : Schema) (name : String) :
    Nat → Infer (Option Resolved)
  | 0 => throw (.endlessEnum name)
  | bound + 1 => do
    let typeName := Naming.pascalCase name
    match ofSchema? typeName schema with
    | none => pure none
    | some candidate =>
      let token := task.token scope.module typeName
      match ← Infer.type? token with
      | none =>
        let _ ← Infer.register token (.enum candidate)
        pure (some ⟨.named token, true⟩)
      | some (.object _) => search task scope schema (name ++ "Enum") bound
      | some (.enum existing) =>
        if existing.sameMembers candidate then pure (some ⟨.named token, false⟩)
        else if startsWith scope.resource typeName then
          throw (.duplicateEnum token candidate.members existing.members)
        else search task scope schema (scope.resource ++ name) bound

end EnumSearch

namespace Infer

/-- How many types are registered. -/
def typeCount : Infer Nat := return (← get).package.types.toList.length

/-- Find or register the enum of a schema under a name. There is none if enums are not made for
the type of the schema. -/
def enumType (task : InferenceTask) (scope : Scope) (name : String) (schema : Schema) :
    Infer (Option Resolved) := do
  EnumSearch.search task scope schema name (2 * (← typeCount) + 2)

end Infer

end ResourceInference
