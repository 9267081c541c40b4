import ResourceInference.Provider.ObjectType

/-!
# Resources, functions and the package

What inference produces: resources, functions and the table of named types, all under tokens.
-/

set_option autoImplicit false

namespace ResourceInference

/-- A thing that can be created: what it shows and what can be set on it. -/
structure ResourceSpec where
  description : Option String := none
  properties : PropertyMap := ∅
  required : List String := []
  inputProperties : PropertyMap := ∅
  requiredInputs : List String := []

/-- A resource as data. The two property maps are always written. -/
def ResourceSpec.encode (r : ResourceSpec) : Value :=
  .record [
    Value.entry? "description" Value.string r.description,
    Value.entry "properties" (r.properties.encode PropertySpec.encode),
    Value.entryUnless r.required.isEmpty "required" (Value.strings r.required),
    Value.entry "inputProperties" (r.inputProperties.encode PropertySpec.encode),
    Value.entryUnless r.requiredInputs.isEmpty "requiredInputs" (Value.strings r.requiredInputs)]

/-- What a function returns. -/
inductive ReturnType where
  | spec (type : TypeSpec)
  | object (type : ObjectType)

/-- A result as data. -/
def ReturnType.encode : ReturnType → Value
  | .spec type => .object [("typeSpec", type.encode)]
  | .object type => .object [("objectTypeSpec", type.encode)]

/-- A query that changes nothing. A function without a result answers with no body. -/
structure FunctionSpec where
  description : Option String := none
  inputs : Option ObjectType := none
  result : Option ReturnType := none

/-- A function as data. -/
def FunctionSpec.encode (f : FunctionSpec) : Value :=
  .record [
    Value.entry? "description" Value.string f.description,
    Value.entry? "inputs" ObjectType.encode f.inputs,
    Value.entry? "returnType" ReturnType.encode f.result]

/-- The package of a provider. -/
structure Package where
  name : String
  resources : SortedMap ResourceSpec := ∅
  types : SortedMap NamedType := ∅
  functions : SortedMap FunctionSpec := ∅

/-- A package as data. -/
def Package.encode (p : Package) : Value :=
  .object [
    ("name", .string p.name),
    ("resources", p.resources.encode ResourceSpec.encode),
    ("types", p.types.encode NamedType.encode),
    ("functions", p.functions.encode FunctionSpec.encode)]

end ResourceInference
