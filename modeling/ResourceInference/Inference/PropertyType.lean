import ResourceInference.Inference.EnumSearch

/-!
# Types of schemas

Resolving a schema gives a type spec and registers the named types that it needs. Schemas contain
schemas, and references lead from one to another, so every function here takes the function
`resolve` for the schemas inside, and `resolver` ties the knot with a bound on the depth.

A component with properties is entered once: its token is marked before its properties are
resolved, so a component that contains itself comes back to the mark. The bound allows every
component to be entered while all others are open, and between two entries every component to be
passed once; only schemas that contain themselves without such a component in between exceed it.
-/

set_option autoImplicit false

namespace ResourceInference

/-- The function that gives schemas their types: in a scope, under a name for whatever has to be
registered. -/
abbrev Resolver := Scope → String → Lookup.Found → Infer Resolved

/-- Properties, and the SDK names of those that must be present. -/
structure Members where
  properties : PropertyMap := ∅
  required : SortedSet := ∅

namespace Members

/-- The members of one object, and over them those of another one. -/
def extend (m other : Members) : Members :=
  ⟨m.properties.union other.properties, m.required.union other.required⟩

/-- The object type with these members. -/
def toObject (m : Members) (description : Option String) : ObjectType :=
  ⟨description, m.properties, m.required.keys⟩

/-- The members of an object type. -/
def ofObject (o : ObjectType) : Members := ⟨o.properties, SortedSet.ofList o.required⟩

end Members

/-- A property of a type, with what its schema says of it. -/
def PropertySpec.ofSchema (type : TypeSpec) (schema : Schema) : PropertySpec :=
  ⟨type, schema.description, schema.scalarDefault?, schema.isSecret⟩

/-! ## Unions -/

namespace Union

/-- The last part of a token. -/
def tokenName (token : String) : String := ((Text.split ':' token).getLast?).getD token

/-- The token among `tokens` that a component is meant by: the one that ends with its type name,
or else the first one in which the type name occurs. -/
def branchToken? (tokens : List String) (reference : String) : Option String :=
  let typeName := Naming.pascalCase (Lookup.schemaName reference)
  match tokens.find? (tokenName · = typeName) with
  | some token => some token
  | none => tokens.find? fun token => Text.occursIn typeName.toList token.toList

/-- The discriminator of a union of variants; values without a variant are left out. -/
def discriminator (d : Discriminator) (variants : List TypeSpec) : UnionDiscriminator :=
  let tokens := variants.filterMap TypeSpec.token?
  ⟨Naming.sdkName d.propertyName,
    SortedMap.ofList (d.mapping.filterMap fun (value, reference) =>
      (branchToken? tokens reference).map fun token => (value, token))⟩

end Union

namespace Infer

/-- The schema that stands at a place or that the reference there leads to. -/
def find (task : InferenceTask) (schema : SchemaOrRef) : Infer Lookup.Found :=
  ofLookup (Lookup.schema task.document schema)

/-- Register a type that is made for a schema in place. A name that a different type has is
qualified by the resource. -/
def registerGenerated (task : InferenceTask) (scope : Scope) (name : String) (type : NamedType) :
    Infer Resolved := do
  let token := task.token scope.module name
  match ← type? token with
  | none =>
    let _ ← register token type
    pure ⟨.named token, true⟩
  | some existing =>
    if existing.same type then pure ⟨.named token, false⟩
    else
      let qualified := task.token scope.module (scope.resource ++ name)
      match ← type? qualified with
      | none =>
        let _ ← register qualified type
        pure ⟨.named qualified, true⟩
      | some existing =>
        if existing.same type then pure ⟨.named qualified, false⟩
        else throw (.typeConflict qualified)

/-- The object type that a part of an `allOf` was resolved to. A type that was registered for
this alone is dropped again. -/
def takeObject (resolved : Resolved) : Infer (Option ObjectType) := do
  match resolved.type.token? with
  | none => pure none
  | some token =>
    note (.merged token)
    let type ← type? token
    if resolved.isNew then removeType token
    pure (type.bind NamedType.object?)

section

variable (task : InferenceTask) (resolve : Resolver)

/-! ## Members of objects -/

/-- Add the members of one part of an `allOf`. -/
def mergePart (scope : Scope) (parent : String) (members : Members) (part : SchemaOrRef) :
    Infer Members := do
  let found ← find task part
  if found.name.isNone && !found.schema.isObjectLike then pure members
  else
    match ← takeObject (← resolve scope parent found) with
    | some object => pure (members.extend (.ofObject object))
    | none => pure members

/-- The members of all parts of an `allOf`; a later part prevails. -/
def mergedMembers (scope : Scope) (parent : String) (parts : List SchemaOrRef) : Infer Members :=
  parts.foldlM (mergePart task resolve scope parent) {}

/-- The type of a property: a map, if its schema describes one, and else the type that is named
after object and property. -/
def propertyTypeOf (scope : Scope) (mapName typeName : String) (found : Lookup.Found) :
    Infer TypeSpec := do
  match found.schema.mapValues? with
  | some values =>
    let valueType ← resolve scope mapName (← find task values)
    pure (.map valueType.type)
  | none =>
    let resolved ← resolve scope typeName found
    pure resolved.type

/-- Add a property of an object. -/
def addProperty (scope : Scope) (parent : String) (properties : PropertyMap)
    (entry : String × SchemaOrRef) : Infer PropertyMap := do
  let (wire, schema) := entry
  let found ← find task schema
  let sdk := Naming.sdkName wire
  recordName wire sdk
  let type ← propertyTypeOf task resolve scope sdk (parent ++ Naming.pascalCase wire) found
  pure (properties.insert sdk (.ofSchema type found.schema))

/-- Add the name of a property that must be present; names without a property are left out. -/
def addRequired (properties : PropertyMap) (required : SortedSet) (wire : String) :
    Infer SortedSet := do
  let sdk := Naming.sdkName wire
  if properties.contains sdk then
    recordName wire sdk
    pure (required.add sdk)
  else pure required

/-- The members of an object: its properties in the order of their names, and over them those of
its `allOf`. -/
def objectMembers (scope : Scope) (parent : String) (schema : Schema) : Infer Members := do
  let declared := (SortedMap.ofList schema.properties).toList
  let properties ← declared.foldlM (addProperty task resolve scope parent) ∅
  let merged ← mergedMembers task resolve scope parent schema.allOf
  let members := Members.extend ⟨properties, ∅⟩ merged
  let required ← schema.required.foldlM (addRequired members.properties) members.required
  note (.formed schema.required members.properties.keys)
  pure ⟨members.properties, required⟩

/-- The object type of a schema. -/
def objectType (scope : Scope) (name : String) (schema : Schema) : Infer NamedType := do
  let members ← objectMembers task resolve scope name schema
  pure (.object (members.toObject schema.description))

/-! ## Unions and scalars -/

/-- The types of a list of schemas. -/
def variantTypes (scope : Scope) (parent : String) (schemas : List SchemaOrRef) :
    Infer (List TypeSpec) :=
  schemas.mapM fun schema => do
    let resolved ← resolve scope parent (← find task schema)
    pure resolved.type

/-- The union of the `oneOf` of a schema. -/
def unionType (scope : Scope) (parent : String) (schema : Schema) : Infer Resolved := do
  let variants ← variantTypes task resolve scope parent schema.oneOf
  pure ⟨.union variants (schema.discriminator.map (Union.discriminator · variants)), false⟩

/-- The type of an object without members: a map, if its values have a schema. -/
def mapType (scope : Scope) (parent : String) (schema : Schema) : Infer TypeSpec := do
  match schema.additionalProperties with
  | some (.schema values) =>
    let resolved ← resolve scope parent (← find task values)
    pure (.map resolved.type)
  | _ => pure .any

/-- The type of an array. -/
def arrayType (scope : Scope) (parent : String) (schema : Schema) : Infer TypeSpec := do
  match schema.items with
  | some items =>
    let resolved ← resolve scope (parent ++ "Item") (← find task items)
    pure (.array resolved.type)
  | none => pure (.array .any)

/-- The type that the type keyword of a schema says. -/
def declaredType (scope : Scope) (parent : String) (schema : Schema) :
    SchemaType → Infer TypeSpec
  | .integer => pure (.primitive .integer)
  | .string => pure (.primitive .string)
  | .boolean => pure (.primitive .boolean)
  | .number => pure (.primitive .number)
  | .object => mapType task resolve scope parent schema
  | .array => arrayType task resolve scope parent schema
  | .null => throw (.unsupportedSchema parent schema)

/-- The type of a schema that needs no name of its own. -/
def unnamedType (scope : Scope) (parent : String) (schema : Schema) : Infer Resolved := do
  match schema.anyOf, schema.primaryType? with
  | first :: second :: rest, _ =>
    let variants ← variantTypes task resolve scope parent (first :: second :: rest)
    pure ⟨.union variants none, false⟩
  | _, some type =>
    let spec ← declaredType task resolve scope parent schema type
    pure ⟨spec, false⟩
  | [only], none => resolve scope parent (← find task only)
  | [], none => throw (.unsupportedSchema parent schema)

/-- The enum of a schema, if it has one. Under the tolerant policy an enum whose token is taken
counts as none. -/
def enumOrNone (scope : Scope) (parent : String) (schema : Schema) : Infer (Option Resolved) :=
  if schema.enum.isEmpty then pure none
  else tryCatch (enumType task scope parent schema) fun error =>
    match error, task.options.duplicateEnums with
    | .duplicateEnum _ _ _, .warn => pure none
    | error, _ => throw error

/-! ## Schemas -/

/-- The type of a schema that stands in place. -/
def inlineType (scope : Scope) (parent : String) (schema : Schema) : Infer Resolved := do
  if !schema.properties.isEmpty then
    let name := parent ++ "Properties"
    registerGenerated task scope name (← objectType task resolve scope name schema)
  else if !schema.oneOf.isEmpty then unionType task resolve scope parent schema
  else if !schema.allOf.isEmpty then
    let members ← mergedMembers task resolve scope parent schema.allOf
    registerGenerated task scope (Naming.pascalCase parent)
      (.object (members.toObject schema.description))
  else
    match ← enumOrNone task scope parent schema with
    | some resolved => pure resolved
    | none => unnamedType task resolve scope parent schema

/-- Register the type that was made for a component, unless it is registered already. -/
def registerComponent (token : String) (type : NamedType) : Infer Resolved := do
  match ← type? token with
  | none =>
    let _ ← register token type
    pure ⟨.named token, true⟩
  | some existing =>
    if existing.same type then pure ⟨.named token, false⟩ else throw (.typeConflict token)

/-- Make the type of a component and register it. -/
def buildComponent (scope : Scope) (name : String) (schema : Schema) : Infer Resolved := do
  let token := task.token scope.module name
  markVisited token
  note (.entered token)
  let resolved ← registerComponent token (← objectType task resolve scope name schema)
  note (.left token)
  pure resolved

/-- The type of a component with members. It is made once. -/
def enterComponent (scope : Scope) (component : String) (schema : Schema) : Infer Resolved := do
  let name := Naming.pascalCase component
  let token := task.token scope.module name
  note (.referred component token)
  if ← isVisited token then pure ⟨.named token, false⟩
  else buildComponent task resolve scope name schema

/-- The type of a component that is neither an array nor an enum. What is only a scalar, a map or
a union is not registered. -/
def componentType (scope : Scope) (parent component : String) (schema : Schema) :
    Infer Resolved :=
  let name := Naming.pascalCase component
  if schema.properties.isEmpty && schema.allOf.isEmpty then
    if !schema.oneOf.isEmpty then unionType task resolve scope name schema
    else if !schema.hasType .object || schema.hasValueSchema then
      unnamedType task resolve scope parent schema
    else enterComponent task resolve scope component schema
  else enterComponent task resolve scope component schema

/-- The type of a schema, given a function for the schemas inside. -/
def typeOf (scope : Scope) (parent : String) (found : Lookup.Found) : Infer Resolved :=
  match found.name with
  | some component =>
    if found.schema.hasType .array || !found.schema.enum.isEmpty then
      inlineType task resolve scope parent found.schema
    else componentType task resolve scope parent component found.schema
  | none => inlineType task resolve scope parent found.schema

end

/-! ## Recursion -/

/-- The type of a schema, down to a depth. -/
def resolver (task : InferenceTask) : Nat → Resolver
  | 0 => fun _ parent _ => throw (.endlessSchema parent)
  | depth + 1 => typeOf task (resolver task depth)

/-- The size of all component schemas. -/
def componentsSize (d : Document) : Nat := sizeOfFields d.tables.schemas

/-- How deep the schemas inside a schema can lie. -/
def depthBound (d : Document) (schema : Schema) : Nat :=
  (d.tables.schemas.length + 1) * (d.tables.schemas.length + 1) * (componentsSize d + 1) +
    schema.size + 1

/-- The type of a schema. Named types are named after `parent`. -/
def propertyType (task : InferenceTask) : Resolver := fun scope parent found =>
  resolver task (depthBound task.document found.schema) scope parent found

end Infer

end ResourceInference
