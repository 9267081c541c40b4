import ResourceInference.Data.Decode
import ResourceInference.OpenApi.Document

/-!
# Documents from trees

Unknown keys are ignored, except in a schema, where they become extensions. An object whose
`$ref` is a text is a reference, whatever else it holds. What is a reference or a component is
told apart by the types of its scalars, and so is everything inside it.
-/

set_option autoImplicit false

namespace ResourceInference

open Decode

/-! ## References -/

/-- The target of a mapping that is a reference. -/
def referenceTarget? (entries : List (Node × Node)) : Option String :=
  match declaredFields .typed ["$ref"] entries with
  | .ok [(_, node)] => (text .typed node).toOption
  | _ => none

/-- A reference, or else a component. -/
def RefOr.decode {α : Type} (decodeItem : Node → Result α) : Node → Result (RefOr α)
  | .mapping entries =>
    match referenceTarget? entries with
    | some path => .ok (.ref path)
    | none => .item <$> decodeItem (.mapping entries)
  | node => .item <$> decodeItem node

/-! ## Schemas -/

/-- One type keyword. -/
def SchemaType.decode (node : Node) : Result SchemaType := do
  match SchemaType.ofName? (← keyword .typed (SchemaType.all.map SchemaType.name) node) with
  | some type => pure type
  | none => throw .shape

/-- A type keyword, or a list of them. -/
def TypeSet.decode (node : Node) : Result TypeSet :=
  match SchemaType.decode node with
  | .ok type => .ok (.single type)
  | .error _ => .several <$> Decode.list .typed SchemaType.decode node

/-- A discriminator. -/
def Discriminator.decode (reading : Reading) (node : Node) : Result Discriminator := do
  let f ← fields reading ["propertyName", "mapping"] node
  let d : Discriminator := {
    propertyName := ← f.required "propertyName" (text reading)
    mapping := ← f.withDefault "mapping" (Decode.mapping reading (text reading)) [] }
  f.close reading
  pure d

/-- The keywords of a schema that inference reads. -/
def Schema.keywords : List String :=
  ["type", "format", "title", "description", "default", "properties", "required",
    "additionalProperties", "items", "allOf", "oneOf", "anyOf", "discriminator", "enum",
    "readOnly", "writeOnly"]

/-- A schema with one more keyword that holds no schemas. -/
def Schema.setKeyword (s : Schema) (reading : Reading) (name : String) (node : Node) :
    Result Schema := do
  match name with
  | "type" => pure { s with type := ← optional TypeSet.decode node }
  | "format" => pure { s with format := ← optional (text reading) node }
  | "title" => pure { s with title := ← optional (text reading) node }
  | "description" => pure { s with description := ← optional (text reading) node }
  | "default" => pure { s with default := ← optional (value reading) node }
  | "required" => pure { s with required := ← Decode.list reading (text reading) node }
  | "discriminator" =>
    pure { s with discriminator := ← optional (Discriminator.decode reading) node }
  | "enum" => pure { s with enum := ← Decode.list reading (value reading) node }
  | "readOnly" => pure { s with readOnly := ← bool node }
  | "writeOnly" => pure { s with writeOnly := ← bool node }
  | _ =>
    pure { s with extensions := putEntry name (← value .typed node) s.extensions }

mutual

/-- A reference to a schema, or a schema, all scalars by their own types. -/
def decodeSchemaOrRef : Node → Result SchemaOrRef
  | .mapping entries =>
    match referenceTarget? entries with
    | some path => .ok (.ref path)
    | none => .item <$> decodeKeywords .typed [] {} entries
  | .tagged tag node => if isLocalTag tag then .error .shape else decodeSchemaOrRef node
  | _ => .error .shape

/-- A schema with the keywords of a mapping added. No known keyword may come twice; `seen` are
the keys so far. -/
def decodeKeywords (reading : Reading) (seen : List String) (s : Schema) :
    List (Node × Node) → Result Schema
  | [] => .ok s
  | (key, node) :: rest => do
    let name ← text reading key
    if seen.contains name && Schema.keywords.contains name then throw .shape
    let s ← match name with
      | "properties" => pure { s with properties := ← decodeSchemaMap reading node }
      | "additionalProperties" =>
        if isAbsent node then pure { s with additionalProperties := none }
        else match bool node with
          | .ok b => pure { s with additionalProperties := some (.allowed b) }
          | .error _ =>
            let schema ← decodeSchemaOrRef node
            pure { s with additionalProperties := some (.schema schema) }
      | "items" =>
        if isAbsent node then pure { s with items := none }
        else
          let schema ← decodeSchemaOrRef node
          pure { s with items := some schema }
      | "allOf" => pure { s with allOf := ← decodeSchemaList reading node }
      | "oneOf" => pure { s with oneOf := ← decodeSchemaList reading node }
      | "anyOf" => pure { s with anyOf := ← decodeSchemaList reading node }
      | _ => s.setKeyword reading name node
    decodeKeywords reading (name :: seen) s rest

/-- A map of schemas. -/
def decodeSchemaMap (reading : Reading) : Node → Result (List (String × SchemaOrRef))
  | .mapping entries => decodeSchemaEntries reading [] entries
  | .plain s => if reading = .yaml ∧ s.isEmpty then .ok [] else .error .shape
  | .tagged tag node =>
    if reading ≠ .yaml ∧ isLocalTag tag then .error .shape else decodeSchemaMap reading node
  | _ => .error .shape

/-- The entries of a map of schemas, put into `done` by key. -/
def decodeSchemaEntries (reading : Reading) (done : List (String × SchemaOrRef)) :
    List (Node × Node) → Result (List (String × SchemaOrRef))
  | [] => .ok done
  | (key, node) :: rest => do
    let name ← text reading key
    let schema ← decodeSchemaOrRef node
    decodeSchemaEntries reading (putEntry name schema done) rest

/-- A list of schemas. -/
def decodeSchemaList (reading : Reading) : Node → Result (List SchemaOrRef)
  | .list nodes => decodeSchemaItems nodes
  | .plain s => if reading = .yaml ∧ s.isEmpty then .ok [] else .error .shape
  | .tagged tag node =>
    if reading ≠ .yaml ∧ isLocalTag tag then .error .shape else decodeSchemaList reading node
  | _ => .error .shape

/-- The items of a list of schemas. -/
def decodeSchemaItems : List Node → Result (List SchemaOrRef)
  | [] => .ok []
  | node :: rest => do
    let schema ← decodeSchemaOrRef node
    pure (schema :: (← decodeSchemaItems rest))

end

/-- A schema that is no reference. -/
def Schema.decode (reading : Reading) (node : Node) : Result Schema := do
  decodeKeywords reading [] {} (← pairs reading node)

/-! ## Parameters and bodies -/

/-- A location. -/
def ParameterLocation.decode (node : Node) : Result ParameterLocation := do
  let words := ParameterLocation.all.map ParameterLocation.name
  match ParameterLocation.ofName? (← keyword .typed words node) with
  | some location => pure location
  | none => throw .shape

/-- A parameter. -/
def Parameter.decode (node : Node) : Result Parameter := do
  let f ← fields .typed ["name", "in", "description", "required", "schema"] node
  let p : Parameter := {
    name := ← f.required "name" (text .typed)
    location := ← f.required "in" ParameterLocation.decode
    description := ← f.optional "description" (text .typed)
    required := ← f.withDefault "required" bool false
    schema := ← f.optional "schema" decodeSchemaOrRef }
  f.close .typed
  pure p

/-- Content in one media type. -/
def MediaType.decode (node : Node) : Result MediaType := do
  let f ← fields .typed ["schema"] node
  let m : MediaType := { schema := ← f.optional "schema" decodeSchemaOrRef }
  f.close .typed
  pure m

/-- Content by media type. -/
def decodeContent (node : Node) : Result (List (String × MediaType)) :=
  Decode.mapping .typed MediaType.decode node

/-- A request body. -/
def RequestBody.decode (node : Node) : Result RequestBody := do
  let f ← fields .typed ["description", "content"] node
  let b : RequestBody := {
    description := ← f.optional "description" (text .typed)
    content := ← f.withDefault "content" decodeContent [] }
  f.close .typed
  pure b

/-- A response. -/
def Response.decode (node : Node) : Result Response := do
  let f ← fields .typed ["description", "content"] node
  let r : Response := {
    description := ← f.withDefault "description" (text .typed) ""
    content := ← f.withDefault "content" decodeContent [] }
  f.close .typed
  pure r

/-! ## Paths -/

/-- A list of parameters, each of them in place or by reference. -/
def decodeParameters (reading : Reading) (node : Node) : Result (List (RefOr Parameter)) :=
  Decode.list reading (RefOr.decode Parameter.decode) node

/-- An operation. -/
def Operation.decode (reading : Reading) (node : Node) : Result Operation := do
  let f ← fields reading
    ["operationId", "summary", "description", "parameters", "requestBody", "responses"] node
  let o : Operation := {
    operationId := ← f.optional "operationId" (text reading)
    summary := ← f.optional "summary" (text reading)
    description := ← f.optional "description" (text reading)
    parameters := ← f.withDefault "parameters" (decodeParameters reading) []
    requestBody := ← f.optional "requestBody" (RefOr.decode RequestBody.decode)
    responses := ← f.withDefault "responses"
      (Decode.mapping reading (RefOr.decode Response.decode)) [] }
  f.close reading
  pure o

/-- A path item. -/
def PathItem.decode (reading : Reading) (node : Node) : Result PathItem := do
  let f ← fields reading
    ["summary", "description", "parameters", "get", "post", "put", "delete", "patch"] node
  let item : PathItem := {
    summary := ← f.optional "summary" (text reading)
    description := ← f.optional "description" (text reading)
    parameters := ← f.withDefault "parameters" (decodeParameters reading) []
    get := ← f.optional "get" (Operation.decode reading)
    post := ← f.optional "post" (Operation.decode reading)
    put := ← f.optional "put" (Operation.decode reading)
    delete := ← f.optional "delete" (Operation.decode reading)
    patch := ← f.optional "patch" (Operation.decode reading) }
  f.close reading
  pure item

/-! ## Documents -/

/-- What a document says of itself. -/
def Info.decode (reading : Reading) (node : Node) : Result Info := do
  let f ← fields reading ["title", "description", "version"] node
  let i : Info := {
    title := ← f.required "title" (text reading)
    description := ← f.optional "description" (text reading)
    version := ← f.required "version" (text reading) }
  f.close reading
  pure i

/-- The component tables. -/
def Components.decode (reading : Reading) (node : Node) : Result Components := do
  let f ← fields reading ["schemas", "parameters", "requestBodies", "responses"] node
  let c : Components := {
    schemas := ← f.withDefault "schemas" (Decode.mapping reading decodeSchemaOrRef) []
    parameters := ← f.withDefault "parameters"
      (Decode.mapping reading (RefOr.decode Parameter.decode)) []
    requestBodies := ← f.withDefault "requestBodies"
      (Decode.mapping reading (RefOr.decode RequestBody.decode)) []
    responses := ← f.withDefault "responses"
      (Decode.mapping reading (RefOr.decode Response.decode)) [] }
  f.close reading
  pure c

/-- A document. -/
def Document.decode (reading : Reading) (node : Node) : Result Document := do
  let f ← fields reading ["openapi", "info", "paths", "components"] node
  let d : Document := {
    openapi := ← f.required "openapi" (text reading)
    info := ← f.required "info" (Info.decode reading)
    paths := ← f.withDefault "paths" (Decode.mapping reading (PathItem.decode reading)) []
    components := ← f.optional "components" (Components.decode reading) }
  f.close reading
  pure d

end ResourceInference
