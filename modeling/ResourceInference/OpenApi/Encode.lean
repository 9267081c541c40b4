import ResourceInference.OpenApi.Document

/-!
# Documents as data

The written form of every part of a document. Absent options and empty lists and maps are left
out, but for a few keys that are always written.
-/

set_option autoImplicit false

namespace ResourceInference

/-- The names of types as data. -/
def TypeSet.encode : TypeSet → Value
  | .single type => .string type.name
  | .several types => Value.strings (types.map SchemaType.name)

/-- A reference as data. -/
def encodeReference (path : String) : Value := .object [("$ref", .string path)]

/-- A discriminator as data. -/
def Discriminator.encode (d : Discriminator) : Value :=
  .record [
    Value.entry "propertyName" (.string d.propertyName),
    Value.entryUnless d.mapping.isEmpty "mapping"
      (.object (d.mapping.map fun (value, target) => (value, .string target)))]

mutual

/-- A schema as data: the known keywords in a fixed order, then the extensions. -/
def Schema.encode : Schema → Value
  | ⟨type, format, title, description, default, properties, required, additional, items, allOf,
      oneOf, anyOf, discriminator, enum, readOnly, writeOnly, extensions⟩ =>
    .object ([
      Value.entry? "type" TypeSet.encode type,
      Value.entry? "format" Value.string format,
      Value.entry? "title" Value.string title,
      Value.entry? "description" Value.string description,
      Value.entry? "default" id default,
      Value.entryUnless properties.isEmpty "properties" (.object (encodeSchemaFields properties)),
      Value.entryUnless required.isEmpty "required" (Value.strings required),
      encodeAdditional additional,
      encodeItems items,
      Value.entryUnless allOf.isEmpty "allOf" (.list (encodeSchemas allOf)),
      Value.entryUnless oneOf.isEmpty "oneOf" (.list (encodeSchemas oneOf)),
      Value.entryUnless anyOf.isEmpty "anyOf" (.list (encodeSchemas anyOf)),
      Value.entry? "discriminator" Discriminator.encode discriminator,
      Value.entryUnless enum.isEmpty "enum" (.list enum),
      Value.entry "readOnly" (.bool readOnly),
      Value.entry "writeOnly" (.bool writeOnly)].filterMap id ++ extensions)

/-- A schema or a reference as data. -/
def encodeSchemaOrRef : RefOr Schema → Value
  | .ref path => encodeReference path
  | .item schema => schema.encode

/-- Schemas of properties as entries. -/
def encodeSchemaFields : List (String × RefOr Schema) → List (String × Value)
  | [] => []
  | (name, schema) :: rest => (name, encodeSchemaOrRef schema) :: encodeSchemaFields rest

/-- Schemas of a list as items. -/
def encodeSchemas : List (RefOr Schema) → List Value
  | [] => []
  | schema :: rest => encodeSchemaOrRef schema :: encodeSchemas rest

/-- The entry for the items of an array. -/
def encodeItems : Option (RefOr Schema) → Option (String × Value)
  | none => none
  | some schema => some ("items", encodeSchemaOrRef schema)

/-- The entry for properties that are not declared. -/
def encodeAdditional : Option (AdditionalProperties Schema) → Option (String × Value)
  | none => none
  | some (.allowed b) => some ("additionalProperties", .bool b)
  | some (.schema schema) => some ("additionalProperties", encodeSchemaOrRef schema)

end

/-- A component or a reference as data. -/
def RefOr.encode {α : Type} (encodeItem : α → Value) : RefOr α → Value
  | .ref path => encodeReference path
  | .item component => encodeItem component

/-- The entries of a map of a document as an object, in document order. -/
def encodeTable {α : Type} (encodeValue : α → Value) (table : List (String × α)) : Value :=
  .object (table.map fun (key, value) => (key, encodeValue value))

/-- A map of a document as an entry, unless it is empty. -/
def tableEntry {α : Type} (key : String) (encodeValue : α → Value)
    (table : List (String × α)) : Option (String × Value) :=
  Value.entryUnless table.isEmpty key (encodeTable encodeValue table)

/-- A list of a document as an entry, unless it is empty. -/
def listEntry {α : Type} (key : String) (encodeItem : α → Value) (items : List α) :
    Option (String × Value) :=
  Value.entryUnless items.isEmpty key (.list (items.map encodeItem))

/-- A parameter as data. -/
def Parameter.encode (p : Parameter) : Value :=
  .record [
    Value.entry "name" (.string p.name),
    Value.entry "in" (.string p.location.name),
    Value.entry? "description" Value.string p.description,
    Value.entry "required" (.bool p.required),
    Value.entry? "schema" encodeSchemaOrRef p.schema]

/-- Content as data. -/
def MediaType.encode (m : MediaType) : Value :=
  .record [Value.entry? "schema" encodeSchemaOrRef m.schema]

/-- A request body as data; the content is always written. -/
def RequestBody.encode (b : RequestBody) : Value :=
  .record [
    Value.entry? "description" Value.string b.description,
    Value.entry "content" (encodeTable MediaType.encode b.content)]

/-- A response as data; the description is always written. -/
def Response.encode (r : Response) : Value :=
  .record [
    Value.entry "description" (.string r.description),
    tableEntry "content" MediaType.encode r.content]

/-- An operation as data. -/
def Operation.encode (o : Operation) : Value :=
  .record [
    Value.entry? "operationId" Value.string o.operationId,
    Value.entry? "summary" Value.string o.summary,
    Value.entry? "description" Value.string o.description,
    listEntry "parameters" (RefOr.encode Parameter.encode) o.parameters,
    Value.entry? "requestBody" (RefOr.encode RequestBody.encode) o.requestBody,
    tableEntry "responses" (RefOr.encode Response.encode) o.responses]

/-- A path item as data. -/
def PathItem.encode (item : PathItem) : Value :=
  .record [
    Value.entry? "summary" Value.string item.summary,
    Value.entry? "description" Value.string item.description,
    listEntry "parameters" (RefOr.encode Parameter.encode) item.parameters,
    Value.entry? "get" Operation.encode item.get,
    Value.entry? "post" Operation.encode item.post,
    Value.entry? "put" Operation.encode item.put,
    Value.entry? "delete" Operation.encode item.delete,
    Value.entry? "patch" Operation.encode item.patch]

/-- The description of a document as data. -/
def Info.encode (i : Info) : Value :=
  .record [
    Value.entry "title" (.string i.title),
    Value.entry? "description" Value.string i.description,
    Value.entry "version" (.string i.version)]

/-- The component tables as data. -/
def Components.encode (c : Components) : Value :=
  .record [
    tableEntry "schemas" encodeSchemaOrRef c.schemas,
    tableEntry "parameters" (RefOr.encode Parameter.encode) c.parameters,
    tableEntry "requestBodies" (RefOr.encode RequestBody.encode) c.requestBodies,
    tableEntry "responses" (RefOr.encode Response.encode) c.responses]

/-- A document as data. -/
def Document.encode (d : Document) : Value :=
  .record [
    Value.entry "openapi" (.string d.openapi),
    Value.entry "info" d.info.encode,
    tableEntry "paths" PathItem.encode d.paths,
    Value.entry? "components" Components.encode d.components]

end ResourceInference
