import ResourceInference.OpenApi.Method
import ResourceInference.OpenApi.Schema

/-!
# Documents

An interface description: paths with their operations, and tables of components that references
point into. Only what inference reads is kept.
-/

set_option autoImplicit false

namespace ResourceInference

/-- Where a parameter is passed. -/
inductive ParameterLocation where
  | query
  | header
  | path
  | cookie
  deriving DecidableEq, Repr

namespace ParameterLocation

/-- All locations. -/
def all : List ParameterLocation := [query, header, path, cookie]

/-- A location as it is written. -/
def name : ParameterLocation → String
  | query => "query"
  | header => "header"
  | path => "path"
  | cookie => "cookie"

/-- The location that is written so. -/
def ofName? (name : String) : Option ParameterLocation := all.find? (·.name = name)

end ParameterLocation

/-- A parameter of an operation or of a path. -/
structure Parameter where
  name : String
  location : ParameterLocation
  description : Option String := none
  required : Bool := false
  schema : Option SchemaOrRef := none

/-- Whether the parameter is a variable of the path. -/
def Parameter.isPath (p : Parameter) : Bool := p.location = .path

/-- The content of a body in one media type. -/
structure MediaType where
  schema : Option SchemaOrRef := none

/-- The media type that bodies are read from. -/
def jsonMediaType : String := "application/json"

/-- The schema of JSON content. -/
def jsonSchema? (content : List (String × MediaType)) : Option SchemaOrRef :=
  (content.lookup jsonMediaType).bind (·.schema)

/-- What is sent with a request. -/
structure RequestBody where
  description : Option String := none
  content : List (String × MediaType) := []

/-- What is answered under a status code. -/
structure Response where
  description : String := ""
  content : List (String × MediaType) := []

/-- What a path does under a method. -/
structure Operation where
  operationId : Option String := none
  summary : Option String := none
  description : Option String := none
  parameters : List (RefOr Parameter) := []
  requestBody : Option (RefOr RequestBody) := none
  responses : List (String × RefOr Response) := []

/-- A path: parameters of all its operations, and an operation for each method it answers. -/
structure PathItem where
  summary : Option String := none
  description : Option String := none
  parameters : List (RefOr Parameter) := []
  get : Option Operation := none
  post : Option Operation := none
  put : Option Operation := none
  delete : Option Operation := none
  patch : Option Operation := none

namespace PathItem

/-- The operation under a method. -/
def operation? (item : PathItem) : Method → Option Operation
  | .get => item.get
  | .post => item.post
  | .put => item.put
  | .patch => item.patch
  | .delete => item.delete

/-- The item with another operation, or none, under a method. -/
def setOperation (item : PathItem) (method : Method) (operation : Option Operation) : PathItem :=
  match method with
  | .get => { item with get := operation }
  | .post => { item with post := operation }
  | .put => { item with put := operation }
  | .patch => { item with patch := operation }
  | .delete => { item with delete := operation }

/-- The methods that the path answers, in listing order. -/
def methods (item : PathItem) : List Method :=
  Method.all.filter fun method => (item.operation? method).isSome

/-- Whether the path answers any method. -/
def hasOperations (item : PathItem) : Bool := !item.methods.isEmpty

end PathItem

/-- What a document says of itself. -/
structure Info where
  title : String
  description : Option String := none
  version : String

/-- The tables that references point into. -/
structure Components where
  schemas : List (String × SchemaOrRef) := []
  parameters : List (String × RefOr Parameter) := []
  requestBodies : List (String × RefOr RequestBody) := []
  responses : List (String × RefOr Response) := []

/-- An interface description. -/
structure Document where
  openapi : String
  info : Info
  paths : List (String × PathItem) := []
  components : Option Components := none

namespace Document

/-- The component tables, empty ones if there are none. -/
def tables (d : Document) : Components := d.components.getD {}

/-- The component schema of a name. -/
def schema? (d : Document) (name : String) : Option SchemaOrRef := d.tables.schemas.lookup name

end Document

end ResourceInference
