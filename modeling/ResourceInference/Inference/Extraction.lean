import ResourceInference.Inference.Function
import ResourceInference.OpenApi.PathTemplate

/-!
# Extraction

From a document to a package and its tables. Paths are taken in ascending order, so the result
does not depend on their order in the document; each path is normalised, and its operations fill
the slots of resources: reads first, then changes, creation last. Excluded operations count as if
they were not there. The first error ends the extraction, and nothing comes of it.
-/

set_option autoImplicit false

namespace ResourceInference

/-- What comes of a document. -/
structure Extraction where
  package : Package
  metadata : Metadata

/-- An extraction as data. -/
def Extraction.encode (e : Extraction) : Value :=
  .object [("schema", e.package.encode), ("metadata", e.metadata.encode)]

/-- What a session has come to. -/
def Session.finish (s : Session) : Extraction := ⟨s.package, s.metadata⟩

/-- A path whose operations are extracted: the normalised path, the path in the document, the
module, and what is left of the item. -/
structure PathContext where
  path : String
  documentPath : String
  module : String
  item : PathItem

/-- The status codes under which the response of a creation is looked for, in this order. -/
def createdStatuses : List String := ["200", "201", "202"]

/-- The components that a schema with alternatives refers to. -/
def branchNames (schema : Schema) : List String :=
  let mapped := (schema.discriminator.map fun d => d.mapping.map (·.2)).getD []
  let referenced := (schema.oneOf ++ schema.anyOf).filterMap fun
    | .ref path => some path
    | .item _ => none
  (SortedSet.ofList ((mapped ++ referenced).map Lookup.schemaName)).keys

/-- The alternatives of a schema by the values of its discriminator. -/
def discriminatorMapping (schema : Schema) : List (String × String) :=
  (schema.discriminator.map (·.mapping)).getD []

/-- A request body with alternatives as one whose parts are all of them. -/
def mergeAlternatives (request : Schema) : Schema :=
  { request with oneOf := [], allOf := request.allOf ++ request.oneOf }

/-- A path item without its excluded operations. -/
def withoutExcluded (exclusions : ExclusionList) (path : String) (item : PathItem) : PathItem :=
  Method.all.foldl (fun item method =>
    if exclusions.excludes method.name path then item.setOperation method none else item) item

namespace Infer

section

variable (task : InferenceTask)

/-! ## Names of operations -/

/-- The title of an operation. -/
def operationTitle (operationId : String) (method : Method) : String :=
  Naming.resourceTitle operationId method task.options.namespaceSeparator

/-- The title of an operation in the singular. -/
def singularTitle (operationId : String) (method : Method) : String :=
  Naming.singular (operationTitle task operationId method) task.options.allowedPlurals

/-- The id of an operation. -/
def operationId (method : Method) (path : String) (operation : Operation) : Infer String :=
  match operation.operationId with
  | some id => if id.isEmpty then throw (.missingOperationId method path) else pure id
  | none => throw (.missingOperationId method path)

/-! ## Bodies -/

/-- The JSON schema of the request body. -/
def requestSchema? (operation : Operation) : Infer (Option Lookup.Found) := do
  match operation.requestBody with
  | none => pure none
  | some body =>
    let body ← ofLookup (Lookup.requestBody task.document body)
    match jsonSchema? body.content with
    | some schema => some <$> find task schema
    | none => pure none

/-- The JSON schema of the request body, which must be there. -/
def requestSchema (method : Method) (path : String) (operation : Operation) :
    Infer Lookup.Found := do
  match ← requestSchema? task operation with
  | some found => pure found
  | none => throw (.missingRequestSchema method path)

/-- The JSON content of the response under a status code. -/
def responseContent? (operation : Operation) (status : String) : Infer (Option MediaType) := do
  match operation.responses.lookup status with
  | none => pure none
  | some response =>
    let response ← ofLookup (Lookup.response task.document response)
    pure (response.content.lookup jsonMediaType)

/-- The schema that an operation returns under `200`. JSON content has to have a schema. -/
def returnedSchema? (path : String) (operation : Operation) : Infer (Option Lookup.Found) := do
  match ← responseContent? task operation "200" with
  | none => pure none
  | some media =>
    match media.schema with
    | some schema => some <$> find task schema
    | none => throw (.missingResponseSchema path)

/-- The schema of the first response to a creation that is there. -/
def createdSchema? (operation : Operation) : Infer (Option Lookup.Found) := do
  match createdStatuses.find? fun status => (operation.responses.lookup status).isSome with
  | none => pure none
  | some status =>
    match (← responseContent? task operation status).bind (·.schema) with
    | some schema => some <$> find task schema
    | none => pure none

/-- The component that a discriminator points at. -/
def discriminatorTarget (path reference : String) : Infer Lookup.Found :=
  match Lookup.schemaByName task.document reference with
  | .ok found => pure found
  | .error (.notFound _) =>
    throw (.discriminatorTargetNotFound (Lookup.schemaName reference) path)
  | .error e => throw (.lookup e)

variable (ctx : PathContext)

/-! ## Reading -/

/-- Put a function that reads the path. -/
def addReadFunction (name : String) (function : FunctionSpec) : Infer Unit := do
  let token := task.token ctx.module name
  seat token .read ctx.path
  putFunction token function

/-- The function of a read without a schema. -/
def extractAction (operation : Operation) (id : String) : Infer Unit := do
  let title := singularTitle task id .get
  let name := "get" ++ title
  let function ← getFunction task ⟨ctx.module, title⟩ ctx.item operation name none
  addReadFunction task ctx name function

/-- The function of a read that lists. -/
def extractList (operation : Operation) (id : String) (returns : Lookup.Found) :
    Infer Unit := do
  let title := operationTitle task id .get
  let name := "list" ++ title
  let resource := Naming.singular title task.options.allowedPlurals
  let function ← listFunction task ⟨ctx.module, resource⟩ ctx.item operation name returns
  addReadFunction task ctx name function

/-- The read of one resource, and its function. -/
def extractRead (operation : Operation) (title : String) (returns : Lookup.Found) :
    Infer Unit := do
  seat (task.token ctx.module title) .read ctx.path
  let name := "get" ++ title
  let function ← getFunction task ⟨ctx.module, title⟩ ctx.item operation name (some returns)
  addReadFunction task ctx name function

/-- The read of the resource that a discriminator points at. -/
def extractBranchRead (operation : Operation) (reference : String) : Infer Unit := do
  let branch ← discriminatorTarget task ctx.path reference
  let title := Naming.schemaTitle (Lookup.schemaName reference) branch.schema.title
  extractRead task ctx operation title branch

/-- An operation that reads. -/
def extractGet (operation : Operation) : Infer Unit := do
  let id ← operationId .get ctx.path operation
  match ← returnedSchema? task ctx.path operation with
  | none => extractAction task ctx operation id
  | some returns =>
    if returns.schema.hasType .array || Naming.mentionsList id then
      extractList task ctx operation id returns
    else
      match discriminatorMapping returns.schema with
      | [] => extractRead task ctx operation (singularTitle task id .get) returns
      | mapping => mapping.forM fun entry => extractBranchRead task ctx operation entry.2

/-! ## Changing -/

/-- Fill a slot of the resource of a component. -/
def seatBranch (slot : CrudSlot) (name : String) : Infer Unit := do
  let branch ← discriminatorTarget task ctx.path name
  let title := Naming.schemaTitle name branch.schema.title
  seat (task.token ctx.module title) slot ctx.path

/-- An operation that changes what is sent: it fills the slot of every alternative of the request
body, or of the resource that it is named after. -/
def extractChange (method : Method) (slot : CrudSlot) (operation : Operation) : Infer Unit := do
  let id ← operationId method ctx.path operation
  let request ← requestSchema task method ctx.path operation
  match branchNames request.schema with
  | [] => seat (task.token ctx.module (singularTitle task id method)) slot ctx.path
  | names => names.forM (seatBranch task ctx slot)

/-- An operation that deletes. -/
def extractDelete (operation : Operation) : Infer Unit := do
  if operation.requestBody.isSome then extractChange task ctx .delete .delete operation
  else
    let id ← operationId .delete ctx.path operation
    seat (task.token ctx.module (singularTitle task id .delete)) .delete ctx.path

/-! ## Creating -/

/-- Whether a PUT on the path creates: its last segment is no variable, and the path around it has
no POST of its own. -/
def putCreates : Bool :=
  match Text.cutAtLast? '/' ctx.documentPath with
  | none => false
  | some (parent, last) =>
    !Naming.isVariableSegment last &&
      !((task.document.paths.lookup parent).any fun item =>
        item.post.isSome && !task.options.exclusions.excludes Method.post.name parent)

/-- The operation that creates, with its method. -/
def creator? : Option (Method × Operation) :=
  match ctx.item.post, ctx.item.put with
  | some operation, _ => some (.post, operation)
  | none, some operation => if putCreates task ctx then some (.put, operation) else none
  | none, none => none

/-- The response for one value of a discriminator: an alternative of its own, if the response has
a discriminator with the value too. -/
def branchAnswer (response : Option Schema) (value : String) : Infer (Option Schema) :=
  match response.bind fun r => (discriminatorMapping r).lookup value with
  | some reference => do
    let found ← discriminatorTarget task ctx.path reference
    pure (some found.schema)
  | none => pure response

/-- The resource of one value of a discriminator. -/
def createBranch (response : Option Schema) (entry : String × String) : Infer String := do
  let (value, reference) := entry
  let branch ← discriminatorTarget task ctx.path reference
  let branchResponse ← branchAnswer task ctx response value
  gatherResource task ⟨ctx.module, Naming.pascalCase value⟩ ⟨branch.schema, branchResponse, false⟩
    ctx.path

/-- The resources that an operation creates: one for each value of a discriminator, or else one.
Alternatives without a discriminator are merged, and require nothing. -/
def createResources (title : String) (request : Schema) (response : Option Schema) :
    Infer (List String) := do
  match discriminatorMapping request with
  | [] =>
    let bodies : ResourceBodies :=
      if request.oneOf.isEmpty then ⟨request, response, false⟩
      else ⟨mergeAlternatives request, response, true⟩
    pure [← gatherResource task ⟨ctx.module, title⟩ bodies ctx.path]
  | mapping => mapping.mapM (createBranch task ctx response)

/-- An operation that creates. -/
def extractCreate : Infer Unit := do
  match creator? task ctx with
  | none => pure ()
  | some (method, operation) =>
    let id ← operationId method ctx.path operation
    let request ← requestSchema task method ctx.path operation
    let response ← createdSchema? task operation
    let parameters ← pathParameters task ctx.item operation
    let tokens ← createResources task ctx (singularTitle task id method) request.schema
      (response.map (·.schema))
    tokens.forM fun token => addPathParameters token parameters

/-! ## Paths -/

/-- All operations of a path. -/
def extractOperations : Infer Unit := do
  ctx.item.get.forM (extractGet task ctx)
  ctx.item.patch.forM (extractChange task ctx .patch .update)
  ctx.item.put.forM (extractChange task ctx .put .put)
  ctx.item.delete.forM (extractDelete task ctx)
  extractCreate task ctx

end

/-- The normalised path and its item, or both as they are. -/
def normalizedPath (task : InferenceTask) (path : String) (item : PathItem) :
    Infer (String × PathItem) :=
  if task.options.normalizePathParameters then
    match PathTemplate.normalize task.document path item with
    | (.ok normalized, item) => pure (normalized, item)
    | (.error e, _) => throw (.lookup e)
  else pure (path, item)

/-- A path of the document. -/
def extractPath (task : InferenceTask) (entry : String × PathItem) : Infer Unit := do
  let (documentPath, item) := entry
  let item := withoutExcluded task.options.exclusions documentPath item
  if !item.hasOperations then pure ()
  else
    let (path, item) ← normalizedPath task documentPath item
    let module := Naming.moduleOf path task.options.useParentAsModule
    addModule module
    extractOperations task { path, documentPath, module, item }

/-- All paths of the document, in ascending order. -/
def extractPaths (task : InferenceTask) : Infer Unit :=
  (SortedMap.ofList task.document.paths).toList.forM (extractPath task)

end Infer

/-- The package and the tables of a document. -/
def extract (task : InferenceTask) : Except InferenceError Extraction :=
  match (Infer.extractPaths task).run.run (Session.new task.options) with
  | (.ok _, session) => .ok session.finish
  | (.error e, _) => .error e

end ResourceInference
