import ResourceInference.Inference.Extraction

/-!
# What inference reads of a task

Apart from the list of paths and the rules of exclusion, a run reads the component tables of the
document and the options. Two tasks that agree in these (`InferenceTask.Agrees`) give the same
steps: the same types (`Agrees.propertyType`), resources (`Agrees.gatherResource`), functions and
normalised paths. The paths and the rules come in only where the operations of a path are listed
and where a PUT is asked whether it creates; where it is answered alike, all operations of the path
take the same steps (`Agrees.extractOperations`).
-/

set_option autoImplicit false

namespace ResourceInference

/-- The options without rules of exclusion. -/
def InferenceOptions.excludingNothing (options : InferenceOptions) : InferenceOptions :=
  { options with exclusions := .none }

/-- Two tasks have the same components, and the same options but for the rules of exclusion. -/
structure InferenceTask.Agrees (task task' : InferenceTask) : Prop where
  components : task.document.components = task'.document.components
  options : task.options.excludingNothing = task'.options.excludingNothing

/-- A search for an enum reads no more of a task than how it forms tokens. -/
theorem EnumSearch.search_congr {task task' : InferenceTask} (tokens : task.token = task'.token)
    (scope : Scope) (schema : Schema) (name : String) (bound : Nat) :
    search task scope schema name bound = search task' scope schema name bound := by
  induction bound generalizing name with
  | zero => rfl
  | succ bound ih => simp only [search, tokens, ih]

namespace InferenceTask.Agrees

variable {task task' : InferenceTask} (agree : task.Agrees task')

include agree

/-! ## Options -/

theorem packageName : task.options.packageName = task'.options.packageName :=
  congrArg (·.packageName) agree.options

theorem useParentAsModule : task.options.useParentAsModule = task'.options.useParentAsModule :=
  congrArg (·.useParentAsModule) agree.options

theorem namespaceSeparator :
    task.options.namespaceSeparator = task'.options.namespaceSeparator :=
  congrArg (·.namespaceSeparator) agree.options

theorem allowedPlurals : task.options.allowedPlurals = task'.options.allowedPlurals :=
  congrArg (·.allowedPlurals) agree.options

theorem normalizePathParameters :
    task.options.normalizePathParameters = task'.options.normalizePathParameters :=
  congrArg (·.normalizePathParameters) agree.options

theorem duplicateEnums : task.options.duplicateEnums = task'.options.duplicateEnums :=
  congrArg (·.duplicateEnums) agree.options

theorem token : task.token = task'.token := by
  funext module name
  simp only [InferenceTask.token, agree.packageName]

/-! ## Look-ups -/

theorem tables : task.document.tables = task'.document.tables := by
  simp only [Document.tables, agree.components]

theorem follow (name : String) (seen : List String) (bound : Nat) :
    Lookup.follow task.document name seen bound = Lookup.follow task'.document name seen bound := by
  induction bound generalizing name seen with
  | zero => rfl
  | succ bound ih => simp only [Lookup.follow, Document.schema?, agree.tables, ih]

theorem component : Lookup.component task.document = Lookup.component task'.document := by
  funext name
  simp only [Lookup.component, agree.follow, agree.tables]

theorem schema : Lookup.schema task.document = Lookup.schema task'.document := by
  funext schema
  cases schema <;> simp only [Lookup.schema, agree.component]

theorem schemaByName : Lookup.schemaByName task.document = Lookup.schemaByName task'.document := by
  funext reference
  simp only [Lookup.schemaByName, agree.component]

theorem parameter : Lookup.parameter task.document = Lookup.parameter task'.document := by
  simp only [Lookup.parameter, agree.tables]

theorem requestBody : Lookup.requestBody task.document = Lookup.requestBody task'.document := by
  simp only [Lookup.requestBody, agree.tables]

theorem response : Lookup.response task.document = Lookup.response task'.document := by
  simp only [Lookup.response, agree.tables]

theorem find : Infer.find task = Infer.find task' := by
  funext schema
  simp only [Infer.find, agree.schema]

/-! ## Types -/

theorem search (scope : Scope) (schema : Schema) (name : String) (bound : Nat) :
    EnumSearch.search task scope schema name bound =
      EnumSearch.search task' scope schema name bound :=
  EnumSearch.search_congr agree.token scope schema name bound

theorem enumOrNone : Infer.enumOrNone task = Infer.enumOrNone task' := by
  funext scope parent schema
  simp only [Infer.enumOrNone, Infer.enumType, agree.search, agree.duplicateEnums]

theorem registerGenerated : Infer.registerGenerated task = Infer.registerGenerated task' := by
  funext scope name type
  simp only [Infer.registerGenerated, agree.token]

theorem mergePart : Infer.mergePart task = Infer.mergePart task' := by
  funext resolve scope parent members part
  simp only [Infer.mergePart, agree.find]

theorem mergedMembers : Infer.mergedMembers task = Infer.mergedMembers task' := by
  funext resolve scope parent parts
  simp only [Infer.mergedMembers, agree.mergePart]

theorem propertyTypeOf : Infer.propertyTypeOf task = Infer.propertyTypeOf task' := by
  funext resolve scope mapName typeName found
  simp only [Infer.propertyTypeOf, agree.find]

theorem addProperty : Infer.addProperty task = Infer.addProperty task' := by
  funext resolve scope parent properties entry
  simp only [Infer.addProperty, agree.find, agree.propertyTypeOf]

theorem objectType : Infer.objectType task = Infer.objectType task' := by
  funext resolve scope name schema
  simp only [Infer.objectType, Infer.objectMembers, agree.addProperty, agree.mergedMembers]

theorem unionType : Infer.unionType task = Infer.unionType task' := by
  funext resolve scope parent schema
  simp only [Infer.unionType, Infer.variantTypes, agree.find]

theorem declaredType : Infer.declaredType task = Infer.declaredType task' := by
  funext resolve scope parent schema type
  cases type <;>
    simp only [Infer.declaredType, Infer.mapType, Infer.arrayType, agree.find]

theorem unnamedType : Infer.unnamedType task = Infer.unnamedType task' := by
  funext resolve scope parent schema
  simp only [Infer.unnamedType, Infer.variantTypes, agree.find, agree.declaredType]

theorem inlineType : Infer.inlineType task = Infer.inlineType task' := by
  funext resolve scope parent schema
  simp only [Infer.inlineType, agree.registerGenerated, agree.objectType, agree.unionType,
    agree.mergedMembers, agree.enumOrNone, agree.unnamedType]

theorem enterComponent : Infer.enterComponent task = Infer.enterComponent task' := by
  funext resolve scope component schema
  simp only [Infer.enterComponent, Infer.buildComponent, agree.token, agree.objectType]

theorem typeOf : Infer.typeOf task = Infer.typeOf task' := by
  funext resolve scope parent found
  simp only [Infer.typeOf, Infer.componentType, agree.inlineType, agree.unionType,
    agree.unnamedType, agree.enterComponent]

theorem resolver (depth : Nat) : Infer.resolver task depth = Infer.resolver task' depth := by
  induction depth with
  | zero => rfl
  | succ depth ih => simp only [Infer.resolver, agree.typeOf, ih]

theorem propertyType : Infer.propertyType task = Infer.propertyType task' := by
  funext scope parent found
  simp only [Infer.propertyType, Infer.depthBound, Infer.componentsSize, agree.tables,
    agree.resolver]

/-! ## Resources and functions -/

theorem bodyProperty : Infer.bodyProperty task = Infer.bodyProperty task' := by
  funext scope entry
  simp only [Infer.bodyProperty, Infer.resourceProperty, agree.find, agree.propertyTypeOf,
    agree.propertyType]

theorem gatherRequestProperty :
    Infer.gatherRequestProperty task = Infer.gatherRequestProperty task' := by
  funext scope draft entry
  simp only [Infer.gatherRequestProperty, agree.bodyProperty]

theorem gatherResponseProperty :
    Infer.gatherResponseProperty task = Infer.gatherResponseProperty task' := by
  funext scope draft entry
  simp only [Infer.gatherResponseProperty, agree.bodyProperty]

theorem gatherResponse : Infer.gatherResponse task = Infer.gatherResponse task' := by
  funext scope draft response
  simp only [Infer.gatherResponse, agree.mergedMembers, agree.propertyType,
    agree.gatherResponseProperty]

theorem gatherAnswer : Infer.gatherAnswer task = Infer.gatherAnswer task' := by
  funext scope draft response
  cases response <;> simp only [Infer.gatherAnswer, agree.gatherResponse]

theorem gatherRequiredInput : Infer.gatherRequiredInput task = Infer.gatherRequiredInput task' := by
  funext token request draft wire
  simp only [Infer.gatherRequiredInput, agree.find]

theorem gatherPart : Infer.gatherPart task = Infer.gatherPart task' := by
  funext scope stripRequired draft part
  simp only [Infer.gatherPart, agree.find, agree.propertyType]

theorem gatherDraft : Infer.gatherDraft task = Infer.gatherDraft task' := by
  funext scope token bodies
  simp only [Infer.gatherDraft, agree.gatherRequestProperty, agree.gatherAnswer,
    agree.gatherRequiredInput, agree.gatherPart]

theorem gatherResource : Infer.gatherResource task = Infer.gatherResource task' := by
  funext scope bodies path
  simp only [Infer.gatherResource, agree.token, agree.gatherDraft]

theorem addPathParameter : Infer.addPathParameter task = Infer.addPathParameter task' := by
  funext properties entry
  simp only [Infer.addPathParameter, agree.parameter]

theorem pathParameters : Infer.pathParameters task = Infer.pathParameters task' := by
  funext item operation
  simp only [Infer.pathParameters, agree.addPathParameter]

theorem getResult : Infer.getResult task = Infer.getResult task' := by
  funext scope name returns
  cases returns <;> simp only [Infer.getResult, agree.propertyType]

theorem getFunction : Infer.getFunction task = Infer.getFunction task' := by
  funext scope item operation name returns
  simp only [Infer.getFunction, agree.pathParameters, agree.getResult]

theorem listFunction : Infer.listFunction task = Infer.listFunction task' := by
  funext scope item operation name returns
  simp only [Infer.listFunction, agree.pathParameters, agree.propertyType]

/-! ## Operations -/

theorem operationTitle : Infer.operationTitle task = Infer.operationTitle task' := by
  funext id method
  simp only [Infer.operationTitle, agree.namespaceSeparator]

theorem singularTitle : Infer.singularTitle task = Infer.singularTitle task' := by
  funext id method
  simp only [Infer.singularTitle, agree.operationTitle, agree.allowedPlurals]

theorem requestSchema : Infer.requestSchema task = Infer.requestSchema task' := by
  funext method path operation
  simp only [Infer.requestSchema, Infer.requestSchema?, agree.requestBody, agree.find]

theorem responseContent? : Infer.responseContent? task = Infer.responseContent? task' := by
  funext operation status
  simp only [Infer.responseContent?, agree.response]

theorem discriminatorTarget : Infer.discriminatorTarget task = Infer.discriminatorTarget task' := by
  funext path reference
  simp only [Infer.discriminatorTarget, agree.schemaByName]

theorem addReadFunction : Infer.addReadFunction task = Infer.addReadFunction task' := by
  funext ctx name function
  simp only [Infer.addReadFunction, agree.token]

theorem extractGet : Infer.extractGet task = Infer.extractGet task' := by
  funext ctx operation
  simp only [Infer.extractGet, Infer.extractAction, Infer.extractList, Infer.extractBranchRead,
    Infer.extractRead, Infer.returnedSchema?, agree.operationTitle, agree.singularTitle,
    agree.allowedPlurals, agree.token, agree.find, agree.responseContent?, agree.getFunction,
    agree.listFunction, agree.addReadFunction, agree.discriminatorTarget]

theorem seatBranch : Infer.seatBranch task = Infer.seatBranch task' := by
  funext ctx slot name
  simp only [Infer.seatBranch, agree.discriminatorTarget, agree.token]

theorem extractChange : Infer.extractChange task = Infer.extractChange task' := by
  funext ctx method slot operation
  simp only [Infer.extractChange, agree.token, agree.singularTitle, agree.requestSchema,
    agree.seatBranch]

theorem extractDelete : Infer.extractDelete task = Infer.extractDelete task' := by
  funext ctx operation
  simp only [Infer.extractDelete, agree.token, agree.singularTitle, agree.extractChange]

theorem createdSchema? : Infer.createdSchema? task = Infer.createdSchema? task' := by
  funext operation
  simp only [Infer.createdSchema?, agree.responseContent?, agree.find]

theorem createBranch : Infer.createBranch task = Infer.createBranch task' := by
  funext ctx response entry
  simp only [Infer.createBranch, Infer.branchAnswer, agree.gatherResource,
    agree.discriminatorTarget]

theorem createResources : Infer.createResources task = Infer.createResources task' := by
  funext ctx title request response
  simp only [Infer.createResources, agree.gatherResource, agree.createBranch]

theorem extractOperations (ctx : PathContext)
    (creates : Infer.putCreates task ctx = Infer.putCreates task' ctx) :
    Infer.extractOperations task ctx = Infer.extractOperations task' ctx := by
  simp only [Infer.extractOperations, Infer.extractCreate, Infer.creator?, creates,
    agree.extractGet, agree.extractChange, agree.extractDelete, agree.requestSchema,
    agree.createdSchema?, agree.pathParameters, agree.createResources, agree.singularTitle]

/-! ## Paths -/

theorem renameParameters (table : List (String × String)) (entries : List (RefOr Parameter)) :
    PathTemplate.renameParameters task.document table entries =
      PathTemplate.renameParameters task'.document table entries := by
  induction entries with
  | nil => rfl
  | cons entry rest ih =>
      simp only [PathTemplate.renameParameters, PathTemplate.renameParameter, agree.parameter, ih]

theorem renameOperations (table : List (String × String)) (item : PathItem)
    (methods : List Method) :
    PathTemplate.renameOperations task.document table item methods =
      PathTemplate.renameOperations task'.document table item methods := by
  induction methods generalizing item with
  | nil => rfl
  | cons method rest ih =>
      simp only [PathTemplate.renameOperations, PathTemplate.renameOperation,
        agree.renameParameters, ih]

theorem normalizedPath : Infer.normalizedPath task = Infer.normalizedPath task' := by
  funext path item
  simp only [Infer.normalizedPath, PathTemplate.normalize, PathTemplate.renameItem,
    agree.normalizePathParameters, agree.renameParameters, agree.renameOperations]

end InferenceTask.Agrees

end ResourceInference
