import ResourceInference.Proofs.Operations
import ResourceInference.Proofs.PropertyWalks

/-!
# Operations of arranged documents

The operations of a path take alike steps in two documents that are the same when they are
arranged: bodies are found in the same places (`requestSchema_alike`, `createdSchema?_alike`), reads
and changes do not depend on the order of properties at all (`extractGet_alike`,
`extractChange_alike`), and a path is normalised and its excluded operations are left out alike.
Only where resources are created the bodies have to list their properties in the same order.
-/

set_option autoImplicit false

namespace ResourceInference

/-! ## Operations and paths that are alike -/

/-- The operations differ only in the order of properties in their bodies. -/
def Operation.Like (operation operation' : Operation) : Prop :=
  operation.arranged true = operation'.arranged true

namespace Operation.Like

variable {operation operation' : Operation} (like : operation.Like operation')

include like

theorem operationId : operation.operationId = operation'.operationId :=
  (congrArg Operation.operationId like :)

theorem description : operation.description = operation'.description :=
  (congrArg Operation.description like :)

theorem parameters : operation.parameters = operation'.parameters :=
  (congrArg Operation.parameters like :)

theorem requestBody :
    operation.requestBody.map (RefOr.arranged (RequestBody.arranged true)) =
      operation'.requestBody.map (RefOr.arranged (RequestBody.arranged true)) :=
  (congrArg Operation.requestBody like :)

theorem response (status : String) :
    (operation.responses.lookup status).map (RefOr.arranged (Response.arranged true)) =
      (operation'.responses.lookup status).map (RefOr.arranged (Response.arranged true)) := by
  rw [← lookup_arrangedTable, ← lookup_arrangedTable]
  exact congrArg (·.responses.lookup status) like

end Operation.Like

/-- The paths are answered by the same methods, with operations that are alike. -/
def PathItem.Like (item item' : PathItem) : Prop := item.arranged true = item'.arranged true

namespace PathItem

theorem operation?_arranged (keep : Bool) (item : PathItem) (method : Method) :
    (item.arranged keep).operation? method =
      (item.operation? method).map (Operation.arranged keep) := by
  cases method <;> rfl

theorem setOperation_arranged (keep : Bool) (item : PathItem) (method : Method)
    (operation : Option Operation) : (item.setOperation method operation).arranged keep =
      (item.arranged keep).setOperation method (operation.map (Operation.arranged keep)) := by
  cases method <;> rfl

theorem hasOperations_arranged (keep : Bool) (item : PathItem) :
    (item.arranged keep).hasOperations = item.hasOperations := by
  simp only [hasOperations, methods, operation?_arranged, Option.isSome_map]

end PathItem

namespace PathItem.Like

variable {item item' : PathItem} (like : item.Like item')

include like

theorem description : item.description = item'.description :=
  (congrArg PathItem.description like :)

theorem parameters : item.parameters = item'.parameters := (congrArg PathItem.parameters like :)

theorem operation? (method : Method) :
    (item.operation? method).map (Operation.arranged true) =
      (item'.operation? method).map (Operation.arranged true) := by
  rw [← operation?_arranged, ← operation?_arranged, show item.arranged true = _ from like]

theorem hasOperations : item.hasOperations = item'.hasOperations := by
  rw [← item.hasOperations_arranged true, ← item'.hasOperations_arranged true,
    show item.arranged true = _ from like]

end PathItem.Like

/-! ## Normal forms of paths -/

/-- Excluded operations are left out alike. -/
theorem withoutExcluded_arranged (keep : Bool) (exclusions : ExclusionList) (path : String)
    (item : PathItem) : (withoutExcluded exclusions path item).arranged keep =
      withoutExcluded exclusions path (item.arranged keep) := by
  unfold withoutExcluded
  generalize Method.all = methods
  induction methods generalizing item with
  | nil => rfl
  | cons method rest ih =>
    rw [List.foldl_cons, List.foldl_cons, ih]
    congr 1
    split
    · exact item.setOperation_arranged keep method none
    · rfl

namespace PathTemplate

variable (keep : Bool) (d : Document) (table : List (String × String))

theorem renameParameters_arranged (parameters : List (RefOr Parameter)) :
    renameParameters (d.arranged keep) table parameters = renameParameters d table parameters := by
  induction parameters with
  | nil => rfl
  | cons parameter rest ih =>
    simp only [renameParameters, renameParameter, Lookup.parameter_arranged, ih]

theorem renameOperation_arranged (item : PathItem) (method : Method) :
    renameOperation (d.arranged keep) table (item.arranged keep) method =
      ((renameOperation d table item method).1.arranged keep,
        (renameOperation d table item method).2) := by
  rw [renameOperation, renameOperation, PathItem.operation?_arranged]
  cases item.operation? method with
  | none => rfl
  | some operation =>
    have parameters := renameParameters_arranged keep d table operation.parameters
    have same : (operation.arranged keep).parameters = operation.parameters := rfl
    simp only [Option.map_some, same, parameters]
    generalize renameParameters d table operation.parameters = renamed
    exact congrArg (·, renamed.2) (item.setOperation_arranged keep method
      (some { operation with parameters := renamed.1 })).symm

theorem renameOperations_arranged (methods : List Method) : ∀ item : PathItem,
    renameOperations (d.arranged keep) table (item.arranged keep) methods =
      ((renameOperations d table item methods).1.arranged keep,
        (renameOperations d table item methods).2) := by
  induction methods with
  | nil => exact fun _ => rfl
  | cons method rest ih =>
    intro item
    rw [renameOperations, renameOperations, renameOperation_arranged]
    rcases renameOperation d table item method with ⟨changed, _ | e⟩
    · exact ih changed
    · rfl

theorem renameItem_arranged (item : PathItem) :
    renameItem (d.arranged keep) table (item.arranged keep) =
      ((renameItem d table item).1.arranged keep, (renameItem d table item).2) := by
  have parameters := renameParameters_arranged keep d table item.parameters
  rw [renameItem, renameItem, show (item.arranged keep).parameters = item.parameters from rfl,
    parameters]
  rcases renameParameters d table item.parameters with ⟨renamed, _ | e⟩
  · exact renameOperations_arranged keep d table Method.all { item with parameters := renamed }
  · rfl

/-- A path has the same normal form, and its item is renamed alike. -/
theorem normalize_arranged (path : String) (item : PathItem) :
    normalize (d.arranged keep) path (item.arranged keep) =
      ((normalize d path item).1, (normalize d path item).2.arranged keep) := by
  unfold normalize
  dsimp only
  split
  · rfl
  · rw [renameItem_arranged]
    rcases renameItem d _ item with ⟨changed, _ | e⟩ <;> rfl

end PathTemplate

/-- A path and its operations, as they are extracted, in two documents that are alike. -/
structure PathContext.Like (ctx ctx' : PathContext) : Prop where
  path : ctx.path = ctx'.path
  documentPath : ctx.documentPath = ctx'.documentPath
  module : ctx.module = ctx'.module
  item : ctx.item.Like ctx'.item

namespace Infer

section

variable {task task' : InferenceTask} (like : task.Like task')

include like

theorem normalizedPath_alike (path : String) {item item' : PathItem} (same : item.Like item') :
    Alike (fun a b => a.1 = b.1 ∧ a.2.Like b.2) (normalizedPath task path item)
      (normalizedPath task' path item') := by
  have normalized := PathTemplate.normalize_arranged true task.document path item
  have normalized' := PathTemplate.normalize_arranged true task'.document path item'
  rw [like.document, show item.arranged true = _ from same, normalized'] at normalized
  unfold normalizedPath
  rw [like.options]
  split
  · generalize PathTemplate.normalize task.document path item = renamed at normalized
    generalize PathTemplate.normalize task'.document path item' = renamed' at normalized
    rcases renamed with ⟨_ | _, _⟩ <;> rcases renamed' with ⟨_ | _, _⟩
    · exact .throw ..
    · cases normalized
    · cases normalized
    · obtain ⟨paths, items⟩ := Prod.mk.inj normalized
      exact .pure ⟨(Except.ok.inj paths).symm, items.symm⟩
  · exact .pure ⟨rfl, same⟩

/-! ## Bodies -/

theorem parameter_like : Lookup.parameter task.document = Lookup.parameter task'.document := by
  rw [← Lookup.parameter_arranged true task.document, like.document, Lookup.parameter_arranged]

theorem pathParameters_alike {item item' : PathItem} (sameItem : item.Like item')
    {operation operation' : Operation} (same : operation.Like operation') :
    Alike Eq (pathParameters task item operation) (pathParameters task' item' operation') := by
  apply Alike.of_eq
  have each : addPathParameter task = addPathParameter task' := by
    funext properties entry
    rw [addPathParameter, addPathParameter, parameter_like like]
  rw [pathParameters, pathParameters, sameItem.parameters, same.parameters, each]

omit like in
/-- What a schema that may be absent is or leads to. -/
def findOptional (task : InferenceTask) : Option SchemaOrRef → Infer (Option Lookup.Found)
  | some part => some <$> find task part
  | none => pure none

theorem findOptional_alike {part part' : Option SchemaOrRef}
    (same : part.map (arrangedPart true) = part'.map (arrangedPart true)) :
    Alike (Option.Rel Lookup.Found.Like) (findOptional task part) (findOptional task' part') := by
  obtain ⟨rfl, rfl⟩ | ⟨part, part', rfl, rfl, samePart⟩ := cases_of_map_eq same
  · exact .pure .none
  · rw [findOptional, findOptional, map_eq_pure_bind, map_eq_pure_bind]
    apply (find_alike like samePart).bind
    exact fun _ _ alike => .pure (.some alike)

omit like in
theorem jsonSchema?_like {content content' : List (String × MediaType)}
    (same : arrangedTable (MediaType.arranged true) content =
      arrangedTable (MediaType.arranged true) content') :
    (jsonSchema? content).map (arrangedPart true) =
      (jsonSchema? content').map (arrangedPart true) := by
  have held := congrArg (List.lookup jsonMediaType) same
  rw [lookup_arrangedTable, lookup_arrangedTable] at held
  unfold jsonSchema?
  obtain ⟨left, right⟩ | ⟨media, media', left, right, alike⟩ := cases_of_map_eq held
  · rw [left, right]
  · rw [left, right]
    exact congrArg MediaType.schema alike

theorem requestSchema?_alike {operation operation' : Operation}
    (same : operation.Like operation') :
    Alike (Option.Rel Lookup.Found.Like) (requestSchema? task operation)
      (requestSchema? task' operation') := by
  unfold requestSchema?
  obtain ⟨left, right⟩ | ⟨body, body', left, right, sent⟩ := cases_of_map_eq same.requestBody
  · rw [left, right]
    exact .pure .none
  · rw [left, right]
    have found : (Lookup.requestBody task.document body).map (RequestBody.arranged true) =
        (Lookup.requestBody task'.document body').map (RequestBody.arranged true) := by
      rw [← Lookup.requestBody_arranged, ← Lookup.requestBody_arranged, like.document, sent]
    apply (alike_ofLookup found).bind
    intro body body' alike
    exact findOptional_alike like (jsonSchema?_like (congrArg RequestBody.content alike :))

theorem requestSchema_alike (method : Method) (path : String) {operation operation' : Operation}
    (same : operation.Like operation') :
    Alike Lookup.Found.Like (requestSchema task method path operation)
      (requestSchema task' method path operation') := by
  apply (requestSchema?_alike like same).bind
  rintro _ _ (alike | _)
  · exact .pure alike
  · exact .throw ..

/-- The content of a response is found alike. -/
theorem responseContent?_alike (status : String) {operation operation' : Operation}
    (same : operation.Like operation') :
    Alike (fun media media' => media.map (MediaType.arranged true) =
        media'.map (MediaType.arranged true)) (responseContent? task operation status)
      (responseContent? task' operation' status) := by
  unfold responseContent?
  obtain ⟨left, right⟩ | ⟨response, response', left, right, answered⟩ :=
    cases_of_map_eq (same.response status)
  · rw [left, right]
    exact .pure rfl
  · rw [left, right]
    have found : (Lookup.response task.document response).map (Response.arranged true) =
        (Lookup.response task'.document response').map (Response.arranged true) := by
      rw [← Lookup.response_arranged, ← Lookup.response_arranged, like.document,
        answered]
    apply (alike_ofLookup found).bind
    intro response response' alike
    apply Alike.pure
    rw [← lookup_arrangedTable, ← lookup_arrangedTable]
    exact congrArg (·.content.lookup jsonMediaType) alike

theorem returnedSchema?_alike (path : String) {operation operation' : Operation}
    (same : operation.Like operation') :
    Alike (Option.Rel Lookup.Found.Like) (returnedSchema? task path operation)
      (returnedSchema? task' path operation') := by
  apply (responseContent?_alike like "200" same).bind
  intro media media' alike
  obtain ⟨rfl, rfl⟩ | ⟨⟨schema⟩, ⟨schema'⟩, rfl, rfl, sameMedia⟩ := cases_of_map_eq alike
  · exact .pure .none
  · have same : schema.map (arrangedPart true) = schema'.map (arrangedPart true) :=
      congrArg MediaType.schema sameMedia
    obtain ⟨rfl, rfl⟩ | ⟨part, part', rfl, rfl, _⟩ := cases_of_map_eq same
    · exact .throw ..
    · exact findOptional_alike like same

theorem createdSchema?_alike {operation operation' : Operation}
    (same : operation.Like operation') :
    Alike (Option.Rel Lookup.Found.Like) (createdSchema? task operation)
      (createdSchema? task' operation') := by
  have present : ∀ status, (operation.responses.lookup status).isSome =
      (operation'.responses.lookup status).isSome := by
    intro status
    simpa using congrArg Option.isSome (same.response status)
  unfold createdSchema?
  simp only [present]
  cases createdStatuses.find? fun status => (operation'.responses.lookup status).isSome with
  | none => exact .pure .none
  | some status =>
    apply (responseContent?_alike like status same).bind
    intro media media' alike
    apply findOptional_alike like
    obtain ⟨rfl, rfl⟩ | ⟨media, media', rfl, rfl, sameMedia⟩ := cases_of_map_eq alike
    · rfl
    · exact congrArg MediaType.schema sameMedia

theorem discriminatorTarget_alike (path reference : String) :
    Alike Lookup.Found.Like (discriminatorTarget task path reference)
      (discriminatorTarget task' path reference) := by
  have found : (Lookup.schemaByName task.document reference).map (Lookup.Found.arranged true) =
      (Lookup.schemaByName task'.document reference).map (Lookup.Found.arranged true) := by
    rw [← Lookup.schemaByName_arranged, ← Lookup.schemaByName_arranged, like.document]
  unfold discriminatorTarget
  generalize Lookup.schemaByName task.document reference = result at found
  generalize Lookup.schemaByName task'.document reference = result' at found
  rcases result with e | target <;> rcases result' with e' | target'
  · cases found
    cases e with
    | notFound _ => exact .throw ..
    | circular _ | malformed _ | wrongSection _ _ _ => exact .throw ..
  · cases found
  · cases found
  · exact .pure (Lookup.Found.like_of_arranged (Except.ok.inj found))

end

end Infer

end ResourceInference
