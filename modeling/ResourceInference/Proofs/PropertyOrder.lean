import ResourceInference.Proofs.ArrangedPaths

/-!
# The order of properties

Objects list their properties in some order. Types are made in the order of names, so what a path
reads, changes or deletes does not depend on the order of properties (`Infer.extractGet_alike`,
`Infer.extractChange_alike`). Two orders are left that a run follows: an open object has the type of
its first property, and the bodies that a resource is made of are walked through as they are
written. Documents that agree in these two and differ in no other way give the same extraction, or
both fail (`extract_toOption_of_like`); and scalars may be moved even in those bodies.

Where the two orders differ, the extractions may differ as well, or only one of them may succeed
(`rearranged_differ`).
-/

set_option autoImplicit false

namespace ResourceInference

/-- Schemas that are alike name the same components as alternatives. -/
theorem branchNames_like {s s' : Schema} (same : s.Like s') : branchNames s = branchNames s' := by
  have alternatives : (s.oneOf ++ s.anyOf).map (arrangedPart true) =
      (s'.oneOf ++ s'.anyOf).map (arrangedPart true) := by
    rw [List.map_append, List.map_append, same.oneOf, same.anyOf]
  have selected : ∀ select : SchemaOrRef → Option String,
      (∀ part, select (arrangedPart true part) = select part) →
        (s.oneOf ++ s.anyOf).filterMap select = (s'.oneOf ++ s'.anyOf).filterMap select := by
    intro select arranged
    have unchanged : select ∘ arrangedPart true = select := funext arranged
    rw [← unchanged, ← List.filterMap_map, ← List.filterMap_map, alternatives]
  unfold branchNames
  rw [same.discriminator, selected]
  rintro (_ | _) <;> rfl

theorem discriminatorMapping_like {s s' : Schema} (same : s.Like s') :
    discriminatorMapping s = discriminatorMapping s' := by
  rw [discriminatorMapping, discriminatorMapping, same.discriminator]

namespace Infer

section

variable {task task' : InferenceTask} (like : task.Like task')

include like

/-! ## Functions -/

theorem getFunction_alike (scope : Scope) (name : String) {item item' : PathItem}
    (sameItem : item.Like item') {operation operation' : Operation}
    (same : operation.Like operation') {returns returns' : Option Lookup.Found}
    (alike : Option.Rel Lookup.Found.Like returns returns') :
    Alike Eq (getFunction task scope item operation name returns)
      (getFunction task' scope item' operation' name returns') := by
  have result : Alike Eq (getResult task scope name returns)
      (getResult task' scope name returns') := by
    cases alike with
    | none => exact .pure rfl
    | some alike =>
      apply (propertyType_alike like scope _ _ _ alike).bind_same
      exact fun resolved => .pure rfl
  apply (pathParameters_alike like sameItem same).bind_same
  intro inputs
  apply result.bind_same
  intro result
  rw [operationDescription, operationDescription, same.description, sameItem.description]
  exact .pure rfl

theorem listFunction_alike (scope : Scope) (name : String) {item item' : PathItem}
    (sameItem : item.Like item') {operation operation' : Operation}
    (same : operation.Like operation') {returns returns' : Lookup.Found}
    (alike : returns.Like returns') :
    Alike Eq (listFunction task scope item operation name returns)
      (listFunction task' scope item' operation' name returns') := by
  apply (pathParameters_alike like sameItem same).bind_same
  intro inputs
  apply (propertyType_alike like scope _ _ _ alike).bind_same
  intro resolved
  rw [operationDescription, operationDescription, same.description, sameItem.description]
  exact .refl _

/-! ## Reading -/

theorem singularTitle_like : singularTitle task = singularTitle task' := by
  funext id method
  rw [singularTitle, singularTitle, operationTitle, operationTitle, like.options]

omit like in
theorem operationId_alike (method : Method) (path : String) {operation operation' : Operation}
    (same : operation.Like operation') :
    Alike Eq (operationId method path operation) (operationId method path operation') := by
  rw [operationId, operationId, same.operationId]
  exact .refl _

variable {ctx ctx' : PathContext} (paths : ctx.Like ctx') {operation operation' : Operation}
  (same : operation.Like operation')

include paths

theorem addReadFunction_like : addReadFunction task ctx = addReadFunction task' ctx' := by
  funext name function
  rw [addReadFunction, addReadFunction, token_like like, paths.module, paths.path]

include same

theorem extractAction_alike (id : String) : Alike Eq (extractAction task ctx operation id)
    (extractAction task' ctx' operation' id) := by
  unfold extractAction
  dsimp only
  rw [singularTitle_like like, paths.module, addReadFunction_like like paths]
  apply (getFunction_alike like _ _ paths.item same .none).bind_same
  exact fun function => .refl _

theorem extractList_alike (id : String) {returns returns' : Lookup.Found}
    (alike : returns.Like returns') : Alike Eq (extractList task ctx operation id returns)
      (extractList task' ctx' operation' id returns') := by
  unfold extractList
  dsimp only
  rw [operationTitle, operationTitle, like.options, paths.module, addReadFunction_like like paths]
  apply (listFunction_alike like _ _ paths.item same alike).bind_same
  exact fun function => .refl _

theorem extractRead_alike (title : String) {returns returns' : Lookup.Found}
    (alike : returns.Like returns') : Alike Eq (extractRead task ctx operation title returns)
      (extractRead task' ctx' operation' title returns') := by
  unfold extractRead
  dsimp only
  rw [token_like like, paths.module, paths.path, addReadFunction_like like paths]
  apply (Alike.refl (seat _ _ _)).bind_same
  intro _
  apply (getFunction_alike like _ _ paths.item same (.some alike)).bind_same
  exact fun function => .refl _

theorem extractBranchRead_alike (reference : String) :
    Alike Eq (extractBranchRead task ctx operation reference)
      (extractBranchRead task' ctx' operation' reference) := by
  unfold extractBranchRead
  rw [paths.path]
  apply (discriminatorTarget_alike like ctx'.path reference).bind
  intro branch branch' alike
  dsimp only
  rw [alike.schema.title]
  exact extractRead_alike like paths same _ alike

/-- A read does not depend on the order of properties. -/
theorem extractGet_alike :
    Alike Eq (extractGet task ctx operation) (extractGet task' ctx' operation') := by
  unfold extractGet
  rw [paths.path]
  apply (operationId_alike .get _ same).bind_same
  intro name
  apply (returnedSchema?_alike like _ same).bind
  intro returned? returned?' alike
  cases alike with
  | none => exact extractAction_alike like paths same name
  | some alike =>
    apply Alike.ite (by rw [alike.schema.hasType])
    · exact extractList_alike like paths same name alike
    · rw [discriminatorMapping_like alike.schema, singularTitle_like like]
      split
      · exact extractRead_alike like paths same _ alike
      · apply Alike.forM id ?_ rfl
        rintro entry _ _ _ rfl
        exact extractBranchRead_alike like paths same entry.2

/-! ## Changing -/

omit same in
theorem seatBranch_alike (slot : CrudSlot) (name : String) :
    Alike Eq (seatBranch task ctx slot name) (seatBranch task' ctx' slot name) := by
  unfold seatBranch
  rw [paths.path, token_like like, paths.module]
  apply (discriminatorTarget_alike like ctx'.path name).bind
  intro branch branch' alike
  rw [alike.schema.title]
  exact .refl _

/-- A change does not depend on the order of properties. -/
theorem extractChange_alike (method : Method) (slot : CrudSlot) :
    Alike Eq (extractChange task ctx method slot operation)
      (extractChange task' ctx' method slot operation') := by
  unfold extractChange
  rw [paths.path, token_like like, singularTitle_like like, paths.module]
  apply (operationId_alike method _ same).bind_same
  intro title
  apply (requestSchema_alike like method ctx'.path same).bind
  intro request request' alike
  rw [branchNames_like alike.schema]
  split
  · exact .refl _
  · apply Alike.forM id ?_ rfl
    rintro name _ _ _ rfl
    exact seatBranch_alike like paths slot name

theorem extractDelete_alike :
    Alike Eq (extractDelete task ctx operation) (extractDelete task' ctx' operation') := by
  have sent : operation.requestBody.isSome = operation'.requestBody.isSome := by
    simpa using congrArg Option.isSome same.requestBody
  unfold extractDelete
  apply Alike.ite sent
  · exact extractChange_alike like paths same .delete .delete
  · rw [paths.path, token_like like, singularTitle_like like, paths.module]
    apply (operationId_alike .delete _ same).bind_same
    exact fun id => .refl _

/-! ## Creating -/

omit same in
/-- A PUT creates on the same paths: what counts is whether the path around it has a POST. -/
theorem putCreates_like : putCreates task ctx = putCreates task' ctx' := by
  have table := congrArg Document.paths like.document
  have around : ∀ parent answers, (∀ item : PathItem, answers (item.arranged true) = answers item) →
      (task.document.paths.lookup parent).any answers =
        (task'.document.paths.lookup parent).any answers := by
    intro parent answers arranged
    have held := congrArg (List.lookup parent) table
    rw [show (task.document.arranged true).paths = arrangedTable _ _ from rfl,
      show (task'.document.arranged true).paths = arrangedTable _ _ from rfl,
      lookup_arrangedTable, lookup_arrangedTable] at held
    have answered := congrArg (Option.any answers) held
    simpa only [Option.any_map, Function.comp_def, arranged] using answered
  unfold putCreates
  rw [paths.documentPath, like.options]
  cases Text.cutAtLast? '/' ctx'.documentPath with
  | none => rfl
  | some cut =>
    obtain ⟨parent, last⟩ := cut
    dsimp only
    rw [around]
    intro item
    simp [PathItem.arranged]

omit same in
/-- The same method creates, with an operation that is alike. -/
theorem creator?_like : Option.Rel (fun creator creator' => creator.1 = creator'.1 ∧
    creator.2.Like creator'.2) (creator? task ctx) (creator? task' ctx') := by
  have post : ctx.item.post.map _ = ctx'.item.post.map _ := paths.item.operation? .post
  have put : ctx.item.put.map _ = ctx'.item.put.map _ := paths.item.operation? .put
  unfold creator?
  rw [putCreates_like like paths]
  obtain ⟨left, right⟩ | ⟨posted, posted', left, right, samePost⟩ := cases_of_map_eq post
  · rw [left, right]
    obtain ⟨left, right⟩ | ⟨sent, sent', left, right, samePut⟩ := cases_of_map_eq put
    · rw [left, right]
      exact .none
    · rw [left, right]
      dsimp only
      split
      · exact .some ⟨rfl, samePut⟩
      · exact .none
  · rw [left, right]
    exact .some ⟨rfl, samePost⟩

omit same in
theorem branchAnswer_alike (value : String) {response response' : Option Schema}
    (sameResponse : response.map (Schema.arranged true) = response'.map (Schema.arranged true)) :
    Alike (fun answer answer' => answer.map (Schema.arranged true) =
        answer'.map (Schema.arranged true)) (branchAnswer task ctx response value)
      (branchAnswer task' ctx' response' value) := by
  have references : (response.bind fun r => (discriminatorMapping r).lookup value) =
      response'.bind fun r => (discriminatorMapping r).lookup value := by
    obtain ⟨rfl, rfl⟩ | ⟨answer, answer', rfl, rfl, alike⟩ := cases_of_map_eq sameResponse
    · rfl
    · exact congrArg (List.lookup value) (discriminatorMapping_like alike)
  unfold branchAnswer
  rw [references, paths.path]
  split
  · apply (discriminatorTarget_alike like ctx'.path _).bind
    exact fun found found' alike => .pure (congrArg some alike.schema)
  · exact .pure sameResponse

end

end Infer

/-! ## Bodies in two documents -/

/-- The bodies of one resource in two documents: those of the request and the response, or if the
request has a discriminator, those of the components that one of its values means. -/
inductive PathContext.Counterparts (task task' : InferenceTask) (ctx ctx' : PathContext) :
    ResourceBodies → ResourceBodies → Prop where
  | whole {request request' : Schema} {response response' : Option Schema}
      (sends : ctx.Sends task request response) (sends' : ctx'.Sends task' request' response')
      (unbranched : discriminatorMapping request = []) :
      Counterparts task task' ctx ctx' (.whole request response) (.whole request' response')
  | branch {request request' : Schema} {response response' answer answer' : Option Schema}
      {value reference : String} {found found' : Lookup.Found}
      (sends : ctx.Sends task request response) (sends' : ctx'.Sends task' request' response')
      (member : (value, reference) ∈ discriminatorMapping request)
      (target : (Infer.discriminatorTarget task ctx.path reference).Yields found)
      (target' : (Infer.discriminatorTarget task' ctx'.path reference).Yields found')
      (answered : (Infer.branchAnswer task ctx response value).Yields answer)
      (answered' : (Infer.branchAnswer task' ctx' response' value).Yields answer') :
      Counterparts task task' ctx ctx' ⟨found.schema, answer, false⟩ ⟨found'.schema, answer', false⟩

/-- Where the documents create resources, the bodies list their properties in the same order, up to
that of free neighbours. -/
def InferenceTask.SameWalks (task task' : InferenceTask) : Prop :=
  ∀ ctx ctx' item item', task.Extracts ctx item → task'.Extracts ctx' item' →
    ctx.documentPath = ctx'.documentPath → ∀ bodies bodies',
      PathContext.Counterparts task task' ctx ctx' bodies bodies' →
        task.document.SameWalks bodies bodies'

theorem mergeAlternatives_arranged (keep : Bool) (request : Schema) :
    (mergeAlternatives request).arranged keep = mergeAlternatives (request.arranged keep) := by
  cases request
  simp [mergeAlternatives, Schema.arranged, arrangedList_eq]

theorem ResourceBodies.Like.whole {request request' : Schema} {response response' : Option Schema}
    (same : request.Like request')
    (answers : response.map (Schema.arranged true) = response'.map (Schema.arranged true)) :
    (ResourceBodies.whole request response).Like (.whole request' response') := by
  have merged : (mergeAlternatives request).Like (mergeAlternatives request') := by
    rw [Schema.Like, mergeAlternatives_arranged, mergeAlternatives_arranged,
      show request.arranged true = _ from same]
  unfold ResourceBodies.whole
  rw [same.isEmpty_oneOf]
  split
  · exact ⟨same, answers, rfl⟩
  · exact ⟨merged, answers, rfl⟩

namespace Infer

section

variable {task task' : InferenceTask} (like : task.Like task') {ctx ctx' : PathContext}
  (paths : ctx.Like ctx') (walks : ∀ bodies bodies',
    ctx.Counterparts task task' ctx' bodies bodies' → task.document.SameWalks bodies bodies')

include like paths walks

section

variable {request request' : Schema} {response response' : Option Schema}
  (sends : ctx.Sends task request response) (sends' : ctx'.Sends task' request' response')
  (answers : response.map (Schema.arranged true) = response'.map (Schema.arranged true))

include sends sends' answers

/-- The components that a value means make the same resource. -/
theorem createBranch_alike {entry : String × String}
    (member : entry ∈ discriminatorMapping request) :
    Alike Eq (createBranch task ctx response entry) (createBranch task' ctx' response' entry) := by
  obtain ⟨value, reference⟩ := entry
  have targets := discriminatorTarget_alike like ctx.path reference
  rw [show ctx.path = ctx'.path from paths.path] at targets
  unfold createBranch
  rw [paths.module, paths.path]
  apply targets.bind_reads (discriminatorTarget_reads ..) (discriminatorTarget_reads ..)
  intro found found' alike target target'
  apply (branchAnswer_alike like paths value answers).bind_reads (branchAnswer_reads ..)
    (branchAnswer_reads ..)
  intro answer answer' alikeAnswers answered answered'
  rw [← paths.path] at target
  have same : ResourceBodies.Like ⟨found.schema, answer, false⟩ ⟨found'.schema, answer', false⟩ :=
    ⟨alike.schema, alikeAnswers, rfl⟩
  have walked := walks _ _ (.branch sends sends' member target target' answered answered')
  exact gatherResource_alike like _ same walked _

theorem createResources_alike (title : String) (same : request.Like request') :
    Alike Eq (createResources task ctx title request response)
      (createResources task' ctx' title request' response') := by
  have whole : discriminatorMapping request = [] → Alike Eq
      (gatherResource task ⟨ctx.module, title⟩ (.whole request response) ctx.path)
      (gatherResource task' ⟨ctx'.module, title⟩ (.whole request' response') ctx'.path) := by
    intro unbranched
    rw [paths.module, paths.path]
    exact gatherResource_alike like _ (.whole same answers)
      (walks _ _ (.whole sends sends' unbranched)) _
  unfold createResources
  rw [← discriminatorMapping_like same]
  split
  · rename_i unbranched
    apply (whole unbranched).bind_same
    exact fun token => .pure rfl
  · apply Alike.mapM id ?_ rfl
    rintro entry member _ _ rfl
    exact createBranch_alike like paths walks sends sends' answers member

end

/-- A creation makes the same resources of bodies with the same order of properties. -/
theorem extractCreate_alike : Alike Eq (extractCreate task ctx) (extractCreate task' ctx') := by
  have creators := creator?_like like paths
  unfold extractCreate
  cases creates : creator? task ctx <;> cases creates' : creator? task' ctx' <;>
    rw [creates, creates'] at creators
  · exact .pure rfl
  · cases creators
  · cases creators
  · rename_i creator creator'
    obtain ⟨method, operation⟩ := creator
    obtain ⟨method', operation'⟩ := creator'
    obtain ⟨sameMethod, same⟩ : method = method' ∧ operation.Like operation' := by
      cases creators with
      | some related => exact related
    subst sameMethod
    have requests := requestSchema_alike like method ctx.path same
    dsimp only
    rw [singularTitle_like like, ← paths.path]
    apply (operationId_alike method _ same).bind_same
    intro title
    apply requests.bind_reads (requestSchema_reads ..) (requestSchema_reads ..)
    intro found found' alike sent sent'
    apply (createdSchema?_alike like same).bind_reads (createdSchema?_reads ..)
      (createdSchema?_reads ..)
    intro answer answer' alikeAnswers answered answered'
    apply (pathParameters_alike like paths.item same).bind_same
    intro parameters
    have sends : ctx.Sends task found.schema (answer.map (·.schema)) :=
      ⟨method, operation, found, answer, creates, sent, answered, rfl, rfl⟩
    have sends' : ctx'.Sends task' found'.schema (answer'.map (·.schema)) :=
      ⟨method, operation', found', answer', creates', paths.path ▸ sent', answered', rfl, rfl⟩
    have answers : (answer.map (·.schema)).map (Schema.arranged true) =
        (answer'.map (·.schema)).map (Schema.arranged true) := by
      cases alikeAnswers with
      | none => rfl
      | some alike => exact congrArg some alike.schema
    apply (createResources_alike like paths walks sends sends' answers _ alike.schema).bind_same
    exact fun tokens => .refl _

/-! ## Paths -/

theorem extractOperations_alike :
    Alike Eq (extractOperations task ctx) (extractOperations task' ctx') := by
  unfold extractOperations
  apply (Alike.optionForM (Operation.arranged true) ?_ (paths.item.operation? .get)).bind_same
  intro _
  apply (Alike.optionForM (Operation.arranged true) ?_ (paths.item.operation? .patch)).bind_same
  intro _
  apply (Alike.optionForM (Operation.arranged true) ?_ (paths.item.operation? .put)).bind_same
  intro _
  apply (Alike.optionForM (Operation.arranged true) ?_ (paths.item.operation? .delete)).bind_same
  intro _
  · exact extractCreate_alike like paths walks
  · exact fun _ _ same => extractDelete_alike like paths same
  · exact fun _ _ same => extractChange_alike like paths same .put .put
  · exact fun _ _ same => extractChange_alike like paths same .patch .update
  · exact fun _ _ same => extractGet_alike like paths same

end

variable {task task' : InferenceTask} (like : task.Like task') (walks : task.SameWalks task')

include like walks

theorem extractPath_alike {entry entry' : String × PathItem}
    (listed : entry ∈ (SortedMap.ofList task.document.paths).toList)
    (listed' : entry' ∈ (SortedMap.ofList task'.document.paths).toList)
    (same : SortedMap.onValue (PathItem.arranged true) entry =
      SortedMap.onValue (PathItem.arranged true) entry') :
    Alike Eq (extractPath task entry) (extractPath task' entry') := by
  obtain ⟨documentPath, item⟩ := entry
  obtain ⟨documentPath', item'⟩ := entry'
  obtain ⟨rfl, sameItem⟩ := Prod.mk.inj same
  have left : (withoutExcluded task.options.exclusions documentPath item).Like
      (withoutExcluded task'.options.exclusions documentPath item') := by
    rw [PathItem.Like, withoutExcluded_arranged, withoutExcluded_arranged, like.options, sameItem]
  unfold extractPath
  dsimp only
  rw [left.hasOperations]
  split
  · exact .pure rfl
  · rename_i answers
    apply (normalizedPath_alike like documentPath left).bind_reads (normalizedPath_reads ..)
      (normalizedPath_reads ..)
    rintro ⟨path, changed⟩ ⟨path', changed'⟩ ⟨samePath, alike⟩ normalized normalized'
    cases samePath
    have answered : (withoutExcluded task.options.exclusions documentPath item).hasOperations =
        true := by simpa [left.hasOperations] using answers
    have answered' : (withoutExcluded task'.options.exclusions documentPath item').hasOperations =
        true := by simpa using answers
    have extracts : task.Extracts ⟨path, documentPath,
        Naming.moduleOf path task'.options.useParentAsModule, changed⟩ item :=
      ⟨(SortedMap.mem_toList_iff ..).1 listed, answered, normalized, by rw [like.options]⟩
    have extracts' : task'.Extracts ⟨path, documentPath,
        Naming.moduleOf path task'.options.useParentAsModule, changed'⟩ item' :=
      ⟨(SortedMap.mem_toList_iff ..).1 listed', answered', normalized', rfl⟩
    dsimp only
    rw [like.options]
    apply (Alike.refl (addModule _)).bind_same
    intro _
    have walked := walks _ _ _ _ extracts extracts' rfl
    exact extractOperations_alike like ⟨rfl, rfl, rfl, alike⟩ walked

theorem extractPaths_alike : Alike Eq (extractPaths task) (extractPaths task') := by
  have table : arrangedTable (PathItem.arranged true) task.document.paths =
      arrangedTable (PathItem.arranged true) task'.document.paths :=
    (congrArg Document.paths like.document :)
  have arranged := SortedMap.toList_ofList_map fun _ : String => PathItem.arranged true
  apply Alike.forM (SortedMap.onValue (PathItem.arranged true))
  · intro entry listed entry' listed' same
    exact extractPath_alike like walks listed listed' same
  · have sorted := congrArg (fun entries => (SortedMap.ofList entries).toList) table
    exact (arranged task.document.paths).symm.trans (sorted.trans (arranged task'.document.paths))

end Infer

/-- Two tasks with the same options, whose documents differ only in the order of properties, give
the same extraction or both fail, if two orders are kept: the first property of an open schema stays
the first one, and the bodies that resources are made of list their properties in the same order, up
to scalars with SDK names of their own. -/
theorem extract_toOption_of_like {task task' : InferenceTask} (like : task.Like task')
    (walks : task.SameWalks task') : (extract task).toOption = (extract task').toOption := by
  have paths := (Infer.extractPaths_alike like walks).outcomes (Session.new task.options)
  unfold extract
  rw [← like.options]
  rcases paths with ⟨_, _, s, left, right, _⟩ | ⟨e, s, e', s', left, right⟩
  · rw [left, right]
  · rw [left, right]
    rfl

/-- A property that is a text. -/
def textNamed (name : String) : String × SchemaOrRef :=
  (name, .item { type := some (.single .string) })

/-- A property that is a whole number. -/
def countNamed (name : String) : String × SchemaOrRef :=
  (name, .item { type := some (.single .integer) })

/-- A body that takes over the members of the component `Item`. -/
def sentItem (sent : List (String × SchemaOrRef)) : Schema := .object sent [.to "Item"]

/-- The path that creates a book. -/
def bookPath (sent : List (String × SchemaOrRef)) : String × PathItem :=
  ("/books", .creating "createBook" (.item (sentItem sent)))

/-- A document in which a book is created. -/
def bookCreated (inherited : List String) (sent : List (String × SchemaOrRef)) : Document :=
  .having [("Item", .item (.texts inherited))] [bookPath sent]

/-- The body is all that is sent to create a book. -/
theorem bookCreated_sends {inherited : List String} {sent : List (String × SchemaOrRef)}
    {ctx : PathContext} {item : PathItem} {request : Schema} {response : Option Schema}
    (extracts : (bookCreated inherited sent).task.Extracts ctx item)
    (sends : ctx.Sends (bookCreated inherited sent).task request response) :
    request = sentItem sent ∧ response = none := by
  obtain ⟨method, operation, found, answer, creates, isSent, answered, rfl, rfl⟩ := sends.creates
  have listed : (ctx.documentPath, item) ∈ [bookPath sent] :=
    (SortedMap.mem_toList_iff ..).2 extracts.listed
  obtain ⟨path, rfl⟩ := Prod.mk.inj (List.mem_singleton.1 listed)
  have normalized := extracts.normalized
  rw [path] at normalized
  have same : (ctx.path, ctx.item) = bookPath sent := normalized.unique fun _ => rfl
  rw [Infer.creator?, (Prod.mk.inj same).2] at creates
  cases creates
  have whole : found = ⟨none, sentItem sent⟩ := isSent.unique fun _ => rfl
  have unanswered : answer = none := answered.unique fun _ => rfl
  rw [whole, unanswered]
  exact ⟨rfl, rfl⟩

/-- The creation of a book. -/
def bookInOrder : InferenceTask :=
  (bookCreated ["isbn", "shelf"] [textNamed "title", countNamed "pages"]).task

/-- The creation of a book with the members of the component and of the body in another order. -/
def bookReversed : InferenceTask :=
  (bookCreated ["shelf", "isbn"] [countNamed "pages", textNamed "title"]).task

/-- Members of components and scalars in a body may be listed in another order. -/
theorem bookCreated_reversed : bookInOrder.Like bookReversed ∧ bookInOrder.SameWalks bookReversed ∧
    (extract bookInOrder).toOption = (extract bookReversed).toOption ∧
      (extract bookInOrder).isOk = true := by
  have like : bookInOrder.Like bookReversed := ⟨rfl, rfl⟩
  have walks : bookInOrder.SameWalks bookReversed := by
    intro ctx ctx' item item' extracts extracts' _ bodies bodies' counterparts
    cases counterparts with
    | whole sends sends' _ =>
      obtain ⟨rfl, rfl⟩ := bookCreated_sends extracts sends
      obtain ⟨rfl, rfl⟩ := bookCreated_sends extracts' sends'
      refine ⟨.swap ⟨by decide, .inl ⟨⟨none, _⟩, rfl, rfl⟩⟩ [], nofun⟩
    | branch sends _ member _ _ _ _ =>
      obtain ⟨rfl, rfl⟩ := bookCreated_sends extracts sends
      cases member
  exact ⟨like, walks, extract_toOption_of_like like walks, by decide +kernel⟩

/-! ## Orders that matter -/

/-- A document in which a food is created, with a component that has the name that a property `bar`
gives its type. -/
def foodCreated (sent : List (String × SchemaOrRef)) : Document :=
  .having [("BarProperties", .item (.texts ["name"]))]
    [("/foods", .creating "createFood" (.item (.object sent [])))]

/-- A property with an object of its own. -/
def barInPlace : String × SchemaOrRef := ("bar", .item (.texts ["size"]))

/-- A property that is the component. -/
def bazReferred : String × SchemaOrRef := ("baz", .to "BarProperties")

/-- An open object with some properties. -/
def Schema.openObject (properties : List (String × SchemaOrRef)) : Schema :=
  { Schema.object properties [] with additionalProperties := some (.allowed true) }

/-- A document in which a food with labels is read. -/
def foodLabelled (labels : List (String × SchemaOrRef)) : Document :=
  .having [("Food", .item (.object [("labels", .item (.openObject labels))] []))]
    [("/foods", .reading "getFood" (.to "Food"))]

/-- The type of the labels of a food. -/
def Extraction.labels? (e : Extraction) : Option TypeSpec :=
  match e.package.types.get? "pkg:foods:Food" with
  | some (.object food) => (food.properties.get? "labels").map (·.type)
  | _ => none

/-- In a body that creates, the order decides whether an object of its own takes a token before the
component that the token is named after, which then fails; and the first property of an open object
is the type of all. -/
theorem rearranged_differ :
    (foodCreated [barInPlace, bazReferred]).arranged false =
        (foodCreated [bazReferred, barInPlace]).arranged false ∧
      (extract (foodCreated [barInPlace, bazReferred]).task).isOk = false ∧
      (extract (foodCreated [bazReferred, barInPlace]).task).isOk = true ∧
      (foodLabelled [textNamed "a", countNamed "b"]).arranged false =
        (foodLabelled [countNamed "b", textNamed "a"]).arranged false ∧
      (extract (foodLabelled [textNamed "a", countNamed "b"]).task).toOption.map
        Extraction.labels? = some (some (.map .text)) ∧
      (extract (foodLabelled [countNamed "b", textNamed "a"]).task).toOption.map
        Extraction.labels? = some (some (.map (.primitive .integer))) :=
  ⟨rfl, by decide +kernel, by decide +kernel, rfl, by decide +kernel, by decide +kernel⟩

end ResourceInference
