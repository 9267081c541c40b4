import ResourceInference.Proofs.NormalForms

/-!
# What steps are put together from

The tables beside a package are written by a handful of primitive steps: a name is recorded, a slot
is given its path, an auto-name is set, a module gets its namespace. All other primitive steps work
beside the tables: they neither read nor change them (`Infer.BesideTables`). A whole run is put
together from these in a row (`extractPaths_composed`), so what every primitive step keeps is kept
by a run, and a name is never recorded but with the SDK name that is derived from it.
-/

set_option autoImplicit false

namespace ResourceInference.Infer

variable {α β : Type}

/-! ## Beside the tables -/

/-- The step neither reads nor changes the tables beside the package: with other tables it does the
same, and leaves those. -/
structure BesideTables (x : Infer α) : Prop where
  same : ∀ s metadata, x.run.run { s with metadata } =
    ((x.run.run s).1, { (x.run.run s).2 with metadata })

namespace BesideTables

theorem pure (a : α) : BesideTables (pure a : Infer α) := ⟨fun _ _ => rfl⟩

theorem throw (e : InferenceError) : BesideTables (throw e : Infer α) := ⟨fun _ _ => rfl⟩

theorem bind {x : Infer α} {f : α → Infer β} (hx : BesideTables x)
    (hf : ∀ a, BesideTables (f a)) : BesideTables (x >>= f) := by
  constructor
  intro s metadata
  rw [run_bind, run_bind, hx.same s metadata]
  rcases x.run.run s with ⟨e | a, s'⟩
  · rfl
  · exact (hf a).same s' metadata

theorem tryCatch {x : Infer α} {handle : InferenceError → Infer α} (hx : BesideTables x)
    (handled : ∀ e, BesideTables (handle e)) : BesideTables (tryCatch x handle) := by
  constructor
  intro s metadata
  rw [run_tryCatch, run_tryCatch, hx.same s metadata]
  rcases x.run.run s with ⟨e | a, s'⟩
  · exact (handled e).same s' metadata
  · rfl

/-- What is read of a session may be anything but its tables. -/
theorem get {f : Session → Infer β} (same : ∀ s metadata, f { s with metadata } = f s)
    (hf : ∀ s, BesideTables (f s)) : BesideTables (get >>= f) := by
  constructor
  intro s metadata
  change (f { s with metadata }).run.run { s with metadata } =
    (((f s).run.run s).1, { ((f s).run.run s).2 with metadata })
  rw [same s metadata]
  exact (hf s).same s metadata

end BesideTables

/-- What only looks things up does so beside the tables. -/
theorem Reads.besideTables {x : Infer α} (h : Reads x) : BesideTables x := by
  obtain ⟨result, ran⟩ := h
  constructor
  intro s metadata
  rw [ran, ran]

theorem type?_besideTables (token : String) : BesideTables (type? token) := ⟨fun _ _ => rfl⟩

theorem isVisited_besideTables (token : String) : BesideTables (isVisited token) := ⟨fun _ _ => rfl⟩

theorem markVisited_besideTables (token : String) : BesideTables (markVisited token) :=
  ⟨fun _ _ => rfl⟩

theorem unmarkVisited_besideTables (token : String) : BesideTables (unmarkVisited token) :=
  ⟨fun _ _ => rfl⟩

theorem note_besideTables (event : Event) : BesideTables (note event) := ⟨fun _ _ => rfl⟩

theorem modifyPackage_besideTables (f : Package → Package) : BesideTables (modifyPackage f) :=
  ⟨fun _ _ => rfl⟩

theorem register_besideTables (token : String) (type : NamedType) :
    BesideTables (register token type) := by
  apply BesideTables.get (fun _ _ => rfl)
  intro s
  split
  · exact .pure false
  · exact (modifyPackage_besideTables _).bind fun _ => .pure true

theorem removeType_besideTables (token : String) : BesideTables (removeType token) := by
  apply (unmarkVisited_besideTables token).bind
  intro _
  apply (modifyPackage_besideTables _).bind
  exact fun _ => note_besideTables _

theorem moveType_besideTables (source target : String) :
    BesideTables (moveType source target) := by
  apply (unmarkVisited_besideTables source).bind
  intro _
  apply (type?_besideTables source).bind
  intro type
  cases type with
  | none => exact .pure ()
  | some type => exact (modifyPackage_besideTables _).bind fun _ => note_besideTables _

theorem search_besideTables (task : InferenceTask) (scope : Scope) (schema : Schema)
    (bound : Nat) : ∀ name, BesideTables (EnumSearch.search task scope schema name bound) := by
  induction bound with
  | zero => exact fun _ => .throw _
  | succ bound ih =>
      intro name
      unfold EnumSearch.search
      dsimp only
      split
      · exact .pure none
      · apply (type?_besideTables _).bind
        intro found
        split
        · exact (register_besideTables ..).bind fun _ => .pure _
        · exact ih _
        · split
          · exact .pure _
          · split
            · exact .throw _
            · exact ih _

/-- The search for an enum is beside the tables, also where it fails and is caught. -/
theorem enumOrNone_besideTables (task : InferenceTask) (scope : Scope) (parent : String)
    (schema : Schema) : BesideTables (enumOrNone task scope parent schema) := by
  have searches : BesideTables (enumType task scope parent schema) := by
    apply BesideTables.get (fun _ _ => rfl)
    exact fun s => search_besideTables ..
  unfold enumOrNone
  split
  · exact .pure none
  · apply searches.tryCatch
    intro e
    split
    · exact .pure none
    · exact .throw _

theorem registerGenerated_besideTables (task : InferenceTask) (scope : Scope) (name : String)
    (type : NamedType) : BesideTables (registerGenerated task scope name type) := by
  apply (type?_besideTables _).bind
  intro found
  cases found with
  | none => exact (register_besideTables ..).bind fun _ => .pure _
  | some existing =>
      dsimp only
      split
      · exact .pure _
      · apply (type?_besideTables _).bind
        intro found
        cases found with
        | none => exact (register_besideTables ..).bind fun _ => .pure _
        | some existing =>
            dsimp only
            split
            · exact .pure _
            · exact .throw _

theorem registerComponent_besideTables (token : String) (type : NamedType) :
    BesideTables (registerComponent token type) := by
  apply (type?_besideTables _).bind
  intro found
  cases found with
  | none => exact (register_besideTables ..).bind fun _ => .pure _
  | some existing =>
      dsimp only
      split
      · exact .pure _
      · exact .throw _

theorem takeObject_besideTables (resolved : Resolved) : BesideTables (takeObject resolved) := by
  unfold takeObject
  split
  · exact .pure none
  · apply (note_besideTables _).bind
    intro _
    apply (type?_besideTables _).bind
    intro type
    dsimp only
    split
    · exact (removeType_besideTables _).bind fun _ => .pure _
    · exact .pure _

/-! ## Composition -/

/-- The step is put together from steps beside the tables and from those that write to them. -/
inductive Composed : {α : Type} → Infer α → Prop where
  | beside {α : Type} {x : Infer α} (h : BesideTables x) : Composed x
  | bind {α β : Type} {x : Infer α} {f : α → Infer β} (hx : Composed x)
      (hf : ∀ a, Composed (f a)) : Composed (x >>= f)
  | recordName (wire : String) : Composed (recordName wire (Naming.sdkName wire))
  | recordPathParameter (wire : String) :
      Composed (recordPathParameter wire (Naming.sdkName wire))
  | seat (token : String) (slot : CrudSlot) (path : String) : Composed (seat token slot path)
  | setAutoName (token property : String) : Composed (setAutoName token property)
  | addModule (module : String) : Composed (addModule module)

namespace Composed

theorem pure (a : α) : Composed (pure a : Infer α) := .beside (.pure a)

theorem throw (e : InferenceError) : Composed (throw e : Infer α) := .beside (.throw e)

theorem reads {x : Infer α} (h : Reads x) : Composed x := .beside h.besideTables

theorem foldlM {f : β → α → Infer β} (step : ∀ b a, Composed (f b a)) (items : List α) :
    ∀ b, Composed (items.foldlM f b) := by
  induction items with
  | nil => exact fun b => .pure b
  | cons a rest ih =>
      intro b
      rw [List.foldlM_cons]
      exact (step b a).bind ih

theorem mapM {f : α → Infer β} (step : ∀ a, Composed (f a)) (items : List α) :
    Composed (items.mapM f) := by
  induction items with
  | nil => exact .pure []
  | cons a rest ih =>
      rw [List.mapM_cons]
      exact (step a).bind fun b => ih.bind fun bs => .pure (b :: bs)

theorem forM {f : α → Infer Unit} (step : ∀ a, Composed (f a)) (items : List α) :
    Composed (items.forM f) := by
  induction items with
  | nil => exact .pure ()
  | cons a rest ih => exact (step a).bind fun _ => ih

theorem optionForM {f : α → Infer Unit} (step : ∀ a, Composed (f a)) (item : Option α) :
    Composed (item.forM f) := by
  cases item with
  | none => exact .pure ()
  | some a => exact step a

end Composed

/-! ## Types of schemas -/

variable (task : InferenceTask)

theorem find_composed (part : SchemaOrRef) : Composed (find task part) :=
  .reads (.ofLookup _)

section

variable {resolve : Resolver} (inside : ∀ scope parent found, Composed (resolve scope parent found))
  (scope : Scope) (parent : String)

include inside

theorem mergePart_composed (members : Members) (part : SchemaOrRef) :
    Composed (mergePart task resolve scope parent members part) := by
  apply (find_composed task part).bind
  intro found
  split
  · exact .pure members
  · apply (inside scope parent found).bind
    intro resolved
    apply (Composed.beside (takeObject_besideTables resolved)).bind
    intro object
    cases object with
    | none => exact .pure members
    | some object => exact .pure _

theorem mergedMembers_composed (parts : List SchemaOrRef) :
    Composed (mergedMembers task resolve scope parent parts) :=
  .foldlM (mergePart_composed task inside scope parent) parts {}

theorem propertyTypeOf_composed (mapName typeName : String) (found : Lookup.Found) :
    Composed (propertyTypeOf task resolve scope mapName typeName found) := by
  unfold propertyTypeOf
  split
  · apply (find_composed task _).bind
    exact fun values => (inside scope mapName values).bind fun _ => .pure _
  · exact (inside scope typeName found).bind fun _ => .pure _

theorem addProperty_composed (properties : PropertyMap) (entry : String × SchemaOrRef) :
    Composed (addProperty task resolve scope parent properties entry) := by
  apply (find_composed task entry.2).bind
  intro found
  apply (Composed.recordName entry.1).bind
  intro _
  exact (propertyTypeOf_composed task inside scope _ _ found).bind fun _ => .pure _

theorem objectType_composed (name : String) (schema : Schema) :
    Composed (objectType task resolve scope name schema) := by
  unfold objectType objectMembers
  apply Composed.bind
  · apply (Composed.foldlM (addProperty_composed task inside scope name) _ ∅).bind
    intro properties
    apply (mergedMembers_composed task inside scope name schema.allOf).bind
    intro merged
    apply Composed.bind
    · apply Composed.foldlM
      intro required wire
      unfold addRequired
      dsimp only
      split
      · exact (Composed.recordName wire).bind fun _ => .pure _
      · exact .pure required
    · exact fun required => (Composed.beside (note_besideTables _)).bind fun _ => .pure _
  · exact fun members => .pure _

theorem variantTypes_composed (parts : List SchemaOrRef) :
    Composed (variantTypes task resolve scope parent parts) := by
  apply Composed.mapM
  intro part
  apply (find_composed task part).bind
  exact fun found => (inside scope parent found).bind fun _ => .pure _

theorem unionType_composed (schema : Schema) :
    Composed (unionType task resolve scope parent schema) :=
  (variantTypes_composed task inside scope parent schema.oneOf).bind fun _ => .pure _

theorem declaredType_composed (schema : Schema) (type : SchemaType) :
    Composed (declaredType task resolve scope parent schema type) := by
  cases type with
  | object =>
      simp only [declaredType, mapType]
      split
      · apply (find_composed task _).bind
        exact fun values => (inside scope parent values).bind fun _ => .pure _
      · exact .pure _
  | array =>
      simp only [declaredType, arrayType]
      split
      · apply (find_composed task _).bind
        exact fun items => (inside scope _ items).bind fun _ => .pure _
      · exact .pure _
  | null => exact .throw _
  | integer | string | boolean | number => exact .pure _

theorem unnamedType_composed (schema : Schema) :
    Composed (unnamedType task resolve scope parent schema) := by
  unfold unnamedType
  split
  · exact (variantTypes_composed task inside scope parent _).bind fun _ => .pure _
  · exact (declaredType_composed task inside scope parent schema _).bind fun _ => .pure _
  · exact (find_composed task _).bind fun found => inside scope parent found
  · exact .throw _

theorem inlineType_composed (schema : Schema) :
    Composed (inlineType task resolve scope parent schema) := by
  have registers := fun name type =>
    Composed.beside (registerGenerated_besideTables task scope name type)
  unfold inlineType
  split
  · exact (objectType_composed task inside scope _ schema).bind fun type => registers _ type
  split
  · exact unionType_composed task inside scope parent schema
  split
  · exact (mergedMembers_composed task inside scope parent schema.allOf).bind
      fun members => registers _ _
  · apply (Composed.beside (enumOrNone_besideTables task scope parent schema)).bind
    intro found
    cases found with
    | some resolved => exact .pure resolved
    | none => exact unnamedType_composed task inside scope parent schema

theorem enterComponent_composed (component : String) (schema : Schema) :
    Composed (enterComponent task resolve scope component schema) := by
  have notes := fun event => Composed.beside (note_besideTables event)
  apply (notes _).bind
  intro _
  apply (Composed.beside (isVisited_besideTables _)).bind
  intro visited
  split
  · exact .pure _
  · apply (Composed.beside (markVisited_besideTables _)).bind
    intro _
    apply (notes _).bind
    intro _
    apply (objectType_composed task inside scope _ schema).bind
    intro type
    apply (Composed.beside (registerComponent_besideTables _ type)).bind
    intro resolved
    exact (notes _).bind fun _ => .pure resolved

theorem typeOf_composed (found : Lookup.Found) :
    Composed (typeOf task resolve scope parent found) := by
  unfold typeOf componentType
  split
  · split
    · exact inlineType_composed task inside scope parent found.schema
    dsimp only
    split
    · split
      · exact unionType_composed task inside scope _ found.schema
      split
      · exact unnamedType_composed task inside scope parent found.schema
      · exact enterComponent_composed task inside scope _ found.schema
    · exact enterComponent_composed task inside scope _ found.schema
  · exact inlineType_composed task inside scope parent found.schema

end

/-- The type of a schema, down to a depth: by induction on the depth. -/
theorem resolver_composed (depth : Nat) : ∀ scope parent found,
    Composed (resolver task depth scope parent found) := by
  induction depth with
  | zero => exact fun _ _ _ => .throw _
  | succ depth ih => exact typeOf_composed task ih

theorem propertyType_composed (scope : Scope) (parent : String) (found : Lookup.Found) :
    Composed (propertyType task scope parent found) :=
  resolver_composed task _ scope parent found

/-! ## Resources -/

section

variable (scope : Scope)

theorem bodyProperty_composed (entry : String × SchemaOrRef) :
    Composed (bodyProperty task scope entry) := by
  apply (find_composed task entry.2).bind
  intro found
  apply Composed.bind
  · exact (propertyTypeOf_composed task (propertyType_composed task) scope _ _ found).bind
      fun _ => .pure _
  · exact fun property => (Composed.recordName entry.1).bind fun _ => .pure _

theorem gatherRequestProperty_composed (draft : ResourceDraft) (entry : String × SchemaOrRef) :
    Composed (gatherRequestProperty task scope draft entry) :=
  (bodyProperty_composed task scope entry).bind fun _ => .pure _

theorem gatherAnswer_composed (draft : ResourceDraft) (response : Option Schema) :
    Composed (gatherAnswer task scope draft response) := by
  cases response with
  | none => exact .pure draft
  | some response =>
      apply (mergedMembers_composed task (propertyType_composed task) scope _ _).bind
      intro merged
      apply Composed.foldlM
      exact fun _ entry => (bodyProperty_composed task scope entry).bind fun _ => .pure _

theorem gatherRequiredInput_composed (token : String) (request : Schema) (draft : ResourceDraft)
    (wire : String) : Composed (gatherRequiredInput task token request draft wire) := by
  unfold gatherRequiredInput
  split
  · exact .pure draft
  · apply (find_composed task _).bind
    intro found
    split
    · exact .pure draft
    split
    · exact (Composed.setAutoName token _).bind fun _ => .pure draft
    · exact .pure _

theorem gatherPart_composed (stripRequired : Bool) (draft : ResourceDraft) (part : SchemaOrRef) :
    Composed (gatherPart task scope stripRequired draft part) := by
  apply (find_composed task part).bind
  intro found
  split
  · exact .pure draft
  · apply (propertyType_composed task scope _ found).bind
    intro resolved
    apply (Composed.beside (takeObject_besideTables resolved)).bind
    intro object
    cases object with
    | none => exact .pure draft
    | some object => exact .pure _

theorem gatherDraft_composed (token : String) (bodies : ResourceBodies) :
    Composed (gatherDraft task scope token bodies) := by
  apply (Composed.foldlM (gatherRequestProperty_composed task scope) _ _).bind
  intro draft
  apply (gatherAnswer_composed task scope draft bodies.response).bind
  intro draft
  apply (Composed.foldlM (gatherRequiredInput_composed task token bodies.request) _ draft).bind
  intro draft
  apply Composed.bind
  · apply Composed.foldlM
    exact fun draft wire => (Composed.recordName wire).bind fun _ => .pure _
  · exact fun draft => .foldlM (gatherPart_composed task scope _) _ draft

theorem putResource_composed (token : String) (resource : ResourceSpec) :
    Composed (putResource token resource) := .beside (modifyPackage_besideTables _)

theorem gatherResource_composed (bodies : ResourceBodies) (path : String) :
    Composed (gatherResource task scope bodies path) := by
  apply (gatherDraft_composed task scope _ bodies).bind
  intro draft
  apply (Composed.seat _ .create path).bind
  intro _
  exact (putResource_composed ..).bind fun _ => .pure _

theorem pathParameters_composed (item : PathItem) (operation : Operation) :
    Composed (pathParameters task item operation) := by
  apply Composed.bind
  · apply Composed.foldlM
    intro properties entry
    apply (Composed.reads (.ofLookup _)).bind
    intro parameter
    split
    · exact (Composed.recordPathParameter parameter.name).bind fun _ => .pure _
    · exact .pure properties
  · exact fun properties => .pure _

theorem addPathParameters_composed (token : String) (parameters : ObjectType) :
    Composed (addPathParameters token parameters) := by
  apply Composed.beside
  apply BesideTables.get (fun _ _ => rfl)
  intro s
  split
  · exact modifyPackage_besideTables _
  · exact .pure ()

end

/-! ## Functions -/

section

variable (scope : Scope) (item : PathItem) (operation : Operation) (name : String)

theorem getFunction_composed (returns : Option Lookup.Found) :
    Composed (getFunction task scope item operation name returns) := by
  apply (pathParameters_composed task item operation).bind
  intro inputs
  apply Composed.bind
  · cases returns with
    | none => exact .pure none
    | some found => exact (propertyType_composed task scope _ found).bind fun _ => .pure _
  · exact fun result => .pure _

theorem listFunction_composed (returns : Lookup.Found) :
    Composed (listFunction task scope item operation name returns) := by
  apply (pathParameters_composed task item operation).bind
  intro inputs
  apply (propertyType_composed task scope _ returns).bind
  intro resolved
  apply Composed.bind
  · unfold renameListType
    dsimp only
    split
    · exact (Composed.beside (moveType_besideTables ..)).bind fun _ => .pure _
    · exact .pure _
  · exact fun type => .pure _

end

/-! ## Operations -/

section

variable (ctx : PathContext)

theorem addReadFunction_composed (name : String) (function : FunctionSpec) :
    Composed (addReadFunction task ctx name function) := by
  apply (Composed.seat _ .read ctx.path).bind
  exact fun _ => .beside (modifyPackage_besideTables _)

theorem extractRead_composed (operation : Operation) (title : String) (returns : Lookup.Found) :
    Composed (extractRead task ctx operation title returns) := by
  apply (Composed.seat _ .read ctx.path).bind
  intro _
  apply (getFunction_composed task _ ctx.item operation _ _).bind
  exact fun function => addReadFunction_composed task ctx _ function

theorem extractGet_composed (operation : Operation) :
    Composed (extractGet task ctx operation) := by
  apply (Composed.reads (operationId_reads ..)).bind
  intro id
  apply (Composed.reads (returnedSchema?_reads ..)).bind
  intro returns
  cases returns with
  | none =>
      apply (getFunction_composed task _ ctx.item operation _ _).bind
      exact fun function => addReadFunction_composed task ctx _ function
  | some returns =>
      dsimp only
      split
      · apply (listFunction_composed task _ ctx.item operation _ returns).bind
        exact fun function => addReadFunction_composed task ctx _ function
      split
      · exact extractRead_composed task ctx operation _ returns
      · apply Composed.forM
        intro entry
        apply (Composed.reads (discriminatorTarget_reads ..)).bind
        exact fun branch => extractRead_composed task ctx operation _ branch

theorem extractChange_composed (method : Method) (slot : CrudSlot) (operation : Operation) :
    Composed (extractChange task ctx method slot operation) := by
  apply (Composed.reads (operationId_reads ..)).bind
  intro id
  apply (Composed.reads (requestSchema_reads ..)).bind
  intro request
  split
  · exact .seat ..
  · apply Composed.forM
    intro name
    apply (Composed.reads (discriminatorTarget_reads ..)).bind
    exact fun branch => .seat ..

theorem extractDelete_composed (operation : Operation) :
    Composed (extractDelete task ctx operation) := by
  unfold extractDelete
  split
  · exact extractChange_composed task ctx .delete .delete operation
  · exact (Composed.reads (operationId_reads ..)).bind fun id => .seat ..

theorem createResources_composed (title : String) (request : Schema) (response : Option Schema) :
    Composed (createResources task ctx title request response) := by
  unfold createResources
  split
  · exact (gatherResource_composed task _ _ ctx.path).bind fun _ => .pure _
  · apply Composed.mapM
    intro entry
    apply (Composed.reads (discriminatorTarget_reads ..)).bind
    intro branch
    apply (Composed.reads (branchAnswer_reads ..)).bind
    exact fun answer => gatherResource_composed task _ _ ctx.path

theorem extractCreate_composed : Composed (extractCreate task ctx) := by
  unfold extractCreate
  split
  · exact .pure ()
  · apply (Composed.reads (operationId_reads ..)).bind
    intro id
    apply (Composed.reads (requestSchema_reads ..)).bind
    intro request
    apply (Composed.reads (createdSchema?_reads ..)).bind
    intro response
    apply (pathParameters_composed task ctx.item _).bind
    intro parameters
    apply (createResources_composed task ctx _ _ _).bind
    exact fun tokens => .forM (fun token => addPathParameters_composed token parameters) tokens

theorem extractOperations_composed : Composed (extractOperations task ctx) := by
  apply (Composed.optionForM (extractGet_composed task ctx) ctx.item.get).bind
  intro _
  apply (Composed.optionForM (extractChange_composed task ctx .patch .update) ctx.item.patch).bind
  intro _
  apply (Composed.optionForM (extractChange_composed task ctx .put .put) ctx.item.put).bind
  intro _
  apply (Composed.optionForM (extractDelete_composed task ctx) ctx.item.delete).bind
  exact fun _ => extractCreate_composed task ctx

end

theorem extractPath_composed (entry : String × PathItem) : Composed (extractPath task entry) := by
  unfold extractPath
  dsimp only
  split
  · exact .pure ()
  · apply (Composed.reads (normalizedPath_reads ..)).bind
    intro normalized
    exact (Composed.addModule _).bind fun _ => extractOperations_composed task _

/-- A run is put together from steps beside the tables and from those that write to them. -/
theorem extractPaths_composed : Composed (extractPaths task) :=
  .forM (extractPath_composed task) _

end ResourceInference.Infer
