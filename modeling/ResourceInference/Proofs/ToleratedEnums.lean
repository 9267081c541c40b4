import ResourceInference.Proofs.Runs
import ResourceInference.Proofs.TaskView

/-!
# Tolerating duplicate enums

Two enums with different members may want one token. The strict policy ends the run there; the
tolerant one goes on, in the session that the search for the enum has left, and gives the second
schema its scalar type. Nothing else depends on the policy: a tolerant run never fails for a
duplicate enum, and if the strict run does not either, the two end alike
(`extract_toleratingEnums`).

The runs are compared step by step. `Tolerates x y` relates a tolerant step to a strict one. It is
kept by all ways to put steps together, and the search for an enum is the only place where its two
sides differ (`enumOrNone_tolerates`).
-/

set_option autoImplicit false

namespace ResourceInference

namespace InferenceTask

/-- The task under a policy for duplicate enums. -/
def under (task : InferenceTask) (policy : DuplicateEnumPolicy) : InferenceTask :=
  { task with options := { task.options with duplicateEnums := policy } }

/-- The task in which a duplicate enum ends the run. -/
def strict (task : InferenceTask) : InferenceTask := task.under .fail

/-- The task in which a duplicate enum counts as none. -/
def tolerant (task : InferenceTask) : InferenceTask := task.under .warn

end InferenceTask

namespace Infer

variable {α β : Type}

/-- The step, taken in the session, does not fail for two enums that want one token. -/
def Clear (x : Infer α) (s : Session) : Prop :=
  Ends x s (fun _ _ => True) fun e _ => ¬ e.IsDuplicateEnum

theorem WritesTables.clear {x : Infer α} (writes : WritesTables x) (s : Session) : x.Clear s :=
  (writes.ends s).mono (fun _ _ _ => trivial) fun _ _ failed isDuplicate =>
    failed.2 isDuplicate.ofSchemas

/-- The first step never fails for a duplicate enum, and it is the second one wherever that does
not fail so. -/
structure Tolerates (x y : Infer α) : Prop where
  clear : ∀ s, x.Clear s
  same : ∀ s, y.Clear s → x.run.run s = y.run.run s

namespace Tolerates

/-! ## Putting steps together -/

theorem refl {x : Infer α} (clear : ∀ s, x.Clear s) : Tolerates x x := ⟨clear, fun _ _ => rfl⟩

theorem of_writesTables {x : Infer α} (writes : WritesTables x) : Tolerates x x :=
  .refl writes.clear

theorem pure (a : α) : Tolerates (pure a : Infer α) (pure a) := .refl fun _ => trivial

theorem throw {e : InferenceError} (other : ¬ e.IsDuplicateEnum) :
    Tolerates (throw e : Infer α) (throw e) := .refl fun _ => other

theorem bind {x y : Infer α} {f g : α → Infer β} (first : Tolerates x y)
    (rest : ∀ a, Tolerates (f a) (g a)) : Tolerates (x >>= f) (y >>= g) := by
  refine ⟨fun s => ?_, fun s clear => ?_⟩
  · refine ends_bind.2 ((first.clear s).imp ?_)
    intro a s' _
    exact (rest a).clear s'
  · have ends := ends_bind.1 clear
    have front : y.Clear s := ends.imp fun _ _ _ => trivial
    rw [run_bind, run_bind, first.same s front]
    unfold Ends at ends
    cases ran : y.run.run s with
    | mk result s' =>
        cases result with
        | error e => rfl
        | ok a =>
            rw [ran] at ends
            exact (rest a).same s' ends

theorem ite {c : Prop} [Decidable c] {x y x' y' : Infer α} (yes : Tolerates x y)
    (no : Tolerates x' y') : Tolerates (if c then x else x') (if c then y else y') := by
  by_cases holds : c
  · rw [if_pos holds, if_pos holds]
    exact yes
  · rw [if_neg holds, if_neg holds]
    exact no

theorem foldlM {f g : β → α → Infer β} (step : ∀ b a, Tolerates (f b a) (g b a))
    (items : List α) : ∀ b, Tolerates (items.foldlM f b) (items.foldlM g b) := by
  induction items with
  | nil => exact fun b => .pure b
  | cons a rest ih =>
      intro b
      rw [List.foldlM_cons, List.foldlM_cons]
      exact (step b a).bind ih

theorem mapM {f g : α → Infer β} (step : ∀ a, Tolerates (f a) (g a)) (items : List α) :
    Tolerates (items.mapM f) (items.mapM g) := by
  induction items with
  | nil => exact .pure []
  | cons a rest ih =>
      rw [List.mapM_cons, List.mapM_cons]
      exact (step a).bind fun b => ih.bind fun bs => .pure (b :: bs)

theorem forM {f g : α → Infer Unit} (step : ∀ a, Tolerates (f a) (g a)) (items : List α) :
    Tolerates (items.forM f) (items.forM g) := by
  induction items with
  | nil => exact .pure ()
  | cons a rest ih => exact (step a).bind fun _ => ih

theorem optionForM {f g : α → Infer Unit} (step : ∀ a, Tolerates (f a) (g a)) (item : Option α) :
    Tolerates (item.forM f) (item.forM g) := by
  cases item with
  | none => exact .pure ()
  | some a => exact step a

end Tolerates

variable {task : InferenceTask}

/-! ## Registering and taking -/

theorem find_tolerates (part : SchemaOrRef) :
    Tolerates (find task.tolerant part) (find task.strict part) :=
  .of_writesTables (find_writesTables task part)

theorem recordName_tolerates (wire sdk : String) :
    Tolerates (recordName wire sdk) (recordName wire sdk) :=
  .of_writesTables (recordName_writesTables wire sdk)

theorem note_tolerates (event : Event) : Tolerates (note event) (note event) :=
  .refl fun _ => trivial

theorem registerGenerated_tolerates (scope : Scope) (name : String) (type : NamedType) :
    Tolerates (registerGenerated task.tolerant scope name type)
      (registerGenerated task.strict scope name type) := by
  refine .refl fun s => (registerGenerated_ends task scope name type s).mono ?_ ?_
  · exact fun _ _ _ => trivial
  · rintro e s' ⟨-, token, rfl⟩
    exact id

theorem registerComponent_tolerates (token : String) (type : NamedType) :
    Tolerates (registerComponent token type) (registerComponent token type) := by
  refine .refl fun s => (registerComponent_ends token type s).mono ?_ ?_
  · exact fun _ _ _ => trivial
  · rintro e s' ⟨-, rfl⟩
    exact id

theorem takeObject_tolerates (resolved : Resolved) :
    Tolerates (takeObject resolved) (takeObject resolved) := by
  refine .refl fun s => ends_takeObject.2 ?_
  cases resolved.type.token? <;> trivial

/-! ## Enums -/

/-- The searches for an enum are the same under both policies. Where they fail for a duplicate, the
tolerant step gives none and the strict one fails. -/
theorem enumOrNone_tolerates (scope : Scope) (parent : String) (schema : Schema) :
    Tolerates (enumOrNone task.tolerant scope parent schema)
      (enumOrNone task.strict scope parent schema) := by
  have searches : enumType task.tolerant scope parent schema =
      enumType task.strict scope parent schema := by
    have tokens : task.tolerant.token = task.strict.token := rfl
    simp only [enumType, EnumSearch.search_congr tokens]
  unfold enumOrNone
  rw [searches]
  refine .ite (.pure none) ⟨fun s => ends_tryCatch.2 ?_, fun s clear => ?_⟩
  · refine Ends.any.mono (fun _ _ _ => trivial) fun e s' _ => ?_
    cases e with
    | duplicateEnum _ _ _ => exact trivial
    | _ => exact id
  · have ends := ends_tryCatch.1 clear
    rw [run_tryCatch, run_tryCatch]
    unfold Ends at ends
    cases ran : (enumType task.strict scope parent schema).run.run s with
    | mk result s' =>
        cases result with
        | ok found => rfl
        | error e =>
            rw [ran] at ends
            cases e with
            | duplicateEnum _ _ _ => exact absurd trivial ends
            | _ => rfl

/-! ## Types of schemas -/

section

variable {x y : Resolver}
  (inside : ∀ scope parent found, Tolerates (x scope parent found) (y scope parent found))
  (scope : Scope) (parent : String)

include inside

theorem mergePart_tolerates (members : Members) (part : SchemaOrRef) :
    Tolerates (mergePart task.tolerant x scope parent members part)
      (mergePart task.strict y scope parent members part) := by
  unfold mergePart
  refine (find_tolerates part).bind fun found => .ite (.pure members) ?_
  refine (inside scope parent found).bind fun resolved => ?_
  refine (takeObject_tolerates resolved).bind fun object => ?_
  cases object with
  | none => exact .pure members
  | some object => exact .pure _

theorem mergedMembers_tolerates (parts : List SchemaOrRef) :
    Tolerates (mergedMembers task.tolerant x scope parent parts)
      (mergedMembers task.strict y scope parent parts) :=
  .foldlM (mergePart_tolerates inside scope parent) parts {}

omit parent in
theorem propertyTypeOf_tolerates (mapName typeName : String) (found : Lookup.Found) :
    Tolerates (propertyTypeOf task.tolerant x scope mapName typeName found)
      (propertyTypeOf task.strict y scope mapName typeName found) := by
  unfold propertyTypeOf
  cases found.schema.mapValues? with
  | some values =>
      refine (find_tolerates values).bind fun inner => ?_
      exact (inside scope mapName inner).bind fun resolved => .pure _
  | none => exact (inside scope typeName found).bind fun resolved => .pure _

theorem addProperty_tolerates (properties : PropertyMap) (entry : String × SchemaOrRef) :
    Tolerates (addProperty task.tolerant x scope parent properties entry)
      (addProperty task.strict y scope parent properties entry) := by
  obtain ⟨wire, part⟩ := entry
  unfold addProperty
  refine (find_tolerates part).bind fun found => ?_
  refine (recordName_tolerates ..).bind fun _ => ?_
  exact (propertyTypeOf_tolerates inside ..).bind fun type => .pure _

theorem objectMembers_tolerates (schema : Schema) :
    Tolerates (objectMembers task.tolerant x scope parent schema)
      (objectMembers task.strict y scope parent schema) := by
  unfold objectMembers
  refine (Tolerates.foldlM (addProperty_tolerates inside scope parent) _ ∅).bind
    fun properties => ?_
  refine (mergedMembers_tolerates inside scope parent schema.allOf).bind fun merged => ?_
  dsimp only
  have required := WritesTables.foldlM (addRequired_writesTables
    (Members.extend ⟨properties, ∅⟩ merged).properties) schema.required
  refine (Tolerates.of_writesTables (required _)).bind fun _ => ?_
  exact (note_tolerates _).bind fun _ => .pure _

theorem objectType_tolerates (schema : Schema) :
    Tolerates (objectType task.tolerant x scope parent schema)
      (objectType task.strict y scope parent schema) :=
  (objectMembers_tolerates inside scope parent schema).bind fun _ => .pure _

theorem variantTypes_tolerates (parts : List SchemaOrRef) :
    Tolerates (variantTypes task.tolerant x scope parent parts)
      (variantTypes task.strict y scope parent parts) := by
  refine .mapM (fun part => ?_) parts
  refine (find_tolerates part).bind fun found => ?_
  exact (inside scope parent found).bind fun resolved => .pure _

theorem unionType_tolerates (schema : Schema) :
    Tolerates (unionType task.tolerant x scope parent schema)
      (unionType task.strict y scope parent schema) :=
  (variantTypes_tolerates inside scope parent schema.oneOf).bind fun _ => .pure _

theorem mapType_tolerates (schema : Schema) :
    Tolerates (mapType task.tolerant x scope parent schema)
      (mapType task.strict y scope parent schema) := by
  unfold mapType
  split
  · rename_i values _
    refine (find_tolerates values).bind fun found => ?_
    exact (inside scope parent found).bind fun resolved => .pure _
  · exact .pure _

theorem arrayType_tolerates (schema : Schema) :
    Tolerates (arrayType task.tolerant x scope parent schema)
      (arrayType task.strict y scope parent schema) := by
  unfold arrayType
  cases schema.items with
  | none => exact .pure _
  | some items =>
      refine (find_tolerates items).bind fun found => ?_
      exact (inside scope _ found).bind fun resolved => .pure _

theorem declaredType_tolerates (schema : Schema) (type : SchemaType) :
    Tolerates (declaredType task.tolerant x scope parent schema type)
      (declaredType task.strict y scope parent schema type) := by
  cases type with
  | object => exact mapType_tolerates inside scope parent schema
  | array => exact arrayType_tolerates inside scope parent schema
  | null => exact .throw id
  | integer | string | boolean | number => exact .pure _

theorem unnamedType_tolerates (schema : Schema) :
    Tolerates (unnamedType task.tolerant x scope parent schema)
      (unnamedType task.strict y scope parent schema) := by
  unfold unnamedType
  split
  · exact (variantTypes_tolerates inside scope parent _).bind fun _ => .pure _
  · exact (declaredType_tolerates inside scope parent schema _).bind fun _ => .pure _
  · exact (find_tolerates _).bind fun found => inside scope parent found
  · exact .throw id

theorem inlineType_tolerates (schema : Schema) :
    Tolerates (inlineType task.tolerant x scope parent schema)
      (inlineType task.strict y scope parent schema) := by
  unfold inlineType
  refine .ite ?_ (.ite ?_ (.ite ?_ ?_))
  · refine (objectType_tolerates inside scope _ schema).bind fun type => ?_
    exact registerGenerated_tolerates scope _ type
  · exact unionType_tolerates inside scope parent schema
  · refine (mergedMembers_tolerates inside scope parent schema.allOf).bind fun members => ?_
    exact registerGenerated_tolerates scope _ _
  · refine (enumOrNone_tolerates scope parent schema).bind fun found => ?_
    cases found with
    | some resolved => exact .pure resolved
    | none => exact unnamedType_tolerates inside scope parent schema

omit parent in
/-- Entering a component marks its token and writes events down, which cannot fail. -/
theorem enterComponent_tolerates (component : String) (schema : Schema) :
    Tolerates (enterComponent task.tolerant x scope component schema)
      (enterComponent task.strict y scope component schema) := by
  unfold enterComponent
  refine (note_tolerates _).bind fun _ => ?_
  refine (Tolerates.refl (x := isVisited _) fun _ => trivial).bind fun visited => ?_
  refine .ite (.pure _) ?_
  unfold buildComponent
  refine (Tolerates.refl (x := markVisited _) fun _ => trivial).bind fun _ => ?_
  refine (note_tolerates _).bind fun _ => ?_
  refine (objectType_tolerates inside scope _ schema).bind fun type => ?_
  refine (registerComponent_tolerates _ type).bind fun resolved => ?_
  exact (note_tolerates _).bind fun _ => .pure resolved

theorem componentType_tolerates (component : String) (schema : Schema) :
    Tolerates (componentType task.tolerant x scope parent component schema)
      (componentType task.strict y scope parent component schema) := by
  unfold componentType
  refine .ite (.ite ?_ (.ite ?_ ?_)) ?_
  · exact unionType_tolerates inside scope _ schema
  · exact unnamedType_tolerates inside scope parent schema
  · exact enterComponent_tolerates inside scope component schema
  · exact enterComponent_tolerates inside scope component schema

theorem typeOf_tolerates (found : Lookup.Found) :
    Tolerates (typeOf task.tolerant x scope parent found)
      (typeOf task.strict y scope parent found) := by
  unfold typeOf
  cases found.name with
  | none => exact inlineType_tolerates inside scope parent found.schema
  | some component =>
      refine .ite ?_ ?_
      · exact inlineType_tolerates inside scope parent found.schema
      · exact componentType_tolerates inside scope parent component found.schema

end

/-- The type of a schema, down to a depth: by induction on the depth. -/
theorem resolver_tolerates (depth : Nat) : ∀ scope parent found,
    Tolerates (resolver task.tolerant depth scope parent found)
      (resolver task.strict depth scope parent found) := by
  induction depth with
  | zero => exact fun _ _ _ => .throw id
  | succ depth ih => exact typeOf_tolerates ih

theorem propertyType_tolerates (scope : Scope) (parent : String) (found : Lookup.Found) :
    Tolerates (propertyType task.tolerant scope parent found)
      (propertyType task.strict scope parent found) :=
  resolver_tolerates _ scope parent found

/-! ## Resources -/

section

variable (scope : Scope)

theorem bodyProperty_tolerates (entry : String × SchemaOrRef) :
    Tolerates (bodyProperty task.tolerant scope entry) (bodyProperty task.strict scope entry) := by
  obtain ⟨wire, part⟩ := entry
  unfold bodyProperty resourceProperty
  refine (find_tolerates part).bind fun found => ?_
  rw [bind_assoc, bind_assoc]
  refine (propertyTypeOf_tolerates propertyType_tolerates ..).bind fun type => ?_
  rw [pure_bind]
  exact (recordName_tolerates ..).bind fun _ => .pure _

theorem gatherRequestProperty_tolerates (draft : ResourceDraft) (entry : String × SchemaOrRef) :
    Tolerates (gatherRequestProperty task.tolerant scope draft entry)
      (gatherRequestProperty task.strict scope draft entry) :=
  (bodyProperty_tolerates scope entry).bind fun _ => .pure _

theorem gatherResponseProperty_tolerates (draft : ResourceDraft) (entry : String × SchemaOrRef) :
    Tolerates (gatherResponseProperty task.tolerant scope draft entry)
      (gatherResponseProperty task.strict scope draft entry) :=
  (bodyProperty_tolerates scope entry).bind fun _ => .pure _

theorem gatherAnswer_tolerates (draft : ResourceDraft) (response : Option Schema) :
    Tolerates (gatherAnswer task.tolerant scope draft response)
      (gatherAnswer task.strict scope draft response) := by
  cases response with
  | none => exact .pure draft
  | some response =>
      refine (mergedMembers_tolerates propertyType_tolerates scope _ _).bind fun merged => ?_
      exact .foldlM (gatherResponseProperty_tolerates scope) _ _

theorem gatherRequiredInput_tolerates (token : String) (request : Schema) (draft : ResourceDraft)
    (wire : String) : Tolerates (gatherRequiredInput task.tolerant token request draft wire)
      (gatherRequiredInput task.strict token request draft wire) := by
  unfold gatherRequiredInput
  cases request.properties.lookup wire with
  | none => exact .pure draft
  | some part =>
      refine (find_tolerates part).bind fun found => .ite (.pure draft) (.ite ?_ (.pure _))
      have named := setAutoName_writesTables token autoNameProperty
      exact (Tolerates.of_writesTables named).bind fun _ => .pure draft

theorem gatherPart_tolerates (stripRequired : Bool) (draft : ResourceDraft) (part : SchemaOrRef) :
    Tolerates (gatherPart task.tolerant scope stripRequired draft part)
      (gatherPart task.strict scope stripRequired draft part) := by
  unfold gatherPart
  refine (find_tolerates part).bind fun found => .ite (.pure draft) ?_
  refine (propertyType_tolerates scope _ found).bind fun resolved => ?_
  refine (takeObject_tolerates resolved).bind fun object => ?_
  cases object with
  | none => exact .pure draft
  | some object => exact .pure _

theorem gatherDraft_tolerates (token : String) (bodies : ResourceBodies) :
    Tolerates (gatherDraft task.tolerant scope token bodies)
      (gatherDraft task.strict scope token bodies) := by
  have shown : ∀ draft wire, Tolerates (gatherRequiredOutput draft wire)
      (gatherRequiredOutput draft wire) := fun draft wire =>
    (recordName_tolerates ..).bind fun _ => .pure _
  unfold gatherDraft
  refine (Tolerates.foldlM (gatherRequestProperty_tolerates scope) _ _).bind fun draft => ?_
  refine (gatherAnswer_tolerates scope draft _).bind fun draft => ?_
  refine (Tolerates.foldlM (gatherRequiredInput_tolerates token _) _ draft).bind fun draft => ?_
  refine (Tolerates.foldlM shown _ draft).bind fun draft => ?_
  exact .foldlM (gatherPart_tolerates scope bodies.stripRequired) _ draft

theorem gatherResource_tolerates (bodies : ResourceBodies) (path : String) :
    Tolerates (gatherResource task.tolerant scope bodies path)
      (gatherResource task.strict scope bodies path) := by
  unfold gatherResource
  refine (gatherDraft_tolerates scope _ bodies).bind fun draft => ?_
  refine (Tolerates.of_writesTables (seat_writesTables ..)).bind fun _ => ?_
  exact (Tolerates.refl (x := putResource _ _) fun _ => trivial).bind fun _ => .pure _

/-! ## Functions -/

variable (item : PathItem) (operation : Operation) (name : String)

theorem pathParameters_tolerates :
    Tolerates (pathParameters task.tolerant item operation)
      (pathParameters task.strict item operation) :=
  .of_writesTables (pathParameters_writesTables task item operation)

theorem getFunction_tolerates (returns : Option Lookup.Found) :
    Tolerates (getFunction task.tolerant scope item operation name returns)
      (getFunction task.strict scope item operation name returns) := by
  unfold getFunction
  refine (pathParameters_tolerates item operation).bind fun inputs => ?_
  have result : Tolerates (getResult task.tolerant scope name returns)
      (getResult task.strict scope name returns) := by
    cases returns with
    | none => exact .pure none
    | some found => exact (propertyType_tolerates scope _ found).bind fun resolved => .pure _
  exact result.bind fun _ => .pure _

theorem listFunction_tolerates (returns : Lookup.Found) :
    Tolerates (listFunction task.tolerant scope item operation name returns)
      (listFunction task.strict scope item operation name returns) := by
  unfold listFunction
  refine (pathParameters_tolerates item operation).bind fun inputs => ?_
  refine (propertyType_tolerates scope _ returns).bind fun resolved => ?_
  have moved : ∀ s, (renameListType name resolved.type).Clear s := fun s =>
    (renameListType_ends name resolved.type s).mono (fun _ _ _ => trivial) fun _ _ => False.elim
  exact (Tolerates.refl moved).bind fun type => .pure _

end

/-! ## Operations -/

section

variable (ctx : PathContext) (operation : Operation)

theorem addReadFunction_tolerates (name : String) (function : FunctionSpec) :
    Tolerates (addReadFunction task.tolerant ctx name function)
      (addReadFunction task.strict ctx name function) :=
  (Tolerates.of_writesTables (seat_writesTables ..)).bind fun _ => .refl fun _ => trivial

theorem extractRead_tolerates (title : String) (returns : Lookup.Found) :
    Tolerates (extractRead task.tolerant ctx operation title returns)
      (extractRead task.strict ctx operation title returns) := by
  unfold extractRead
  refine (Tolerates.of_writesTables (seat_writesTables ..)).bind fun _ => ?_
  refine (getFunction_tolerates _ ctx.item operation _ _).bind fun function => ?_
  exact addReadFunction_tolerates ctx _ function

theorem discriminatorTarget_tolerates (path reference : String) :
    Tolerates (discriminatorTarget task.tolerant path reference)
      (discriminatorTarget task.strict path reference) :=
  .of_writesTables (discriminatorTarget_writesTables task path reference)

theorem extractBranchRead_tolerates (reference : String) :
    Tolerates (extractBranchRead task.tolerant ctx operation reference)
      (extractBranchRead task.strict ctx operation reference) := by
  refine (discriminatorTarget_tolerates ctx.path reference).bind fun branch => ?_
  exact extractRead_tolerates ctx operation _ branch

theorem extractGet_tolerates :
    Tolerates (extractGet task.tolerant ctx operation) (extractGet task.strict ctx operation) := by
  unfold extractGet
  refine (Tolerates.of_writesTables (operationId_writesTables ..)).bind fun id => ?_
  refine Tolerates.bind (.of_writesTables (returnedSchema?_writesTables task ..)) fun returned => ?_
  cases returned with
  | none =>
      refine (getFunction_tolerates _ ctx.item operation _ none).bind fun function => ?_
      exact addReadFunction_tolerates ctx _ function
  | some returns =>
      refine .ite ?_ ?_
      · refine (listFunction_tolerates _ ctx.item operation _ returns).bind fun function => ?_
        exact addReadFunction_tolerates ctx _ function
      · cases discriminatorMapping returns.schema with
        | nil => exact extractRead_tolerates ctx operation _ returns
        | cons first rest =>
            have each : ∀ entry : String × String,
                Tolerates (extractBranchRead task.tolerant ctx operation entry.2)
                  (extractBranchRead task.strict ctx operation entry.2) :=
              fun entry => extractBranchRead_tolerates ctx operation entry.2
            exact .forM each (first :: rest)

theorem createBranch_tolerates (response : Option Schema) (entry : String × String) :
    Tolerates (createBranch task.tolerant ctx response entry)
      (createBranch task.strict ctx response entry) := by
  obtain ⟨value, reference⟩ := entry
  refine (discriminatorTarget_tolerates ctx.path reference).bind fun branch => ?_
  refine Tolerates.bind (.of_writesTables (branchAnswer_writesTables task ..)) fun answer => ?_
  exact gatherResource_tolerates _ _ _

theorem createResources_tolerates (title : String) (request : Schema) (response : Option Schema) :
    Tolerates (createResources task.tolerant ctx title request response)
      (createResources task.strict ctx title request response) := by
  unfold createResources
  cases discriminatorMapping request with
  | nil => exact (gatherResource_tolerates _ _ ctx.path).bind fun _ => .pure _
  | cons first rest => exact .mapM (createBranch_tolerates ctx response) (first :: rest)

theorem extractCreate_tolerates :
    Tolerates (extractCreate task.tolerant ctx) (extractCreate task.strict ctx) := by
  have creator : creator? task.tolerant ctx = creator? task.strict ctx := rfl
  unfold extractCreate
  rw [creator]
  cases creator? task.strict ctx with
  | none => exact .pure ()
  | some creator =>
      obtain ⟨method, operation⟩ := creator
      refine (Tolerates.of_writesTables (operationId_writesTables ..)).bind fun id => ?_
      refine Tolerates.bind (.of_writesTables (requestSchema_writesTables task ..))
        fun request => ?_
      refine Tolerates.bind (.of_writesTables (createdSchema?_writesTables task ..))
        fun response => ?_
      refine (pathParameters_tolerates ctx.item operation).bind fun parameters => ?_
      refine (createResources_tolerates ctx _ _ _).bind fun tokens => ?_
      refine .forM (fun token => .refl fun s => ?_) tokens
      unfold addPathParameters
      refine ends_bind.2 (ends_get.2 ?_)
      split <;> trivial

theorem extractOperations_tolerates :
    Tolerates (extractOperations task.tolerant ctx) (extractOperations task.strict ctx) := by
  unfold extractOperations
  refine (Tolerates.optionForM (extractGet_tolerates ctx) _).bind fun _ => ?_
  refine Tolerates.bind (.optionForM (fun operation =>
    .of_writesTables (extractChange_writesTables task ..)) _) fun _ => ?_
  refine Tolerates.bind (.optionForM (fun operation =>
    .of_writesTables (extractChange_writesTables task ..)) _) fun _ => ?_
  refine Tolerates.bind (.optionForM (fun operation =>
    .of_writesTables (extractDelete_writesTables task ..)) _) fun _ => ?_
  exact extractCreate_tolerates ctx

end

/-! ## Runs -/

theorem extractPath_tolerates (entry : String × PathItem) :
    Tolerates (extractPath task.tolerant entry) (extractPath task.strict entry) := by
  obtain ⟨path, item⟩ := entry
  refine .ite (.pure ()) ?_
  refine Tolerates.bind (.of_writesTables (normalizedPath_writesTables task ..))
    fun normalized => ?_
  refine (Tolerates.of_writesTables (addModule_writesTables _)).bind fun _ => ?_
  exact extractOperations_tolerates _

theorem extractPaths_tolerates :
    Tolerates (extractPaths task.tolerant) (extractPaths task.strict) :=
  .forM extractPath_tolerates _

end Infer

theorem extract_clear_iff (task : InferenceTask) :
    (∀ e, extract task = .error e → ¬ e.IsDuplicateEnum) ↔
      (Infer.extractPaths task).Clear (Session.new task.options) := by
  unfold Infer.Clear Infer.Ends extract
  cases ran : (Infer.extractPaths task).run.run (Session.new task.options) with
  | mk result s' => cases result <;> simp

/-- The tolerant policy only downgrades duplicate enums: a run under it never fails for two enums
that want one token, and where the strict run does not fail so, the tolerant one gives the same
extraction or the same error. -/
theorem extract_toleratingEnums (task : InferenceTask) :
    (∀ e, extract (task.under .warn) = .error e → ¬ e.IsDuplicateEnum) ∧
      ((∀ e, extract (task.under .fail) = .error e → ¬ e.IsDuplicateEnum) →
        extract (task.under .warn) = extract (task.under .fail)) := by
  have runs : Infer.Tolerates (Infer.extractPaths (task.under .warn))
      (Infer.extractPaths (task.under .fail)) := Infer.extractPaths_tolerates
  have start : Session.new (task.under .warn).options = Session.new (task.under .fail).options :=
    rfl
  refine ⟨(extract_clear_iff _).2 (runs.clear _), fun clear => ?_⟩
  have same := runs.same _ ((extract_clear_iff _).1 clear)
  unfold extract
  rw [start, same]

/-- An enum of one text. -/
def Schema.only (text : String) : Schema where
  type := some (.single .string)
  enum := [.string text]

/-- A read of one of three enums. The second one takes the token that is qualified by the resource,
and the third one finds it taken. -/
def threeColours : InferenceTask :=
  (Document.having [] [("/colours", PathItem.reading "getColour" (.item {
    oneOf := [.item (.only "red"), .item (.only "green"), .item (.only "blue")] }))]).task

example : (extract (threeColours.under .fail)).isOk = false ∧
    (extract (threeColours.under .warn)).isOk = true := by decide +kernel

end ResourceInference
