import ResourceInference.Proofs.Drafts
import ResourceInference.Proofs.Footprints
import ResourceInference.Proofs.PathRuns

/-!
# Paths write within their module

The operations of a path write within an area as soon as the names that its types may get, and the
tokens of its resources and functions, lie there (`PathNames`, `PathNames.extractOperations_runs`).
A token is cut and put together again in one place only, where the type of a list moves; what comes
of it is the token with `Items` behind it (`listTypeTarget?_eq`), so it stays among the names that
types may get.

If nothing is asked of names, this says that paths are kept apart by their modules: whatever a path
changes, also one whose extraction fails, has its module in front
(`Infer.extractPath_staysInModule`).
-/

set_option autoImplicit false

namespace ResourceInference

/-! ## Types of lists -/

/-- The type of a list moves to its token with `Items` behind it. -/
theorem listTypeTarget?_eq {name token target : String}
    (h : listTypeTarget? name token = some target) : target = token ++ "Items" := by
  obtain ⟨⟨start, last⟩, cut, isTarget⟩ := Option.bind_eq_some_iff.1 h
  dsimp only at isTarget
  split at isTarget
  · cases isTarget
    apply String.toList_inj.1
    simp [Text.toList_of_cutAtLast? cut]
  · cases isTarget

namespace TypeNames

variable {task : InferenceTask} {module resource : String} {A : Area}
  {N : TypeNames task module A} {s : Session}

theorem renameListType_runs {name : String} {type : TypeSpec} (named : N.Names type) :
    (Course.within A).Runs (Infer.renameListType name type) s fun _ _ => True := by
  refine ⟨(Infer.renameListType_renames name type s).mono ?_ fun _ _ => False.elim⟩
  intro renamed s' renames
  cases renames with
  | stays => exact ⟨.refl _, trivial⟩
  | unmarked => exact ⟨.of_beside rfl rfl, trivial⟩
  | @moved source target moved isTarget _ =>
      obtain ⟨short, fits, rfl⟩ := named source rfl
      have lies : A.types target := by
        have longer : target = task.token module (short ++ "Items") := by
          rw [listTypeTarget?_eq isTarget]
          simp only [InferenceTask.token, typeToken, String.append_assoc]
        exact longer ▸ N.lies (N.behind fits (by decide))
      exact ⟨.moving (N.lies fits) lies s moved, trivial⟩

/-! ## Bodies -/

variable (N) in
/-- What is asked for when a resource is made of bodies is met, and types may be named after the
resource and after the properties of the bodies: after the wire name of a map, and after the type
name of any other property. Where a name is generated for the resource, the area allows for it. -/
structure Takes (resource : String) (bodies : ResourceBodies) : Prop where
  named : N.fits resource
  asked : ∀ {found}, bodies.Asks task.document found → N.meets found
  maps : ∀ {body wire part found values}, bodies.Has body → (wire, part) ∈ body.properties →
    Lookup.schema task.document part = .ok found → found.schema.mapValues? = some values →
      N.fits wire
  others : ∀ {body wire part found}, bodies.Has body → (wire, part) ∈ body.properties →
    Lookup.schema task.document part = .ok found → found.schema.mapValues? = none →
      N.fits (Naming.pascalCase wire)
  generated : bodies.request.Demands task.document autoNameProperty →
    A.autoNames (task.token module resource) autoNameProperty

section

variable {bodies : ResourceBodies} (plain : IsPlain resource) (takes : N.Takes resource bodies)

include plain takes

theorem bodyProperty_runs {body : Schema} {entry : String × SchemaOrRef} (isBody : bodies.Has body)
    (member : entry ∈ body.properties) :
    (Course.within A).Runs (Infer.bodyProperty task ⟨module, resource⟩ entry) s
      fun _ _ => True := by
  obtain ⟨wire, part⟩ := entry
  unfold Infer.bodyProperty Infer.resourceProperty
  refine Course.Runs.find.bind fun found s₁ _ ⟨_, located⟩ => ?_
  rw [bind_assoc]
  refine Infer.bind_within (propertyTypeOf_runs N.propertyType_serves plain (fun isMap => ?_)
    fun noMap => ?_) fun type s₂ => ?_
  · exact ⟨takes.maps isBody member located isMap,
      fun there => takes.asked (.property isBody member (.values located isMap there))⟩
  · exact ⟨takes.others isBody member located noMap,
      takes.asked (.property isBody member (.plain located noMap))⟩
  · rw [pure_bind]
    exact Infer.bind_within (Infer.recordName_within ..) fun _ _ => .pure trivial

theorem gatherAnswer_runs {draft : ResourceDraft} :
    (Course.within A).Runs
      (Infer.gatherAnswer task ⟨module, resource⟩ draft bodies.response) s fun _ _ => True := by
  cases isResponse : bodies.response with
  | none => exact .pure trivial
  | some response =>
      refine Infer.bind_within (mergedMembers_runs N.propertyType_serves plain takes.named
        fun part member _ merges => takes.asked (.answered isResponse member merges)) ?_
      intro merged s₁
      refine Infer.foldlM_within fun entry member _ _ => ?_
      exact Infer.bind_within (bodyProperty_runs plain takes (.inr isResponse) member)
        fun _ _ => .pure trivial

omit plain in
theorem gatherRequiredInput_runs {draft : ResourceDraft} {wire : String}
    (member : wire ∈ bodies.request.required) :
    (Course.within A).Runs (Infer.gatherRequiredInput task (task.token module resource)
      bodies.request draft wire) s fun _ _ => True := by
  unfold Infer.gatherRequiredInput
  split
  · exact .pure trivial
  · rename_i part declared
    refine Course.Runs.find.bind fun found s₁ _ ⟨_, located⟩ => ?_
    split
    · exact .pure trivial
    · rename_i settable
      split
      · rename_i isName
        subst isName
        have demands : bodies.request.Demands task.document autoNameProperty :=
          ⟨member, part, declared, found, located, Bool.eq_false_iff.2 settable⟩
        exact Infer.bind_within (Infer.setAutoName_within (takes.generated demands))
          fun _ _ => .pure trivial
      · exact .pure trivial

theorem gatherPart_runs {draft : ResourceDraft} {part : SchemaOrRef}
    (member : part ∈ bodies.request.allOf) :
    (Course.within A).Runs (Infer.gatherPart task ⟨module, resource⟩ bodies.stripRequired draft
      part) s fun _ _ => True := by
  unfold Infer.gatherPart
  refine Course.Runs.find.bind fun found s₁ _ ⟨_, located⟩ => ?_
  split
  · exact .pure trivial
  · rename_i objectLike
    have met := takes.asked (.requested member located (by simpa using objectLike))
    refine (N.propertyType_serves _ _ _ _ plain (N.cased takes.named) met).bind
      fun resolved s₂ _ named => ?_
    refine Infer.bind_within (takeObject_runs named) fun object s₃ => ?_
    cases object with
    | none => exact .pure trivial
    | some object => exact .pure trivial

theorem gatherDraft_runs :
    (Course.within A).Runs (Infer.gatherDraft task ⟨module, resource⟩ (task.token module resource)
      bodies) s fun _ _ => True := by
  unfold Infer.gatherDraft
  refine Infer.bind_within (Infer.foldlM_within fun entry member _ _ =>
    Infer.bind_within (bodyProperty_runs plain takes (.inl rfl) member) fun _ _ => .pure trivial) ?_
  intro draft s₁
  refine Infer.bind_within (gatherAnswer_runs plain takes) fun draft s₂ => ?_
  refine Infer.bind_within (Infer.foldlM_within fun wire member _ _ =>
    gatherRequiredInput_runs takes member) fun draft s₃ => ?_
  refine Infer.bind_within (Infer.foldlM_within fun wire _ _ _ =>
    Infer.bind_within (Infer.recordName_within ..) fun _ _ => .pure trivial) fun draft s₄ => ?_
  exact Infer.foldlM_within fun part member _ _ => gatherPart_runs plain takes member

/-- The token of a resource that is made is that of its name. -/
theorem gatherResource_runs {path : String} (entry : A.entries (task.token module resource)) :
    (Course.within A).Runs (Infer.gatherResource task ⟨module, resource⟩ bodies path) s
      fun token _ => A.entries token := by
  refine Infer.bind_within (gatherDraft_runs plain takes) fun draft s₁ => ?_
  refine Infer.bind_within (Infer.seat_within entry .create path) fun _ s₂ => ?_
  exact ⟨⟨.withResource entry s₂ _, entry⟩⟩

end

end TypeNames

/-! ## Functions -/

namespace Infer

variable {task : InferenceTask} {A : Area} {s : Session}

theorem pathParameters_within {item : PathItem} {operation : Operation} :
    (Course.within A).Runs (pathParameters task item operation) s fun _ _ => True := by
  refine bind_within (foldlM_within fun entry _ properties _ => ?_) fun _ _ => .pure trivial
  refine Course.Runs.ofLookup.bind fun parameter s₁ _ _ => ?_
  split
  · exact bind_within (recordPathParameter_within ..) fun _ _ => .pure trivial
  · exact .pure trivial

theorem addPathParameters_within {token : String} (entry : A.entries token)
    {parameters : ObjectType} :
    (Course.within A).Runs (addPathParameters token parameters) s fun _ _ => True := by
  unfold addPathParameters
  refine Course.Runs.get.bind fun _ s₁ _ _ => ?_
  split
  · exact ⟨⟨.withResource entry s₁ _, trivial⟩⟩
  · exact .pure trivial

end Infer

/-! ## Operations -/

/-- What the operations of a path may meet, and how its types, resources and functions may be named.
All lies in the area. -/
structure PathNames (task : InferenceTask) (ctx : PathContext) (A : Area) extends
    TypeNames task ctx.module A where
  entries : ∀ name, A.entries (task.token ctx.module name)
  getting : ∀ title, fits (Naming.pascalCase ("get" ++ title))
  listing : ∀ title, fits (Naming.pascalCase ("list" ++ title))
  reads : ∀ {operation found}, ctx.item.get = some operation → ctx.Reads task operation found →
    meets found
  creates : ∀ {method operation name bodies},
    Infer.creator? task ctx = some (method, operation) →
      ctx.CreatesAs task method operation name bodies → toTypeNames.Takes name bodies

namespace PathNames

variable {task : InferenceTask} {ctx : PathContext} {A : Area} (N : PathNames task ctx A)
  {s : Session} {operation : Operation} {title : String}

include N

/-! ### Reading -/

theorem addReadFunction_runs {name : String} {function : FunctionSpec} :
    (Course.within A).Runs (Infer.addReadFunction task ctx name function) s fun _ _ => True := by
  refine Infer.bind_within (Infer.seat_within (N.entries name) .read ctx.path) fun _ s₁ => ?_
  exact ⟨⟨.withFunction (N.entries name) s₁ function, trivial⟩⟩

theorem getFunction_runs (plain : IsPlain title) {returns : Option Lookup.Found}
    (meets : ∀ found, returns = some found → N.meets found) :
    (Course.within A).Runs (Infer.getFunction task ⟨ctx.module, title⟩ ctx.item operation
      ("get" ++ title) returns) s fun _ _ => True := by
  refine Infer.bind_within Infer.pathParameters_within fun inputs s₁ => ?_
  refine Infer.bind_within ?_ fun _ _ => .pure trivial
  cases returns with
  | none => exact .pure trivial
  | some found =>
      exact (N.propertyType_serves _ _ _ _ plain (N.getting title) (meets found rfl)).bind
        fun _ _ _ _ => .pure trivial

theorem extractAction_runs {id : String} :
    (Course.within A).Runs (Infer.extractAction task ctx operation id) s fun _ _ => True :=
  Infer.bind_within (N.getFunction_runs (Infer.isPlain_singularTitle task id .get) (by simp))
    fun _ _ => N.addReadFunction_runs

theorem extractList_runs {id : String} {returns : Lookup.Found} (meets : N.meets returns) :
    (Course.within A).Runs (Infer.extractList task ctx operation id returns) s
      fun _ _ => True := by
  have plain := Infer.isPlain_operationTitle task id .get
  refine Infer.bind_within ?_ fun _ _ => N.addReadFunction_runs
  refine Infer.bind_within Infer.pathParameters_within fun inputs s₁ => ?_
  refine (N.propertyType_serves _ _ _ _ (Naming.isPlain_singular plain _) (N.listing _)
    meets).bind fun resolved s₂ _ named => ?_
  exact Infer.bind_within (TypeNames.renameListType_runs named) fun _ _ => .pure trivial

theorem extractRead_runs (plain : IsPlain title) {returns : Lookup.Found}
    (meets : N.meets returns) :
    (Course.within A).Runs (Infer.extractRead task ctx operation title returns) s
      fun _ _ => True := by
  refine Infer.bind_within (Infer.seat_within (N.entries title) .read ctx.path) fun _ s₁ => ?_
  refine Infer.bind_within (N.getFunction_runs plain ?_) fun _ _ => N.addReadFunction_runs
  rintro _ ⟨⟩
  exact meets

theorem extractGet_runs (isGet : ctx.item.get = some operation) :
    (Course.within A).Runs (Infer.extractGet task ctx operation) s fun _ _ => True := by
  unfold Infer.extractGet
  refine (Course.Runs.reads (Infer.operationId_reads ..)).bind fun id s₁ _ ⟨_, hasId⟩ => ?_
  refine (Course.Runs.reads (Infer.returnedSchema?_reads ..)).bind
    fun returned s₂ _ ⟨_, returnsIt⟩ => ?_
  cases returned with
  | none => exact N.extractAction_runs
  | some returns =>
      dsimp only
      split
      · rename_i isList
        exact N.extractList_runs (N.reads isGet (.whole hasId returnsIt (.inl isList)))
      · rename_i single
        split
        · rename_i unbranched
          exact N.extractRead_runs (Infer.isPlain_singularTitle task id .get)
            (N.reads isGet (.whole hasId returnsIt (.inr unbranched)))
        · rename_i branched
          refine Infer.forM_within fun (value, reference) member s => ?_
          refine (Course.Runs.reads (Infer.discriminatorTarget_reads ..)).bind
            fun branch s₃ _ ⟨_, target⟩ => ?_
          exact N.extractRead_runs (Naming.isPlain_schemaTitle _ _)
            (N.reads isGet (.branch hasId returnsIt (Bool.eq_false_iff.2 single) member target))

/-! ### Changing -/

theorem extractChange_runs {method : Method} {slot : CrudSlot} :
    (Course.within A).Runs (Infer.extractChange task ctx method slot operation) s
      fun _ _ => True := by
  unfold Infer.extractChange
  refine (Course.Runs.reads (Infer.operationId_reads ..)).bind fun id s₁ _ _ => ?_
  refine (Course.Runs.reads (Infer.requestSchema_reads ..)).bind fun request s₂ _ _ => ?_
  split
  · exact Infer.seat_within (N.entries _) slot ctx.path
  · refine Infer.forM_within fun name _ s => ?_
    refine (Course.Runs.reads (Infer.discriminatorTarget_reads ..)).bind fun _ s₃ _ _ => ?_
    exact Infer.seat_within (N.entries _) slot ctx.path

theorem extractDelete_runs :
    (Course.within A).Runs (Infer.extractDelete task ctx operation) s fun _ _ => True := by
  unfold Infer.extractDelete
  split
  · exact N.extractChange_runs
  · refine (Course.Runs.reads (Infer.operationId_reads ..)).bind fun id s₁ _ _ => ?_
    exact Infer.seat_within (N.entries _) .delete ctx.path

/-! ### Creating -/

theorem createResources_runs {request : Schema} {response : Option Schema} (plain : IsPlain title)
    (takes : ∀ {name bodies}, ctx.CreateName task title request response name bodies →
      N.toTypeNames.Takes name bodies) :
    (Course.within A).Runs (Infer.createResources task ctx title request response) s
      fun tokens _ => ∀ token ∈ tokens, A.entries token := by
  unfold Infer.createResources
  split
  · rename_i unbranched
    refine Course.Runs.bind (TypeNames.gatherResource_runs plain (takes (.whole unbranched))
      (N.entries title)) fun token s₁ _ entry => .pure ?_
    exact List.forall_mem_singleton.2 entry
  · refine Infer.mapM_within fun (value, reference) member s => ?_
    refine (Course.Runs.reads (Infer.discriminatorTarget_reads ..)).bind
      fun branch s₁ _ ⟨_, target⟩ => ?_
    refine (Course.Runs.reads (Infer.branchAnswer_reads ..)).bind
      fun answer s₂ _ ⟨_, answered⟩ => ?_
    exact TypeNames.gatherResource_runs (Naming.isPlain_pascalCase value)
      (takes (.branch member target answered)) (N.entries _)

theorem extractCreate_runs :
    (Course.within A).Runs (Infer.extractCreate task ctx) s fun _ _ => True := by
  unfold Infer.extractCreate
  split
  · exact .pure trivial
  · rename_i method operation isCreator
    refine (Course.Runs.reads (Infer.operationId_reads ..)).bind fun id s₁ _ ⟨_, hasId⟩ => ?_
    refine (Course.Runs.reads (Infer.requestSchema_reads ..)).bind
      fun request s₂ _ ⟨_, sent⟩ => ?_
    refine (Course.Runs.reads (Infer.createdSchema?_reads ..)).bind
      fun response s₃ _ ⟨_, answered⟩ => ?_
    refine Infer.bind_within Infer.pathParameters_within fun parameters s₄ => ?_
    refine Course.Runs.bind (N.createResources_runs (Infer.isPlain_singularTitle task id method)
      fun named => N.creates isCreator ⟨id, request, response, hasId, sent, answered, named⟩)
        fun tokens s₅ _ entries => ?_
    exact Infer.forM_within fun token member _ =>
      Infer.addPathParameters_within (entries token member)

/-- The operations of a path write within the area in which its names lie. -/
theorem extractOperations_runs :
    (Course.within A).Runs (Infer.extractOperations task ctx) s fun _ _ => True := by
  unfold Infer.extractOperations
  refine Infer.bind_within (Infer.optionForM_within fun _ => N.extractGet_runs) fun _ s₁ => ?_
  refine Infer.bind_within (Infer.optionForM_within fun _ _ => N.extractChange_runs) fun _ s₂ => ?_
  refine Infer.bind_within (Infer.optionForM_within fun _ _ => N.extractChange_runs) fun _ s₃ => ?_
  refine Infer.bind_within (Infer.optionForM_within fun _ _ => N.extractDelete_runs) fun _ s₄ => ?_
  exact N.extractCreate_runs

end PathNames

/-- Nothing is asked of names where the area has all types and entries of the module, and the
names that are generated for its creations. -/
def PathNames.free {task : InferenceTask} {ctx : PathContext} {A : Area}
    (types : ∀ name, A.types (task.token ctx.module name))
    (entries : ∀ name, A.entries (task.token ctx.module name))
    (generated : ∀ {method operation name bodies},
      Infer.creator? task ctx = some (method, operation) →
        ctx.CreatesAs task method operation name bodies →
          bodies.request.Demands task.document autoNameProperty →
            A.autoNames (task.token ctx.module name) autoNameProperty) : PathNames task ctx A where
  meets _ := True
  fits _ := True
  lies _ := types _
  behind _ _ := trivial
  before _ _ := trivial
  cased _ := trivial
  component _ _ := trivial
  opens _ := ⟨fun _ => trivial, fun _ _ _ => trivial⟩
  entries := entries
  getting _ := trivial
  listing _ := trivial
  reads _ _ := trivial
  creates isCreator named := ⟨trivial, fun _ => trivial, fun _ _ _ _ => trivial,
    fun _ _ _ _ => trivial, generated isCreator named⟩

/-! ## Paths -/

namespace Infer

/-- A path is extracted within every area in which its names and its module lie. -/
theorem extractPath_within {task : InferenceTask} {A : Area} {entry : String × PathItem}
    (module : A.modules (Naming.moduleOf (task.normalForm entry.1) task.options.useParentAsModule))
    (names : ∀ ctx : PathContext, ctx.documentPath = entry.1 →
      (withoutExcluded task.options.exclusions entry.1 entry.2).hasOperations = true →
        (normalizedPath task entry.1
          (withoutExcluded task.options.exclusions entry.1 entry.2)).Yields (ctx.path, ctx.item) →
            ctx.module = Naming.moduleOf ctx.path task.options.useParentAsModule →
              PathNames task ctx A) {s : Session} :
    (Course.within A).Runs (extractPath task entry) s fun _ _ => True := by
  obtain ⟨documentPath, item⟩ := entry
  unfold extractPath
  dsimp only at names ⊢
  split
  · exact .pure trivial
  · rename_i answers
    refine (Course.Runs.reads (normalizedPath_reads ..)).bind
      fun (path, changed) s₁ _ ⟨_, normalized⟩ => ?_
    have names := names ⟨path, documentPath,
      Naming.moduleOf path task.options.useParentAsModule, changed⟩ rfl (by simpa using answers)
        normalized rfl
    obtain ⟨rfl, -⟩ := normalizedPath_yields normalized
    exact bind_within (addModule_within module) fun _ s₂ => names.extractOperations_runs

/-- A run writes within every area in which the names of all its paths lie. -/
theorem lastSession_within {task : InferenceTask} {A : Area} (modules : ∀ module, A.modules module)
    (names : ∀ ctx item, task.Extracts ctx item → PathNames task ctx A) {e : Extraction}
    (h : extract task = .ok e) : (Session.new task.options).Within A task.lastSession := by
  have runs : (Course.within A).Runs (extractPaths task) (Session.new task.options)
      fun _ _ => True := by
    refine forM_within fun (documentPath, item) listed s => extractPath_within (modules _) ?_
    rintro ctx rfl answers normalized isModule
    exact names ctx item ⟨(SortedMap.mem_toList_iff ..).1 listed, answers, normalized, isModule⟩
  exact (runs.lastSession h).1

end Infer

/-! ## Modules -/

/-- The token is that of a name in the module. -/
def InferenceTask.InModule (task : InferenceTask) (module token : String) : Prop :=
  ∃ name, token = task.token module name

/-- The area of all tokens of a module. -/
def Area.ofModule (task : InferenceTask) (module : String) : Area where
  types := task.InModule module
  entries := task.InModule module
  autoNames token _ := task.InModule module token
  modules := (· = module)

namespace Session

/-- Types, resources, functions, slots and generated names under tokens that do not have the module
in front are left as they were, and at most the module itself gets a namespace, if it had none. -/
structure StaysInModule (task : InferenceTask) (module : String) (s s' : Session) : Prop where
  types : ∀ token, ¬ task.InModule module token →
    s'.package.types.get? token = s.package.types.get? token
  resources : ∀ token, ¬ task.InModule module token →
    s'.package.resources.get? token = s.package.resources.get? token
  functions : ∀ token, ¬ task.InModule module token →
    s'.package.functions.get? token = s.package.functions.get? token
  crud : ∀ token, ¬ task.InModule module token →
    s'.metadata.crud.get? token = s.metadata.crud.get? token
  autoNames : ∀ token, ¬ task.InModule module token →
    s'.metadata.autoNames.get? token = s.metadata.autoNames.get? token
  namespaces : ∀ key, s'.metadata.moduleNamespaces.get? key = s.metadata.moduleNamespaces.get? key ∨
    key = module ∧ s.metadata.moduleNamespaces.get? key = none

theorem StaysInModule.of_within {task : InferenceTask} {module : String} {s s' : Session}
    (h : s.Within (.ofModule task module) s') : s.StaysInModule task module s' where
  types token outside := (h.types token).resolve_left outside
  resources token outside := (h.resources token).resolve_left outside
  functions token outside := (h.functions token).resolve_left outside
  crud token outside := (h.crud token).resolve_left outside
  autoNames token outside := by
    rcases h.autoNames token with same | ⟨_, _, _, inside⟩
    · exact same
    · exact absurd inside outside
  namespaces key := (h.modules key).imp_right fun ⟨_, free, _, isModule⟩ => ⟨isModule, free⟩

end Session

namespace Infer

/-- Modules are kept apart. Whatever session a path is extracted in, and whether this ends or fails,
all that it changes has the module of the normalised path. -/
theorem extractPath_staysInModule (task : InferenceTask) (entry : String × PathItem) (s : Session) :
    Ends (extractPath task entry) s
      (fun _ => s.StaysInModule task (Naming.moduleOf (task.normalForm entry.1)
        task.options.useParentAsModule))
      fun _ => s.StaysInModule task (Naming.moduleOf (task.normalForm entry.1)
        task.options.useParentAsModule) :=
  have within : (Course.within (.ofModule task (Naming.moduleOf (task.normalForm entry.1)
      task.options.useParentAsModule))).Runs (extractPath task entry) s fun _ _ => True := by
    refine extractPath_within rfl fun ctx _ _ normalized isModule => ?_
    rw [← (normalizedPath_yields normalized).1, ← isModule]
    exact .free (fun _ => ⟨_, rfl⟩) (fun _ => ⟨_, rfl⟩) fun _ _ _ => ⟨_, rfl⟩
  within.ends.mono (fun _ _ ends => .of_within ends.1) fun _ _ => .of_within

end Infer

end ResourceInference
