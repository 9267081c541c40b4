import ResourceInference.Proofs.Bodies
import ResourceInference.Proofs.PathRuns

/-!
# What a run asks for

A `RunFrame` is a frame whose course goes on through whole runs: types move, slots are filled, and
resources and functions are put into the package. From what these changes do it follows, operation
by operation, that a run stays on the course (`RunFrame.lastSession_extracted`), that every
operation has filled its slot, and that all has been asked for that the operations of a path ask for
(`PathContext.OwnName`, `PathContext.Asks`).

What bodies and schemas the operations read is said by the functions that read them: they look
things up and no more, so what they yield does not depend on the session (`Infer.Yields`).
-/

set_option autoImplicit false

namespace ResourceInference

/-! ## What the operations of a path ask for -/

/-- The bodies of a resource that is made of a request, whose alternatives are merged. -/
def ResourceBodies.whole (request : Schema) (response : Option Schema) : ResourceBodies :=
  if request.oneOf.isEmpty then ⟨request, response, false⟩
  else ⟨mergeAlternatives request, response, true⟩

namespace PathContext

variable (task : InferenceTask) (ctx : PathContext)

/-- Whether the read of a schema lists. -/
def lists (id : String) (returns : Schema) : Bool :=
  returns.hasType .array || Naming.mentionsList id

/-- The finds whose types a read asks for: what it returns, or if that has a discriminator, the
components that its values mean. -/
inductive Reads (operation : Operation) : Lookup.Found → Prop where
  | whole {id : String} {returns : Lookup.Found}
      (hasId : (Infer.operationId .get ctx.path operation).Yields id)
      (returned : (Infer.returnedSchema? task ctx.path operation).Yields (some returns))
      (unbranched : lists id returns.schema = true ∨ discriminatorMapping returns.schema = []) :
      Reads operation returns
  | branch {id value reference : String} {returns found : Lookup.Found}
      (hasId : (Infer.operationId .get ctx.path operation).Yields id)
      (returned : (Infer.returnedSchema? task ctx.path operation).Yields (some returns))
      (branched : lists id returns.schema = false)
      (member : (value, reference) ∈ discriminatorMapping returns.schema)
      (target : (Infer.discriminatorTarget task ctx.path reference).Yields found) :
      Reads operation found

variable {task ctx} in
/-- What a read asks for is what it returns, or a branch of that. -/
theorem Reads.whole_or_branch {operation : Operation} {found : Lookup.Found} {id : String}
    {returned? : Option Lookup.Found} (h : ctx.Reads task operation found)
    (hasId : (Infer.operationId .get ctx.path operation).Yields id)
    (returned : (Infer.returnedSchema? task ctx.path operation).Yields returned?) :
    ∃ returns, returned? = some returns ∧
      ((lists id returns.schema = true ∨ discriminatorMapping returns.schema = []) ∧
          found = returns ∨
        lists id returns.schema = false ∧ ∃ value reference,
          (value, reference) ∈ discriminatorMapping returns.schema ∧
            (Infer.discriminatorTarget task ctx.path reference).Yields found) := by
  cases h with
  | whole hasId' returned' unbranched =>
      obtain rfl := hasId.unique hasId'
      exact ⟨_, returned.unique returned', .inl ⟨unbranched, rfl⟩⟩
  | branch hasId' returned' branched member target =>
      obtain rfl := hasId.unique hasId'
      exact ⟨_, returned.unique returned', .inr ⟨branched, _, _, member, target⟩⟩

/-- The operation of a path that creates, with the schemas of its request and its response. -/
structure Sends (request : Schema) (response : Option Schema) : Prop where
  creates : ∃ method operation found answer,
    Infer.creator? task ctx = some (method, operation) ∧
      (Infer.requestSchema task method ctx.path operation).Yields found ∧
        (Infer.createdSchema? task operation).Yields answer ∧
          found.schema = request ∧ answer.map (·.schema) = response

/-- The bodies of the resources that are created: those of the request and the response, or if the
request has a discriminator, those of the components that its values mean. -/
inductive Creates : ResourceBodies → Prop where
  | whole {request : Schema} {response : Option Schema} (sends : ctx.Sends task request response)
      (unbranched : discriminatorMapping request = []) : Creates (.whole request response)
  | branch {request : Schema} {response answer : Option Schema} {value reference : String}
      {found : Lookup.Found} (sends : ctx.Sends task request response)
      (member : (value, reference) ∈ discriminatorMapping request)
      (target : (Infer.discriminatorTarget task ctx.path reference).Yields found)
      (answered : (Infer.branchAnswer task ctx response value).Yields answer) :
      Creates ⟨found.schema, answer, false⟩

variable {task ctx} in
theorem Sends.unique {request request' : Schema} {response response' : Option Schema}
    (h : ctx.Sends task request response) (h' : ctx.Sends task request' response') :
    request' = request ∧ response' = response := by
  obtain ⟨_, _, found, answer, isSome, sent, answered, rfl, rfl⟩ := h.creates
  obtain ⟨_, _, found', answer', isSome', sent', answered', rfl, rfl⟩ := h'.creates
  cases isSome.symm.trans isSome'
  rw [sent'.unique sent, answered'.unique answered]
  exact ⟨rfl, rfl⟩

variable {task ctx} in
theorem Creates.creator {bodies : ResourceBodies} (h : ctx.Creates task bodies) :
    ∃ method operation, Infer.creator? task ctx = some (method, operation) := by
  cases h with
  | whole sends _ | branch sends _ _ _ =>
      obtain ⟨method, operation, _, _, isSome, _⟩ := sends.creates
      exact ⟨method, operation, isSome⟩

/-- The operation takes the path parameters as inputs: it reads or creates. -/
def TakesParameters (operation : Operation) : Prop :=
  ctx.item.get = some operation ∨ ∃ method, Infer.creator? task ctx = some (method, operation)

/-- The wire names that the operations of a path give to members and inputs. -/
inductive OwnName : String → Prop where
  | parameter {operation : Operation} {wire : String} (takes : ctx.TakesParameters task operation)
      (isParameter : operation.HasPathParameter task.document ctx.item wire) : OwnName wire
  | body {bodies : ResourceBodies} {wire : String} (creates : ctx.Creates task bodies)
      (own : bodies.OwnName wire) : OwnName wire

/-- The finds whose types the operations of a path ask for. -/
inductive Asks : Lookup.Found → Prop where
  | read {operation : Operation} {found : Lookup.Found} (isGet : ctx.item.get = some operation)
      (reads : ctx.Reads task operation found) : Asks found
  | body {bodies : ResourceBodies} {found : Lookup.Found} (creates : ctx.Creates task bodies)
      (asks : bodies.Asks task.document found) : Asks found

end PathContext

/-! ## Frames of runs -/

/-- A frame whose course goes on through whole runs. -/
structure RunFrame (task : InferenceTask) extends Frame task where
  /-- What is known of a slot and a path when the slot of some token has been given the path. -/
  filled : CrudSlot → String → Session → Prop
  filledLasts : ∀ {slot path s s'}, rel s s' → filled slot path s → filled slot path s'
  moves : ∀ s source target type, rel s (s.moving source target type)
  unmarks : ∀ s token, rel s { s with visited := s.visited.erase token }
  seats : ∀ {slot path} s token, task.Provides slot path → slot ≠ .create →
    toCourse.Runs (Infer.seat token slot path) s fun _ => filled slot path
  reads : ∀ {path} s token function, task.Provides .read path → toCourse.Runs
    (Infer.seat token .read path >>= fun _ => Infer.putFunction token function) s
      fun _ => filled .read path
  creates : ∀ {path} s token resource, task.Provides .create path → toCourse.Runs
    (Infer.seat token .create path >>= fun _ => Infer.putResource token resource) s
      fun _ => filled .create path
  replaces : ∀ {s token resource} changed, s.package.resources.get? token = some resource →
    rel s (s.withResource token changed)
  moduleNamespaces : ∀ s moduleNamespaces,
    rel s { s with metadata := { s.metadata with moduleNamespaces } }

namespace RunFrame

variable {task : InferenceTask} {R : RunFrame task} {s : Session} {α : Type}

/-- What stays on the course and keeps the registered types stays on the course. -/
theorem runs_of_course {x : Infer α} {post : α → Session → Prop}
    (h : R.toFrame.course.Runs x s post) : R.toCourse.Runs x s post := h.left

/-! ## Functions -/

variable {ctx : PathContext} {operation : Operation}

theorem renameListType_runs {name : String} {type : TypeSpec} :
    R.toCourse.Runs (Infer.renameListType name type) s fun _ _ => True := by
  refine ⟨(Infer.renameListType_ends name type s).mono ?_ fun _ _ => False.elim⟩
  intro _ s' moves
  cases moves with
  | stays => exact ⟨R.refl s, trivial⟩
  | unmarked source => exact ⟨R.unmarks s source, trivial⟩
  | moved target registered => exact ⟨R.moves s _ target _, trivial⟩

variable (R) in
/-- The path parameters of an operation are recorded. -/
def ParametersNamed (ctx : PathContext) (operation : Operation) (s : Session) : Prop :=
  ∀ wire, operation.HasPathParameter task.document ctx.item wire → R.named wire s

theorem ParametersNamed.later {s' : Session} (h : R.ParametersNamed ctx operation s)
    (later : R.rel s s') : R.ParametersNamed ctx operation s' :=
  fun wire isParameter => R.namedLasts later (h wire isParameter)

theorem pathParameters_runs :
    R.toCourse.Runs (Infer.pathParameters task ctx.item operation) s fun _ =>
      R.ParametersNamed ctx operation :=
  runs_of_course Frame.pathParameters_runs

theorem getFunction_runs {scope : Scope} {name : String} {returns : Option Lookup.Found}
    (allowed : ∀ found, returns = some found → R.allows found) :
    R.toCourse.Runs (Infer.getFunction task scope ctx.item operation name returns) s fun _ s' =>
      R.ParametersNamed ctx operation s' ∧ ∀ found, returns = some found → R.done found s' :=
  runs_of_course (Frame.getFunction_runs allowed)

theorem listFunction_runs {scope : Scope} {name : String} {returns : Lookup.Found}
    (allowed : R.allows returns) :
    R.toCourse.Runs (Infer.listFunction task scope ctx.item operation name returns) s fun _ s' =>
      R.ParametersNamed ctx operation s' ∧ R.done returns s' := by
  unfold Infer.listFunction
  refine pathParameters_runs.bind fun inputs s₁ _ named => ?_
  refine (runs_of_course (Frame.propertyType_serves R.toFrame _ _ _ _ allowed)).bind
    fun resolved s₂ later₂ ⟨_, done⟩ => ?_
  refine renameListType_runs.bind fun type s₃ later₃ _ => .pure ⟨?_, R.doneLasts later₃ done⟩
  exact named.later (R.trans later₂ later₃)

/-! ## Reading -/

section

variable (R) in
/-- A read has filled its slot, its inputs are recorded, and the finds that it asks for are done. -/
structure ReadDone (ctx : PathContext) (operation : Operation) (asks : Lookup.Found → Prop)
    (s : Session) : Prop where
  named : R.ParametersNamed ctx operation s
  filled : R.filled .read ctx.path s
  done : ∀ found, asks found → R.done found s

variable {asks : Lookup.Found → Prop}

theorem ReadDone.later {s' : Session} (h : R.ReadDone ctx operation asks s) (later : R.rel s s') :
    R.ReadDone ctx operation asks s' :=
  ⟨h.named.later later, R.filledLasts later h.filled,
    fun found isAsked => R.doneLasts later (h.done found isAsked)⟩

theorem ReadDone.mono {fewer : Lookup.Found → Prop} (h : R.ReadDone ctx operation asks s)
    (among : ∀ found, fewer found → asks found) : R.ReadDone ctx operation fewer s :=
  ⟨h.named, h.filled, fun found isAsked => h.done found (among found isAsked)⟩

variable (provides : task.Provides .read ctx.path)

include provides

theorem addReadFunction_runs {name : String} {function : FunctionSpec} :
    R.toCourse.Runs (Infer.addReadFunction task ctx name function) s fun _ =>
      R.filled .read ctx.path :=
  R.reads _ _ _ provides

theorem extractAction_runs {id : String} :
    R.toCourse.Runs (Infer.extractAction task ctx operation id) s fun _ =>
      R.ReadDone ctx operation fun _ => False := by
  unfold Infer.extractAction
  refine (getFunction_runs (by simp)).bind fun function s₁ _ ⟨named, _⟩ => ?_
  exact (addReadFunction_runs provides).imp fun _ _ later filled =>
    ⟨named.later later, filled, fun _ => False.elim⟩

theorem extractList_runs {id : String} {returns : Lookup.Found} (allowed : R.allows returns) :
    R.toCourse.Runs (Infer.extractList task ctx operation id returns) s fun _ =>
      R.ReadDone ctx operation (· = returns) := by
  unfold Infer.extractList
  refine (listFunction_runs allowed).bind fun function s₁ _ ⟨named, done⟩ => ?_
  refine (addReadFunction_runs provides).imp fun _ _ later filled =>
    ⟨named.later later, filled, ?_⟩
  rintro _ rfl
  exact R.doneLasts later done

theorem extractRead_runs {title : String} {returns : Lookup.Found} (allowed : R.allows returns) :
    R.toCourse.Runs (Infer.extractRead task ctx operation title returns) s fun _ =>
      R.ReadDone ctx operation (· = returns) := by
  unfold Infer.extractRead
  refine (R.seats _ _ provides (by decide)).bind fun _ s₁ _ _ => ?_
  refine (getFunction_runs ?_).bind fun function s₂ _ ⟨named, done⟩ => ?_
  · rintro _ ⟨⟩
    exact allowed
  · refine (addReadFunction_runs provides).imp fun _ _ later filled =>
      ⟨named.later later, filled, ?_⟩
    rintro _ rfl
    exact R.doneLasts later (done _ rfl)

/-- The read of one value of a discriminator asks for the component that is meant. -/
theorem extractBranchRead_runs {reference : String} :
    R.toCourse.Runs (Infer.extractBranchRead task ctx operation reference) s fun _ =>
      R.ReadDone ctx operation (Infer.discriminatorTarget task ctx.path reference).Yields := by
  unfold Infer.extractBranchRead
  refine (Course.Runs.reads (Infer.discriminatorTarget_reads ..)).bind
    fun branch s₁ _ ⟨_, target⟩ => ?_
  have allowed := R.byName (Infer.discriminatorTarget_located target)
  exact (extractRead_runs provides allowed).imp fun _ s₂ _ done =>
    done.mono fun found target' => target'.unique target

/-- The reads of all values of a discriminator ask for all components that are meant. -/
theorem branchReads_runs {branches : List (String × String)} (branched : branches ≠ []) :
    R.toCourse.Runs (branches.forM fun entry =>
      Infer.extractBranchRead task ctx operation entry.2) s fun _ =>
        R.ReadDone ctx operation fun found => ∃ entry ∈ branches,
          (Infer.discriminatorTarget task ctx.path entry.2).Yields found := by
  have each : R.toCourse.Runs (branches.forM fun entry =>
      Infer.extractBranchRead task ctx operation entry.2) s fun _ s' => ∀ entry ∈ branches,
        R.ReadDone ctx operation (Infer.discriminatorTarget task ctx.path entry.2).Yields s' := by
    refine .forM (fun entry s s' later done => ?_) fun entry _ s => ?_
    · exact done.later later
    · exact extractBranchRead_runs provides
  refine each.imp fun _ s₁ _ done => ?_
  obtain ⟨entry, member⟩ := List.exists_mem_of_ne_nil _ branched
  refine ⟨(done entry member).named, (done entry member).filled, ?_⟩
  rintro found ⟨entry, member, target⟩
  exact (done entry member).done found target

/-- A read fills its slot, and asks for what it returns. -/
theorem extractGet_runs :
    R.toCourse.Runs (Infer.extractGet task ctx operation) s fun _ =>
      R.ReadDone ctx operation (ctx.Reads task operation) := by
  unfold Infer.extractGet
  refine (Course.Runs.reads (Infer.operationId_reads ..)).bind fun id s₁ _ ⟨_, hasId⟩ => ?_
  refine (Course.Runs.reads (Infer.returnedSchema?_reads ..)).bind
    fun returned? s₂ _ ⟨_, returned⟩ => ?_
  cases returned? with
  | none =>
      refine (extractAction_runs provides).imp fun _ s₃ _ done => done.mono fun found reads => ?_
      obtain ⟨_, isSome, _⟩ := reads.whole_or_branch hasId returned
      cases isSome
  | some returns =>
      obtain ⟨part, located⟩ := Infer.returnedSchema?_located returned
      dsimp only
      split
      · rename_i lists
        refine (extractList_runs provides (R.located located)).imp
          fun _ s₃ _ done => done.mono fun found reads => ?_
        obtain ⟨_, ⟨⟩, ⟨_, same⟩ | ⟨branched, _⟩⟩ := reads.whole_or_branch hasId returned
        · exact same
        · cases branched.symm.trans lists
      · rename_i single
        split
        · rename_i unbranched
          refine (extractRead_runs provides (R.located located)).imp
            fun _ s₃ _ done => done.mono fun found reads => ?_
          obtain ⟨_, ⟨⟩, ⟨_, same⟩ | ⟨_, _, _, member, _⟩⟩ := reads.whole_or_branch hasId returned
          · exact same
          · rw [unbranched] at member
            cases member
        · rename_i branched
          refine (branchReads_runs provides branched).imp
            fun _ s₃ _ done => done.mono fun found reads => ?_
          obtain ⟨_, ⟨⟩, ⟨lists | unbranched, _⟩ | ⟨_, value, reference, member, target⟩⟩ :=
            reads.whole_or_branch hasId returned
          · exact absurd lists single
          · exact absurd unbranched branched
          · exact ⟨_, member, target⟩

end

/-! ## Changing -/

section

variable {slot : CrudSlot} (provides : task.Provides slot ctx.path) (changes : slot ≠ .create)

include provides changes

theorem seatBranch_runs {name : String} :
    R.toCourse.Runs (Infer.seatBranch task ctx slot name) s fun _ => R.filled slot ctx.path := by
  unfold Infer.seatBranch
  refine (Course.Runs.reads (Infer.discriminatorTarget_reads ..)).bind fun branch s₁ _ _ => ?_
  exact R.seats _ _ provides changes

theorem extractChange_runs {method : Method} :
    R.toCourse.Runs (Infer.extractChange task ctx method slot operation) s fun _ =>
      R.filled slot ctx.path := by
  unfold Infer.extractChange
  refine (Course.Runs.reads (Infer.operationId_reads ..)).bind fun id s₁ _ _ => ?_
  refine (Course.Runs.reads (Infer.requestSchema_reads ..)).bind fun request s₂ _ _ => ?_
  split
  · exact R.seats _ _ provides changes
  · rename_i branched
    have each : R.toCourse.Runs ((branchNames request.schema).forM (Infer.seatBranch task ctx slot))
        s₂ fun _ s' => ∀ name ∈ branchNames request.schema, R.filled slot ctx.path s' := by
      refine .forM (fun name s s' later filled => ?_) fun name _ s => ?_
      · exact R.filledLasts later filled
      · exact seatBranch_runs provides changes
    refine each.imp fun _ s₃ _ filled => ?_
    obtain ⟨name, member⟩ := List.exists_mem_of_ne_nil _ branched
    exact filled name member

end

theorem extractDelete_runs (provides : task.Provides .delete ctx.path) :
    R.toCourse.Runs (Infer.extractDelete task ctx operation) s fun _ =>
      R.filled .delete ctx.path := by
  unfold Infer.extractDelete
  split
  · exact extractChange_runs provides (by decide)
  · refine (Course.Runs.reads (Infer.operationId_reads ..)).bind fun id s₁ _ _ => ?_
    exact R.seats _ _ provides (by decide)

/-! ## Creating -/

variable (R) in
/-- A resource of bodies is made. -/
structure MadeOf (ctx : PathContext) (bodies : ResourceBodies) (s : Session) : Prop where
  filled : R.filled .create ctx.path s
  covered : bodies.Covered task.document (R.done · s) (R.named · s)

theorem MadeOf.later {bodies : ResourceBodies} {s' : Session} (h : R.MadeOf ctx bodies s)
    (later : R.rel s s') : R.MadeOf ctx bodies s' :=
  ⟨R.filledLasts later h.filled,
    h.covered.imp (fun _ => R.doneLasts later) fun _ => R.namedLasts later⟩

section

variable (provides : task.Provides .create ctx.path)

include provides

theorem gatherResource_runs {scope : Scope} {bodies : ResourceBodies} :
    R.toCourse.Runs (Infer.gatherResource task scope bodies ctx.path) s fun _ =>
      R.MadeOf ctx bodies := by
  unfold Infer.gatherResource
  dsimp only
  refine (runs_of_course Frame.gatherDraft_runs).bind fun draft s₁ _ covered => ?_
  rw [← bind_assoc]
  refine (R.creates _ _ _ provides).bind fun _ s₂ later₂ filled => .pure ⟨filled, ?_⟩
  exact covered.imp (fun _ => R.doneLasts later₂) fun _ => R.namedLasts later₂

variable (R) in
omit provides in
/-- The resource of one value of a discriminator is made. -/
def BranchMade (ctx : PathContext) (response : Option Schema) (entry : String × String)
    (s : Session) : Prop :=
  ∀ found answer, (Infer.discriminatorTarget task ctx.path entry.2).Yields found →
    (Infer.branchAnswer task ctx response entry.1).Yields answer →
      R.MadeOf ctx ⟨found.schema, answer, false⟩ s

theorem createBranch_runs {response : Option Schema} {entry : String × String} :
    R.toCourse.Runs (Infer.createBranch task ctx response entry) s fun _ s' =>
      R.filled .create ctx.path s' ∧ R.BranchMade ctx response entry s' := by
  obtain ⟨value, reference⟩ := entry
  unfold Infer.createBranch
  dsimp only
  refine (Course.Runs.reads (Infer.discriminatorTarget_reads ..)).bind
    fun branch s₁ _ ⟨_, target⟩ => ?_
  refine (Course.Runs.reads (Infer.branchAnswer_reads ..)).bind
    fun answer s₂ _ ⟨_, answered⟩ => ?_
  refine (gatherResource_runs provides).imp fun _ s₃ _ made => ⟨made.filled, ?_⟩
  intro found answer' target' answered'
  rwa [target'.unique target, answered'.unique answered]

variable (R) in
omit provides in
/-- The resources of a request and a response are made. -/
structure ResourcesMade (ctx : PathContext) (request : Schema) (response : Option Schema)
    (s : Session) : Prop where
  filled : R.filled .create ctx.path s
  whole : discriminatorMapping request = [] → R.MadeOf ctx (.whole request response) s
  branch : ∀ entry ∈ discriminatorMapping request, R.BranchMade ctx response entry s

theorem createResources_runs {title : String} {request : Schema} {response : Option Schema} :
    R.toCourse.Runs (Infer.createResources task ctx title request response) s fun _ =>
      R.ResourcesMade ctx request response := by
  unfold Infer.createResources
  split
  · rename_i unbranched
    refine Course.Runs.bind (gatherResource_runs provides) fun token s₁ _ made => .pure ?_
    refine ⟨made.filled, fun _ => made, fun entry member => ?_⟩
    rw [unbranched] at member
    cases member
  · rename_i branched
    have each : R.toCourse.Runs ((discriminatorMapping request).mapM
        (Infer.createBranch task ctx response)) s fun _ s' =>
          ∀ entry ∈ discriminatorMapping request,
            R.filled .create ctx.path s' ∧ R.BranchMade ctx response entry s' := by
      refine .mapM (fun entry s s' later made => ?_) fun entry _ s => ?_
      · exact ⟨R.filledLasts later made.1, fun found answer target answered =>
          (made.2 found answer target answered).later later⟩
      · exact createBranch_runs provides
    refine each.imp fun tokens s₁ _ made => ?_
    obtain ⟨entry, member⟩ := List.exists_mem_of_ne_nil _ branched
    exact ⟨(made entry member).1, fun unbranched => absurd unbranched branched,
      fun entry member => (made entry member).2⟩

end

theorem addPathParameters_runs {token : String} {parameters : ObjectType} :
    R.toCourse.Runs (Infer.addPathParameters token parameters) s fun _ _ => True := by
  unfold Infer.addPathParameters
  refine Course.Runs.get.bind fun now s₁ _ same => ?_
  subst same
  split
  · rename_i resource present
    exact ⟨⟨R.replaces _ present, trivial⟩⟩
  · exact .pure trivial

variable (R) in
/-- A creation has filled its slot, its inputs are recorded, and its resources are made. -/
structure CreateDone (ctx : PathContext) (s : Session) : Prop where
  named : ∀ method operation, Infer.creator? task ctx = some (method, operation) →
    R.ParametersNamed ctx operation s
  filled : (Infer.creator? task ctx).isSome = true → R.filled .create ctx.path s
  made : ∀ bodies, ctx.Creates task bodies → R.MadeOf ctx bodies s

theorem extractCreate_runs
    (provides : (Infer.creator? task ctx).isSome = true → task.Provides .create ctx.path) :
    R.toCourse.Runs (Infer.extractCreate task ctx) s fun _ => R.CreateDone ctx := by
  unfold Infer.extractCreate
  cases creates : Infer.creator? task ctx with
  | none =>
      refine .pure ⟨fun _ _ isSome => ?_, fun isSome => ?_, fun bodies made => ?_⟩
      · cases creates.symm.trans isSome
      · rw [creates] at isSome
        cases isSome
      · obtain ⟨_, _, isSome⟩ := made.creator
        cases creates.symm.trans isSome
  | some creator =>
      obtain ⟨method, operation⟩ := creator
      have provides := provides (by rw [creates]; rfl)
      dsimp only
      refine (Course.Runs.reads (Infer.operationId_reads ..)).bind fun id s₁ _ _ => ?_
      refine (Course.Runs.reads (Infer.requestSchema_reads ..)).bind
        fun request s₂ _ ⟨_, sent⟩ => ?_
      refine (Course.Runs.reads (Infer.createdSchema?_reads ..)).bind
        fun response s₃ _ ⟨_, answered⟩ => ?_
      refine pathParameters_runs.bind fun parameters s₄ _ named => ?_
      refine (createResources_runs provides).bind fun tokens s₅ later₅ made => ?_
      have each : R.toCourse.Runs (tokens.forM fun token =>
          Infer.addPathParameters token parameters) s₅ fun _ _ => ∀ token ∈ tokens, True :=
        .forM (fun _ _ _ _ _ => trivial) fun _ _ _ => addPathParameters_runs
      refine each.imp fun _ s₆ later₆ _ => ?_
      have sends : ctx.Sends task request.schema (response.map (·.schema)) :=
        ⟨method, operation, request, response, creates, sent, answered, rfl, rfl⟩
      refine ⟨fun method' operation' isSome => ?_, fun _ => ?_, fun bodies creates' => ?_⟩
      · cases creates.symm.trans isSome
        exact named.later (R.trans later₅ later₆)
      · exact R.filledLasts later₆ made.filled
      · cases creates' with
        | whole sends' unbranched =>
            obtain ⟨rfl, rfl⟩ := sends.unique sends'
            exact (made.whole unbranched).later later₆
        | branch sends' member target answer =>
            obtain ⟨rfl, rfl⟩ := sends.unique sends'
            exact (made.branch _ member _ _ target answer).later later₆

/-! ## Paths -/

variable (R) in
/-- The operations of a path have filled their slots, and all that they ask for is done. -/
structure PathDone (ctx : PathContext) (s : Session) : Prop where
  filled : ∀ method, (ctx.item.operation? method).isSome = true →
    R.filled method.slot ctx.path s
  names : ∀ wire, ctx.OwnName task wire → R.named wire s
  asked : ∀ found, ctx.Asks task found → R.done found s

theorem PathDone.later {s' : Session} (h : R.PathDone ctx s) (later : R.rel s s') :
    R.PathDone ctx s' :=
  ⟨fun method present => R.filledLasts later (h.filled method present),
    fun wire own => R.namedLasts later (h.names wire own),
    fun found asks => R.doneLasts later (h.asked found asks)⟩

theorem extractOperations_runs {item : PathItem} (extracts : task.Extracts ctx item) :
    R.toCourse.Runs (Infer.extractOperations task ctx) s fun _ => R.PathDone ctx := by
  have provides : ∀ method operation, ctx.item.operation? method = some operation →
      task.Provides method.slot ctx.path :=
    fun method operation present => extracts.provides method (by rw [present]; rfl)
  unfold Infer.extractOperations
  refine (Course.Runs.optionForM fun operation isGet =>
    extractGet_runs (provides .get operation isGet)).bind fun _ s₁ _ read => ?_
  refine (Course.Runs.optionForM fun operation isPatch =>
    extractChange_runs (provides .patch operation isPatch) (by decide)).bind
      fun _ s₂ later₂ updated => ?_
  refine (Course.Runs.optionForM fun operation isPut =>
    extractChange_runs (provides .put operation isPut) (by decide)).bind
      fun _ s₃ later₃ put => ?_
  refine (Course.Runs.optionForM fun operation isDelete =>
    extractDelete_runs (provides .delete operation isDelete)).bind
      fun _ s₄ later₄ deleted => ?_
  refine (extractCreate_runs extracts.provides_create).imp fun _ s₅ later₅ created => ?_
  -- What an operation has established lasts along the operations after it.
  have sinceDelete := later₅
  have sincePut := R.trans later₄ sinceDelete
  have sincePatch := R.trans later₃ sincePut
  have sinceGet := R.trans later₂ sincePatch
  refine ⟨fun method present => ?_, fun wire own => ?_, fun found asks => ?_⟩
  · obtain ⟨operation, isThere⟩ := Option.isSome_iff_exists.1 present
    cases method with
    | get => exact R.filledLasts sinceGet (read operation isThere).filled
    | patch => exact R.filledLasts sincePatch (updated operation isThere)
    | put => exact R.filledLasts sincePut (put operation isThere)
    | delete => exact R.filledLasts sinceDelete (deleted operation isThere)
    | post =>
        have isPost : ctx.item.post = some operation := isThere
        exact created.filled (by simp [Infer.creator?, isPost])
  · cases own with
    | parameter takes isParameter =>
        rcases takes with isGet | ⟨method, creates⟩
        · exact R.namedLasts sinceGet ((read _ isGet).named wire isParameter)
        · exact created.named method _ creates wire isParameter
    | body creates own => exact (created.made _ creates).covered.names wire own
  · cases asks with
    | read isGet reads => exact R.doneLasts sinceGet ((read _ isGet).done found reads)
    | body creates asks => exact (created.made _ creates).covered.asked found asks

variable (R) in
theorem runsPaths : R.toCourse.RunsPaths task R.PathDone where
  lasts later done := done.later later
  modules := R.moduleNamespaces
  operations extracts _ := extractOperations_runs extracts

variable (R) in
/-- The session of a successful run lies on the course, and every path has been extracted. -/
theorem lastSession_extracted {e : Extraction} (h : extract task = .ok e) :
    R.rel (Session.new task.options) task.lastSession ∧
      ∀ entry ∈ (SortedMap.ofList task.document.paths).toList,
        task.PathExtracted R.PathDone entry task.lastSession :=
  R.runsPaths.lastSession_extracted h

variable (R) in
/-- In a successful run, all is done that the operations of a path ask for. -/
theorem lastSession_pathDone {e : Extraction} (h : extract task = .ok e) {item : PathItem}
    (extracts : task.Extracts ctx item) : R.PathDone ctx task.lastSession :=
  R.runsPaths.lastSession_made h extracts

end RunFrame

end ResourceInference
