import ResourceInference.Proofs.Origins

/-!
# Settled runs

A run goes through settled sessions between its operations, so an extraction has functions and
resources only of the reads and creations of the document. Conversely, every read has its functions
and every creation its resources (`PathContext.Answered`). Both together are `extract_origins`. In
particular all that an extraction emits is shaped (`extraction_shaped`).
-/

set_option autoImplicit false

namespace ResourceInference

/-! ## The course of a run -/

/-- The course along which filled slots, resources and functions stay, and a settled session stays
settled. -/
def Course.settling (task : InferenceTask) : Course where
  rel s s' := s.Grows s' ∧ (s.Settled task → s'.Settled task)
  breaks _ _ := True
  refl s := ⟨.refl s, id⟩
  trans first second := ⟨first.1.trans second.1, fun settled => second.2 (first.2 settled)⟩
  breaksOff _ := trivial
  breaksLater _ _ := trivial

/-- A function is under the token, whose slot that reads has the path. -/
def Session.HasRead (s : Session) (token path : String) : Prop :=
  s.package.functions.contains token = true ∧ s.metadata.Seated token .read path

/-- A resource is under the token, whose slot that creates has the path. -/
def Session.HasCreated (s : Session) (token path : String) : Prop :=
  s.package.resources.contains token = true ∧ s.metadata.Seated token .create path

section

variable {s s' : Session} {token path : String}

theorem Session.HasRead.later (h : s.HasRead token path) (grows : s.Grows s') :
    s'.HasRead token path :=
  ⟨grows.functions token h.1, grows.seated _ _ _ h.2⟩

theorem Session.HasCreated.later (h : s.HasCreated token path) (grows : s.Grows s') :
    s'.HasCreated token path :=
  ⟨grows.resources token h.1, grows.seated _ _ _ h.2⟩

end

namespace PathContext

variable (task : InferenceTask) (ctx : PathContext) (operation : Operation)

/-- Some branches of a creation are made since the session `s`: their tokens are the ones that wait
for the path parameters. -/
structure BranchesMade (s : Session) (done : List (String × String)) (tokens : List String)
    (s' : Session) : Prop where
  grows : s.Grows s'
  made : ∀ entry ∈ done,
    s'.HasCreated (task.token ctx.module (Naming.pascalCase entry.1)) ctx.path
  waits : ∀ parameters, s.Settled task → s'.Waits task ctx operation parameters tokens

/-- All names of a creation have their resources, and so has every value of the discriminator of its
request. -/
structure CreationMade (method : Method) (s : Session) : Prop where
  names : ∀ name bodies, ctx.CreatesAs task method operation name bodies →
    s.HasCreated (task.token ctx.module name) ctx.path
  values : ∀ request, (Infer.requestSchema task method ctx.path operation).Yields request →
    ∀ entry ∈ discriminatorMapping request.schema,
      s.HasCreated (task.token ctx.module (Naming.pascalCase entry.1)) ctx.path

variable {task ctx operation} in
theorem CreationMade.later {method : Method} {s s' : Session}
    (h : ctx.CreationMade task operation method s) (grows : s.Grows s') :
    ctx.CreationMade task operation method s' :=
  ⟨fun name bodies named => (h.names name bodies named).later grows,
    fun request sent entry member => (h.values request sent entry member).later grows⟩

end PathContext

namespace Infer

variable {task : InferenceTask} {s : Session} {ctx : PathContext} {item : PathItem}
  {operation : Operation}

/-- A step that leaves resources, functions and types alone stays on the course. -/
theorem settling_of_aside {s s' : Session} (aside : s.Aside s')
    (types : s'.package.types = s.package.types) : (Course.settling task).rel s s' :=
  ⟨aside.grows, fun settled => settled.later aside (settled.types.of_types types)⟩

theorem seat_settles (token : String) (slot : CrudSlot) (path : String) :
    (Course.settling task).Runs (seat token slot path) s fun _ s' =>
      s'.metadata.Seated token slot path :=
  ⟨(seat_ends token slot path).imp fun _ _ seats =>
    ⟨settling_of_aside seats.aside (by rw [seats.package]), seats.here⟩⟩

/-! ## Reading -/

section

variable (extracts : task.Extracts ctx item)

include extracts

/-- A function is made and put under a name of the read. -/
theorem addReadFunction_settles (isGet : ctx.item.get = some operation) {name : String}
    {make : Infer FunctionSpec} (named : ctx.ReadsAs task operation name make)
    (makes : LeavesAside make fun function => ∃ inputs, function.inputs = some inputs ∧
      inputs.HoldsPathParameters task.document ctx.item operation ∧ function.Shaped) :
    (Course.settling task).Runs (make >>= addReadFunction task ctx name) s fun _ s' =>
      s'.HasRead (task.token ctx.module name) ctx.path := by
  generalize token_eq : task.token ctx.module name = token
  refine ⟨ends_bind.2 ((makes.ends s).imp fun f s₁ ⟨aside, shapes⟩ => ?_)⟩
  unfold addReadFunction
  rw [token_eq]
  refine ends_bind.2 ((seat_ends token .read ctx.path).imp fun _ s₂ seats => ?_)
  have later : s.Aside s₂ := aside.trans seats.aside
  refine ends_putFunction.2 ⟨⟨later.grows.trans (.withFunction ..), fun settled => ?_⟩, ?_⟩
  · obtain ⟨shaped, ⟨inputs, isInputs, holds, functionShaped⟩, made⟩ := shapes settled.types
    have before : s₂.Settled task :=
      settled.later later (shaped.of_types (by rw [seats.package]))
    exact before.withFunction ⟨⟨ctx, operation, name, make⟩, ⟨⟨item, extracts⟩, isGet, named⟩,
      token_eq, seats.here, made, ⟨inputs, isInputs, holds⟩, functionShaped⟩
  · exact ⟨(SortedMap.contains_insert ..).2 (.inl rfl), seats.here⟩

variable (isGet : ctx.item.get = some operation)

include isGet

theorem extractAction_settles {id : String}
    (named : ctx.ReadsAs task operation ("get" ++ singularTitle task id .get)
      (ctx.getting task operation (singularTitle task id .get) none)) :
    (Course.settling task).Runs (extractAction task ctx operation id) s fun _ s' =>
      s'.HasRead (task.token ctx.module ("get" ++ singularTitle task id .get)) ctx.path :=
  addReadFunction_settles extracts isGet named (getFunction_leavesAside ..)

theorem extractList_settles {id : String} {returns : Lookup.Found}
    (named : ctx.ReadsAs task operation ("list" ++ operationTitle task id .get)
      (ctx.listing task operation (operationTitle task id .get) returns)) :
    (Course.settling task).Runs (extractList task ctx operation id returns) s fun _ s' =>
      s'.HasRead (task.token ctx.module ("list" ++ operationTitle task id .get)) ctx.path :=
  addReadFunction_settles extracts isGet named (listFunction_leavesAside ..)

theorem extractRead_settles {title : String} {returns : Lookup.Found}
    (named : ctx.ReadsAs task operation ("get" ++ title)
      (ctx.getting task operation title (some returns))) :
    (Course.settling task).Runs (extractRead task ctx operation title returns) s fun _ s' =>
      s'.HasRead (task.token ctx.module ("get" ++ title)) ctx.path := by
  unfold extractRead
  refine (seat_settles ..).bind fun _ s₁ _ _ => ?_
  exact addReadFunction_settles extracts isGet named (getFunction_leavesAside ..)

/-- The component that a discriminator points at has its function. -/
theorem extractBranchRead_settles {reference : String}
    (named : ∀ found, (discriminatorTarget task ctx.path reference).Yields found →
      ctx.ReadsAs task operation ("get" ++ PathContext.branchTitle reference found)
        (ctx.getting task operation (PathContext.branchTitle reference found) (some found))) :
    (Course.settling task).Runs (extractBranchRead task ctx operation reference) s fun _ s' =>
      ∀ found, (discriminatorTarget task ctx.path reference).Yields found → s'.HasRead
        (task.token ctx.module ("get" ++ PathContext.branchTitle reference found)) ctx.path := by
  unfold extractBranchRead
  refine (Course.Runs.reads (discriminatorTarget_reads ..)).bind fun branch s₁ _ ⟨_, target⟩ => ?_
  refine (extractRead_settles extracts isGet (named branch target)).imp ?_
  intro _ s₂ _ has found target'
  rwa [target'.unique target]

/-- Every component that a discriminator points at has its function. -/
theorem extractBranchReads_settles {mapping : List (String × String)}
    (named : ∀ entry ∈ mapping, ∀ found, (discriminatorTarget task ctx.path entry.2).Yields found →
      ctx.ReadsAs task operation ("get" ++ PathContext.branchTitle entry.2 found)
        (ctx.getting task operation (PathContext.branchTitle entry.2 found) (some found))) :
    (Course.settling task).Runs (mapping.forM fun entry =>
      extractBranchRead task ctx operation entry.2) s fun _ s' => ∀ entry ∈ mapping, ∀ found,
        (discriminatorTarget task ctx.path entry.2).Yields found → s'.HasRead
          (task.token ctx.module ("get" ++ PathContext.branchTitle entry.2 found)) ctx.path := by
  refine .forM (fun entry s s' later has found target => ?_) fun entry member s => ?_
  · exact (has found target).later later.1
  · exact extractBranchRead_settles extracts isGet (named entry member)

/-- Every name of a read has got its function. -/
theorem extractGet_settles :
    (Course.settling task).Runs (extractGet task ctx operation) s fun _ s' =>
      ∀ name make, ctx.ReadsAs task operation name make →
        s'.HasRead (task.token ctx.module name) ctx.path := by
  unfold extractGet
  refine (Course.Runs.reads (operationId_reads ..)).bind fun id s₁ _ ⟨_, hasId⟩ => ?_
  refine (Course.Runs.reads (returnedSchema?_reads ..)).bind fun returned s₂ _ ⟨_, returns⟩ => ?_
  -- The names are those that the id and the result of this run give.
  have only : ∀ name make, ctx.ReadsAs task operation name make →
      ctx.ReadName task operation id returned name make := by
    rintro name make ⟨id', returned', hasId', returns', named⟩
    rwa [hasId.unique hasId', returns.unique returns']
  have named : ∀ {name make}, ctx.ReadName task operation id returned name make →
      ctx.ReadsAs task operation name make :=
    fun named => ⟨id, returned, hasId, returns, named⟩
  cases returned with
  | none =>
      refine (extractAction_settles extracts isGet (named .action)).imp ?_
      intro _ s₃ _ has name make reads
      cases only name make reads with
      | action => exact has
  | some returned =>
      dsimp only
      split
      · rename_i isList
        refine (extractList_settles extracts isGet (named (.list isList))).imp ?_
        intro _ s₃ _ has name make reads
        cases only name make reads with
        | list _ => exact has
        | whole single _ | branch single _ _ => cases single.symm.trans isList
      · rename_i notList
        have single : PathContext.lists id returned.schema = false := Bool.eq_false_iff.2 notList
        split
        · rename_i unbranched
          refine (extractRead_settles extracts isGet (named (.whole single unbranched))).imp ?_
          intro _ s₃ _ has name make reads
          cases only name make reads with
          | list isList => exact absurd isList notList
          | whole _ _ => exact has
          | branch _ member _ =>
              rw [unbranched] at member
              cases member
        · rename_i branched
          refine (extractBranchReads_settles extracts isGet fun entry member found target =>
            named (.branch single member target)).imp ?_
          intro _ s₃ _ has name make reads
          cases only name make reads with
          | list isList => exact absurd isList notList
          | whole _ unbranched => exact absurd unbranched branched
          | branch _ member target => exact has _ member _ target

end

/-! ## Changing -/

/-- An operation that changes fills slots. -/
theorem settles_of_tabulates {x : Infer Unit} (writes : WritesTables x)
    {post : Unit → Session → Prop}
    (tabulates : (RunFrame.tabulation task).toCourse.Runs x s post) :
    (Course.settling task).Runs x s fun _ _ => True := by
  refine ⟨(tabulates.ends.and (writes.ends s)).mono ?_ fun _ _ _ => trivial⟩
  rintro _ s' ⟨⟨later, -⟩, _, rfl⟩
  exact ⟨settling_of_aside ⟨rfl, rfl, later.kept⟩ rfl, trivial⟩

/-! ## Creating -/

section

variable (extracts : task.Extracts ctx item) {method : Method}
  (creates : creator? task ctx = some (method, operation))

include extracts creates

/-- A resource is made and put under its token, which then waits for the path parameters. -/
theorem gatherResource_waits {name : String} {bodies : ResourceBodies}
    (named : ctx.CreatesAs task method operation name bodies) :
    Ends (gatherResource task ⟨ctx.module, name⟩ bodies ctx.path) s
      (fun token s' => token = task.token ctx.module name ∧ s.Grows s' ∧
        s'.HasCreated token ctx.path ∧ ∀ parameters waiting,
          s.Waits task ctx operation parameters waiting →
            s'.Waits task ctx operation parameters (waiting ++ [token])) fun _ _ => True := by
  unfold gatherResource
  generalize token_eq : task.token ctx.module name = token
  have makes : LeavesAside (gatherDraft task ⟨ctx.module, name⟩ token bodies)
      ResourceDraft.Shaped := gatherDraft_leavesAside ..
  refine ends_bind.2 ((makes.ends s).imp fun draft s₁ ⟨aside, shapes⟩ => ?_)
  refine ends_bind.2 ((seat_ends token .create ctx.path).imp fun _ s₂ seats => ?_)
  have later : s.Aside s₂ := aside.trans seats.aside
  refine ends_bind.2 (ends_putResource.2 (ends_pure.2
    ⟨rfl, later.grows.trans (.withResource ..), ⟨?_, seats.here⟩, ?_⟩))
  · exact (SortedMap.contains_insert ..).2 (.inl rfl)
  · intro parameters waiting waits
    obtain ⟨shaped, draftShaped, results⟩ := shapes waits.types
    have before : s₂.Waits task ctx operation parameters waiting :=
      Session.Known.later waits later (fun _ _ pending => pending.later later.seated)
        (shaped.of_types (by rw [seats.package]))
    refine Session.Known.withResource before (.of_open (by simp) ?_) fun other r ne => ?_
    · exact ⟨method, name, bodies, _, ⟨⟨⟨item, extracts⟩, creates, named⟩, token_eq, seats.here,
        ⟨draft, results, rfl⟩, draftShaped.toResource _⟩, .inl rfl⟩
    · exact .of_mem_iff (by simp [ne])

variable {request : Schema} {response : Option Schema}

/-- One more branch of a creation is made. -/
theorem createBranch_waits {value reference : String} {done : List (String × String)}
    {tokens : List String} {s₁ : Session}
    (named : ∀ found answer, (discriminatorTarget task ctx.path reference).Yields found →
      (branchAnswer task ctx response value).Yields answer →
        ctx.CreatesAs task method operation (Naming.pascalCase value) ⟨found.schema, answer, false⟩)
    (before : ctx.BranchesMade task operation s done tokens s₁) :
    Ends (createBranch task ctx response (value, reference)) s₁
      (fun token s' => ctx.BranchesMade task operation s (done ++ [(value, reference)])
        (tokens ++ [token]) s') fun _ _ => True := by
  unfold createBranch
  dsimp only
  refine ends_bind.2 (((discriminatorTarget_reads ..).ends s₁).imp ?_)
  rintro found s₂ ⟨rfl, target⟩
  refine ends_bind.2 (((branchAnswer_reads ..).ends _).imp ?_)
  rintro answer s₃ ⟨rfl, answered⟩
  have made := gatherResource_waits (s := s₃) extracts creates (named found answer target answered)
  refine made.imp fun token s₄ ⟨token_eq, grows, created, waits⟩ => ?_
  refine ⟨before.grows.trans grows, fun entry isDone => ?_, fun parameters settled => ?_⟩
  · rcases List.mem_append.1 isDone with isBefore | isLast
    · exact (before.made entry isBefore).later grows
    · rw [List.mem_singleton.1 isLast, ← token_eq]
      exact created
  · exact waits parameters tokens (before.waits parameters settled)

/-- All branches of a creation are made, one after the other. -/
theorem createBranches_waits
    (named : ∀ value reference found answer, (value, reference) ∈ discriminatorMapping request →
      (discriminatorTarget task ctx.path reference).Yields found →
        (branchAnswer task ctx response value).Yields answer → ctx.CreatesAs task method operation
          (Naming.pascalCase value) ⟨found.schema, answer, false⟩) :
    Ends ((discriminatorMapping request).mapM (createBranch task ctx response)) s
      (fun tokens s' => ctx.BranchesMade task operation s (discriminatorMapping request) tokens s')
      fun _ _ => True := by
  have start : ctx.BranchesMade task operation s [] [] s :=
    ⟨.refl s, by simp, fun _ => Session.waits_nil_iff.2⟩
  have step : ∀ entry ∈ discriminatorMapping request, ∀ done tokens s₁,
      ctx.BranchesMade task operation s done tokens s₁ →
        Ends (createBranch task ctx response entry) s₁ (fun token s' =>
          ctx.BranchesMade task operation s (done ++ [entry]) (tokens ++ [token]) s')
          fun _ _ => True := by
    rintro ⟨value, reference⟩ member done tokens s₁ before
    exact createBranch_waits extracts creates
      (fun found answer => named value reference found answer member) before
  exact ends_mapM step start

theorem createResources_waits {title : String}
    (named : ∀ name bodies, ctx.CreateName task title request response name bodies →
      ctx.CreatesAs task method operation name bodies) :
    Ends (createResources task ctx title request response) s
      (fun tokens s' => s.Grows s' ∧
        (∀ name bodies, ctx.CreateName task title request response name bodies →
          s'.HasCreated (task.token ctx.module name) ctx.path) ∧
        (∀ entry ∈ discriminatorMapping request,
          s'.HasCreated (task.token ctx.module (Naming.pascalCase entry.1)) ctx.path) ∧
        (∀ parameters, s.Settled task → s'.Waits task ctx operation parameters tokens))
      fun _ _ => True := by
  unfold createResources
  split
  · rename_i unbranched
    have made := gatherResource_waits (s := s) extracts creates (named _ _ (.whole unbranched))
    refine ends_bind.2 (made.imp fun token s₁ ⟨token_eq, grows, created, waits⟩ => ?_)
    refine ends_pure.2 ⟨grows, fun name bodies isName => ?_, by simp [unbranched],
      fun parameters settled => ?_⟩
    · cases isName with
      | whole _ => rwa [← token_eq]
      | branch member _ _ =>
          rw [unbranched] at member
          cases member
    · exact waits parameters [] (Session.waits_nil_iff.2 settled)
  · rename_i branched
    refine (createBranches_waits extracts creates fun value reference found answer member target
      answered => named _ _ (.branch member target answered)).imp fun tokens s₁ made => ?_
    refine ⟨made.grows, fun name bodies isName => ?_, made.made, made.waits⟩
    cases isName with
    | whole unbranched => exact absurd unbranched branched
    | branch member _ _ =>
        have created := made.made _ member
        exact created

end

/-! ### Path parameters -/

theorem pathParameters_settles :
    (Course.settling task).Runs (pathParameters task ctx.item operation) s fun parameters _ =>
      parameters.HoldsPathParameters task.document ctx.item operation := by
  have makes : LeavesAside (pathParameters task ctx.item operation) fun parameters =>
      parameters.HoldsPathParameters task.document ctx.item operation :=
    pathParameters_leavesAside ..
  have holds : Upholds (fun _ => True) (pathParameters task ctx.item operation) fun parameters =>
      parameters.HoldsPathParameters task.document ctx.item operation :=
    pathParameters_upholds (fun _ => id) task ctx.item operation
  refine ⟨((makes.ends s).and (holds.ends s trivial)).mono ?_ fun _ _ _ => trivial⟩
  rintro parameters s' ⟨⟨aside, shapes⟩, -, holds⟩
  refine ⟨⟨aside.grows, fun settled => ?_⟩, holds⟩
  exact settled.later aside (shapes settled.types).1

/-- A token that waits for its path parameters gets them. -/
theorem addPathParameters_settles {token : String} {parameters : ObjectType}
    (holds : parameters.HoldsPathParameters task.document ctx.item operation) :
    Ends (addPathParameters token parameters) s
      (fun _ s' => s.Grows s' ∧ ∀ rest, s.Waits task ctx operation parameters (token :: rest) →
        s'.Waits task ctx operation parameters rest) fun _ _ => True := by
  unfold addPathParameters
  refine ends_bind.2 (ends_get.2 ?_)
  split
  · rename_i r present
    refine ends_putResource.2 ⟨.withResource .., fun rest waits => ?_⟩
    have given := (waits.resources token r present).withPathParameters holds
    refine Session.Known.withResource waits given fun other r ne => ?_
    exact .of_mem_iff (by simp [ne])
  · rename_i absent
    refine ends_pure.2 ⟨.refl s, fun rest waits => waits.imp fun other r present => ?_⟩
    have ne : other ≠ token := by
      rintro rfl
      cases absent.symm.trans present
    exact .of_mem_iff (by simp [ne])

/-- All tokens that wait for their path parameters get them. -/
theorem addAllPathParameters_settles {tokens : List String} {parameters : ObjectType}
    (holds : parameters.HoldsPathParameters task.document ctx.item operation) :
    Ends (tokens.forM fun token => addPathParameters token parameters) s
      (fun _ s' => s.Grows s' ∧
        (s.Waits task ctx operation parameters tokens → s'.Settled task)) fun _ _ => True := by
  induction tokens generalizing s with
  | nil => exact ends_pure.2 ⟨.refl s, Session.waits_nil_iff.1⟩
  | cons token rest ih =>
      refine ends_bind.2 ((addPathParameters_settles holds).imp fun _ s₁ ⟨grows, gets⟩ => ?_)
      refine ih.imp fun _ s₂ ⟨grows₂, settles⟩ => ⟨grows.trans grows₂, fun waits => ?_⟩
      exact settles (gets rest waits)

theorem extractCreate_settles (extracts : task.Extracts ctx item) :
    (Course.settling task).Runs (extractCreate task ctx) s fun _ s' =>
      ∀ method operation, creator? task ctx = some (method, operation) →
        ctx.CreationMade task operation method s' := by
  unfold extractCreate
  cases creates : creator? task ctx with
  | none =>
      refine .pure ?_
      intro _ _ isSome
      cases isSome
  | some creator =>
      obtain ⟨method, operation⟩ := creator
      dsimp only
      refine (Course.Runs.reads (operationId_reads ..)).bind fun id s₁ _ ⟨_, hasId⟩ => ?_
      refine (Course.Runs.reads (requestSchema_reads ..)).bind fun request s₂ _ ⟨_, sent⟩ => ?_
      refine (Course.Runs.reads (createdSchema?_reads ..)).bind
        fun response s₃ _ ⟨_, answered⟩ => ?_
      refine (pathParameters_settles ..).bind fun parameters s₄ _ holds => ?_
      have named : ∀ name bodies, ctx.CreateName task (singularTitle task id method)
          request.schema (response.map (·.schema)) name bodies →
            ctx.CreatesAs task method operation name bodies :=
        fun name bodies named => ⟨id, request, response, hasId, sent, answered, named⟩
      refine ⟨ends_bind.2 ((createResources_waits extracts creates named).imp ?_)⟩
      intro tokens s₅ ⟨grows₅, names, values, waits⟩
      refine (addAllPathParameters_settles holds).imp fun _ s₆ ⟨grows₆, settles⟩ => ?_
      refine ⟨⟨grows₅.trans grows₆, fun settled => settles (waits parameters settled)⟩, ?_⟩
      rintro _ _ ⟨⟩
      refine PathContext.CreationMade.later ⟨?_, fun request' sent' => ?_⟩ grows₆
      · rintro name bodies ⟨id', request', response', hasId', sent', answered', named⟩
        rw [← hasId.unique hasId', ← sent.unique sent', ← answered.unique answered'] at named
        exact names name bodies named
      · rw [← sent.unique sent']
        exact values

end Infer

/-! ## Paths -/

/-- Every read of a path has its functions, and every creation its resources. -/
structure PathContext.Answered (task : InferenceTask) (ctx : PathContext) (s : Session) : Prop where
  reads : ∀ operation name make, ctx.item.get = some operation →
    ctx.ReadsAs task operation name make → s.HasRead (task.token ctx.module name) ctx.path
  creates : ∀ method operation, Infer.creator? task ctx = some (method, operation) →
    ctx.CreationMade task operation method s

theorem PathContext.Answered.later {task : InferenceTask} {ctx : PathContext} {s s' : Session}
    (h : ctx.Answered task s) (grows : s.Grows s') : ctx.Answered task s' :=
  ⟨fun operation name make isGet reads => (h.reads operation name make isGet reads).later grows,
    fun method operation creates => (h.creates method operation creates).later grows⟩

theorem Infer.extractOperations_settles {task : InferenceTask} {s : Session} {ctx : PathContext}
    {item : PathItem} (extracts : task.Extracts ctx item) :
    (Course.settling task).Runs (extractOperations task ctx) s fun _ => ctx.Answered task := by
  have provides : ∀ method operation, ctx.item.operation? method = some operation →
      task.Provides method.slot ctx.path :=
    fun method operation present => extracts.provides method (by rw [present]; rfl)
  unfold extractOperations
  refine (Course.Runs.optionForM fun operation isGet =>
    extractGet_settles extracts isGet).bind fun _ s₁ _ read => ?_
  refine (Course.Runs.optionForM fun operation isPatch =>
    settles_of_tabulates (extractChange_writesTables ..) (RunFrame.extractChange_runs
      (provides .patch operation isPatch) (by decide))).bind fun _ s₂ later₂ _ => ?_
  refine (Course.Runs.optionForM fun operation isPut =>
    settles_of_tabulates (extractChange_writesTables ..) (RunFrame.extractChange_runs
      (provides .put operation isPut) (by decide))).bind fun _ s₃ later₃ _ => ?_
  refine (Course.Runs.optionForM fun operation isDelete =>
    settles_of_tabulates (extractDelete_writesTables ..) (RunFrame.extractDelete_runs
      (provides .delete operation isDelete))).bind fun _ s₄ later₄ _ => ?_
  refine (extractCreate_settles extracts).imp fun _ s₅ later₅ created => ⟨?_, created⟩
  intro operation name make isGet reads
  have grows := later₂.1.trans (later₃.1.trans (later₄.1.trans later₅.1))
  exact (read operation isGet name make reads).later grows

theorem Course.settling_runsPaths (task : InferenceTask) :
    (Course.settling task).RunsPaths task (PathContext.Answered task) where
  lasts later answered := answered.later later.1
  modules _ _ := Infer.settling_of_aside (.of_tables rfl) rfl
  operations extracts _ := Infer.extractOperations_settles extracts

theorem Session.new_settled (task : InferenceTask) : (Session.new task.options).Settled task := by
  refine ⟨fun token type present => ?_, fun token f present => ?_, fun token r present => ?_⟩
  all_goals cases present

/-- The session of a successful run is settled: its types are shaped, and its functions and
resources are those of reads and creations of the document. Every path has all of its own there. -/
theorem extract_origins {task : InferenceTask} {e : Extraction} (h : extract task = .ok e) :
    task.lastSession.Settled task ∧
      ∀ ctx item, task.Extracts ctx item → ctx.Answered task task.lastSession := by
  have runs := Course.settling_runsPaths task
  refine ⟨(runs.lastSession_extracted h).1.2 (Session.new_settled task), ?_⟩
  exact fun ctx item extracts => runs.lastSession_made h extracts

/-! ## Shapes of an extraction -/

/-- In an extraction, all object types are shaped, those among the inputs and results of functions
too. A resource requires only what it has, in ascending order; and what can be set on it is shown,
or is a path parameter of the creation whose path the table has for it. -/
theorem extraction_shaped {task : InferenceTask} {e : Extraction} (h : extract task = .ok e) :
    (∀ token type, e.package.types.get? token = some type → type.Shaped) ∧
    (∀ token f, e.package.functions.get? token = some f → f.Shaped) ∧
    ∀ token r, e.package.resources.get? token = some r →
      PropertyMap.Lists r.properties r.required ∧
      PropertyMap.Lists r.inputProperties r.requiredInputs ∧
      ∃ ctx item method operation, task.Extracts ctx item ∧
        Infer.creator? task ctx = some (method, operation) ∧
        e.metadata.Seated token .create ctx.path ∧
        ∀ name, r.inputProperties.contains name = true → r.properties.contains name = true ∨
          ∃ wire, operation.HasPathParameter task.document ctx.item wire ∧
            Naming.sdkName wire = name := by
  obtain ⟨settled, -⟩ := extract_origins h
  rw [extract_eq_finish h]
  refine ⟨settled.types, fun token f present => ?_, fun token r present => ?_⟩
  · obtain ⟨_, origin⟩ := settled.functions token f present
    exact origin.shaped
  · obtain ⟨maker, base, parameters, origin, holds, rfl⟩ := settled.resources token r present
    obtain ⟨item, extracts⟩ := origin.extracts
    refine ⟨origin.shaped.required,
      Infer.withPathParameters_lists holds.shaped origin.shaped.requiredInputs,
      maker.ctx, item, maker.method, maker.operation, extracts, origin.creates, origin.seated, ?_⟩
    intro name settable
    rcases (SortedMap.contains_union ..).1 settable with isParameter | own
    · exact .inr ((holds.names name).1 isParameter)
    · exact .inl (origin.shaped.shown name own)

/-- Books on shelves, which are made on a shelf and read one by one. -/
def shelvedBooks : InferenceTask :=
  (Document.having [] [
    ("/shelves/\x7bid\x7d/books", { PathItem.creating "createBook"
        (.item { Schema.texts ["title"] with required := ["title"] }) with
      parameters := [.inPath "id"] }),
    ("/shelves/\x7bid\x7d/books/\x7bbook_id\x7d", { PathItem.reading "getBook"
        (.item (.texts ["title"])) with
      parameters := [.inPath "id", .inPath "book_id"] })]).task

/-- The resource asks for the shelf and does not show it, and the function reads the normal form of
its path. -/
theorem shelvedBooks_run : (extract shelvedBooks).isOk = true ∧
    (shelvedBooks.lastSession.finish.package.resources.get? "pkg:shelves:Book").map (fun r =>
      decide ("shelvesId" ∈ r.requiredInputs) && !r.properties.contains "shelvesId") = some true ∧
    (shelvedBooks.lastSession.finish.package.functions.get? "pkg:shelves:getBook").isSome = true ∧
    (shelvedBooks.lastSession.finish.metadata.crud.get? "pkg:shelves:getBook").bind (·.get? .read) =
      some "/shelves/\x7bshelvesId\x7d/books/\x7bid\x7d" := by
  decide +kernel

/-- The shelf of a book must be set and is not shown, so it is a path parameter. -/
theorem shelvedBooks_shaped : ∃ e, extract shelvedBooks = .ok e ∧
    ∃ r, e.package.resources.get? "pkg:shelves:Book" = some r ∧
      "shelvesId" ∈ r.requiredInputs ∧ PropertyMap.Lists r.inputProperties r.requiredInputs ∧
        r.properties.contains "shelvesId" = false ∧
          ∃ (ctx : PathContext) (operation : Operation) (wire : String),
            e.metadata.Seated "pkg:shelves:Book" .create ctx.path ∧
              operation.HasPathParameter shelvedBooks.document ctx.item wire ∧
                Naming.sdkName wire = "shelvesId" := by
  obtain ⟨ran, facts, -, -⟩ := shelvedBooks_run
  have h := extract_of_isOk ran
  obtain ⟨-, -, resources⟩ := extraction_shaped h
  generalize shelvedBooks.lastSession.finish = e at h facts resources
  obtain ⟨r, present, only⟩ := Option.map_eq_some_iff.1 facts
  obtain ⟨required, hidden⟩ : "shelvesId" ∈ r.requiredInputs ∧
      r.properties.contains "shelvesId" = false := by simpa using only
  obtain ⟨-, lists, ctx, item, method, operation, -, -, seated, inputs⟩ := resources _ r present
  obtain ⟨wire, isParameter, named⟩ :=
    (inputs "shelvesId" (lists.present _ required)).resolve_left (by simp [hidden])
  exact ⟨e, h, r, present, required, lists, hidden, ctx, operation, wire, seated, isParameter,
    named⟩

end ResourceInference
