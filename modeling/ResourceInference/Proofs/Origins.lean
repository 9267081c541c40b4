import ResourceInference.Proofs.CrudTable
import ResourceInference.Proofs.ResourceShapes

/-!
# Where functions and resources come from

The reads of a document make functions (`FunctionMaker`), and its creations make resources
(`ResourceMaker`). In an extraction every function has been put under its token for some read
(`FunctionSpec.Known`), and every resource for some creation, with the path parameters of that
added (`ResourceSpec.Supplied`); and the table of paths has the path of its maker for the token. A
session of which this is true is settled (`Session.Settled`).

Between the steps of a creation this is not so: its resources are made one after the other, and
path parameters are added when all are there. What holds then is said with a list of the tokens that
still wait for their parameters (`ResourceSpec.Pending`); the list grows with each resource that is
made, and shrinks with each that gets its parameters.
-/

set_option autoImplicit false

namespace ResourceInference

/-! ## Names of functions and resources -/

namespace PathContext

variable (task : InferenceTask) (ctx : PathContext)

/-- The function of a read that answers with one thing, or with nothing. -/
def getting (operation : Operation) (title : String) (returns : Option Lookup.Found) :
    Infer FunctionSpec :=
  Infer.getFunction task ⟨ctx.module, title⟩ ctx.item operation ("get" ++ title) returns

/-- The function of a read that lists. -/
def listing (operation : Operation) (title : String) (returns : Lookup.Found) :
    Infer FunctionSpec :=
  Infer.listFunction task ⟨ctx.module, Naming.singular title task.options.allowedPlurals⟩ ctx.item
    operation ("list" ++ title) returns

/-- The title of the component that a discriminator points at. -/
def branchTitle (reference : String) (found : Lookup.Found) : String :=
  Naming.schemaTitle (Lookup.schemaName reference) found.schema.title

/-- The names of the functions of a read, by its id and by what it returns, and the steps that make
them. -/
inductive ReadName (operation : Operation) (id : String) :
    Option Lookup.Found → String → Infer FunctionSpec → Prop where
  | action : ReadName operation id none ("get" ++ Infer.singularTitle task id .get)
      (ctx.getting task operation (Infer.singularTitle task id .get) none)
  | list {returns : Lookup.Found} (isList : lists id returns.schema = true) :
      ReadName operation id (some returns) ("list" ++ Infer.operationTitle task id .get)
        (ctx.listing task operation (Infer.operationTitle task id .get) returns)
  | whole {returns : Lookup.Found} (single : lists id returns.schema = false)
      (unbranched : discriminatorMapping returns.schema = []) :
      ReadName operation id (some returns) ("get" ++ Infer.singularTitle task id .get)
        (ctx.getting task operation (Infer.singularTitle task id .get) (some returns))
  | branch {value reference : String} {returns found : Lookup.Found}
      (single : lists id returns.schema = false)
      (member : (value, reference) ∈ discriminatorMapping returns.schema)
      (target : (Infer.discriminatorTarget task ctx.path reference).Yields found) :
      ReadName operation id (some returns) ("get" ++ branchTitle reference found)
        (ctx.getting task operation (branchTitle reference found) (some found))

/-- The names of the functions of a read, and the steps that make them. -/
def ReadsAs (operation : Operation) (name : String) (make : Infer FunctionSpec) : Prop :=
  ∃ id returned, (Infer.operationId .get ctx.path operation).Yields id ∧
    (Infer.returnedSchema? task ctx.path operation).Yields returned ∧
      ctx.ReadName task operation id returned name make

/-- The names and bodies of the resources of a creation, by its title, its request and its
response. -/
inductive CreateName (title : String) (request : Schema) (response : Option Schema) :
    String → ResourceBodies → Prop where
  | whole (unbranched : discriminatorMapping request = []) :
      CreateName title request response title (.whole request response)
  | branch {value reference : String} {found : Lookup.Found} {answer : Option Schema}
      (member : (value, reference) ∈ discriminatorMapping request)
      (target : (Infer.discriminatorTarget task ctx.path reference).Yields found)
      (answered : (Infer.branchAnswer task ctx response value).Yields answer) :
      CreateName title request response (Naming.pascalCase value) ⟨found.schema, answer, false⟩

/-- The names and bodies of the resources of a creation. -/
def CreatesAs (method : Method) (operation : Operation) (name : String) (bodies : ResourceBodies) :
    Prop :=
  ∃ id request response, (Infer.operationId method ctx.path operation).Yields id ∧
    (Infer.requestSchema task method ctx.path operation).Yields request ∧
      (Infer.createdSchema? task operation).Yields response ∧
        ctx.CreateName task (Infer.singularTitle task id method) request.schema
          (response.map (·.schema)) name bodies

end PathContext

/-! ## Makers -/

/-- A read that has a function made under a name. -/
structure FunctionMaker where
  ctx : PathContext
  operation : Operation
  name : String
  make : Infer FunctionSpec

/-- A creation that has a resource made of bodies under a name. -/
structure ResourceMaker where
  ctx : PathContext
  method : Method
  operation : Operation
  name : String
  bodies : ResourceBodies

section

variable (task : InferenceTask)

/-- The read belongs to the document, and the function has the name and is made so. -/
structure FunctionMaker.Makes (maker : FunctionMaker) : Prop where
  extracts : ∃ item, task.Extracts maker.ctx item
  isGet : maker.ctx.item.get = some maker.operation
  named : maker.ctx.ReadsAs task maker.operation maker.name maker.make

/-- The creation belongs to the document, and the resource has the name and the bodies. -/
structure ResourceMaker.Makes (maker : ResourceMaker) : Prop where
  extracts : ∃ item, task.Extracts maker.ctx item
  creates : Infer.creator? task maker.ctx = some (maker.method, maker.operation)
  named : maker.ctx.CreatesAs task maker.method maker.operation maker.name maker.bodies

/-- The token of the function. -/
def FunctionMaker.token (maker : FunctionMaker) : String :=
  task.token maker.ctx.module maker.name

/-- The token of the resource. -/
def ResourceMaker.token (maker : ResourceMaker) : String :=
  task.token maker.ctx.module maker.name

end

/-! ## Origins -/

/-- The step gives the result in some session. -/
def Infer.Results {α : Type} (x : Infer α) (a : α) : Prop := ∃ s s', x.run.run s = (.ok a, s')

theorem Infer.ends_results {α : Type} (x : Infer α) (s : Session) :
    Ends x s (fun a _ => x.Results a) fun _ _ => True :=
  (ends_ran x s).mono (fun _ s' ran => ⟨s, s', ran⟩) fun _ _ _ => trivial

section

variable (task : InferenceTask) (m : Metadata) (token : String)

/-- The function has been made for the read of a path, and put under the token, where the table has
the path. -/
structure FunctionSpec.Origin (f : FunctionSpec) (maker : FunctionMaker) : Prop extends
    maker.Makes task where
  token_eq : maker.token task = token
  seated : m.Seated token .read maker.ctx.path
  made : maker.make.Results f
  inputs : ∃ inputs, f.inputs = some inputs ∧
    inputs.HoldsPathParameters task.document maker.ctx.item maker.operation
  shaped : f.Shaped

/-- The resource has been made for the creation of a path, and put under the token, where the table
has the path. Path parameters have not been added to it. -/
structure ResourceSpec.Origin (r : ResourceSpec) (maker : ResourceMaker) : Prop extends
    maker.Makes task where
  token_eq : maker.token task = token
  seated : m.Seated token .create maker.ctx.path
  made : ∃ draft, (Infer.gatherDraft task ⟨maker.ctx.module, maker.name⟩ token
    maker.bodies).Results draft ∧ draft.toResource maker.bodies.request.description = r
  shaped : r.Shaped

/-- The function has been put under the token for some read. -/
def FunctionSpec.Known (f : FunctionSpec) : Prop := ∃ maker, f.Origin task m token maker

/-- The resource has been made for a creation, and has the path parameters of that. -/
def ResourceSpec.MadeBy (r : ResourceSpec) (maker : ResourceMaker) : Prop :=
  ∃ base parameters, base.Origin task m token maker ∧
    parameters.HoldsPathParameters task.document maker.ctx.item maker.operation ∧
      r = Infer.withPathParameters parameters base

/-- The resource has been made for some creation, and has the path parameters of that. -/
def ResourceSpec.Supplied (r : ResourceSpec) : Prop := ∃ maker, r.MadeBy task m token maker

/-- The resource has been made for a creation, whose path parameters it may still lack. -/
def ResourceSpec.Open (ctx : PathContext) (operation : Operation) (parameters : ObjectType)
    (r : ResourceSpec) : Prop :=
  ∃ method name bodies base, base.Origin task m token ⟨ctx, method, operation, name, bodies⟩ ∧
    (r = base ∨ r = Infer.withPathParameters parameters base)

/-- The resource has its path parameters, unless its token is among those that wait for them. -/
def ResourceSpec.Pending (ctx : PathContext) (operation : Operation) (parameters : ObjectType)
    (waiting : List String) (r : ResourceSpec) : Prop :=
  if token ∈ waiting then r.Open task m token ctx operation parameters
  else r.Supplied task m token

namespace ResourceSpec.Pending

variable {task m token} {ctx : PathContext} {operation : Operation} {parameters : ObjectType}
  {waiting waiting' : List String} {r : ResourceSpec}

/-- Only the token of the resource counts among those that wait. -/
theorem of_mem_iff (same : token ∈ waiting' ↔ token ∈ waiting)
    (h : r.Pending task m token ctx operation parameters waiting) :
    r.Pending task m token ctx operation parameters waiting' := by
  unfold ResourceSpec.Pending at h ⊢
  simpa only [same] using h

theorem of_open (isWaiting : token ∈ waiting) (h : r.Open task m token ctx operation parameters) :
    r.Pending task m token ctx operation parameters waiting := by
  unfold ResourceSpec.Pending
  rwa [if_pos isWaiting]

/-- The resource of a token that waits gets its path parameters. The token may wait once more, if it
has been made twice; then they are added again, which changes nothing. -/
theorem withPathParameters (h : r.Pending task m token ctx operation parameters (token :: waiting))
    (holds : parameters.HoldsPathParameters task.document ctx.item operation) :
    (Infer.withPathParameters parameters r).Pending task m token ctx operation parameters
      waiting := by
  unfold ResourceSpec.Pending at h ⊢
  rw [if_pos List.mem_cons_self] at h
  obtain ⟨method, name, bodies, base, origin, isBase⟩ := h
  have supplied : Infer.withPathParameters parameters r =
      Infer.withPathParameters parameters base := by
    rcases isBase with rfl | rfl
    · rfl
    · exact Infer.withPathParameters_twice parameters base
  rw [supplied]
  split
  · exact ⟨method, name, bodies, base, origin, .inr rfl⟩
  · exact ⟨_, base, parameters, origin, holds, rfl⟩

end ResourceSpec.Pending

end

/-- The second table has all that the first one has. -/
def Metadata.SeatedIn (m m' : Metadata) : Prop :=
  ∀ token slot path, m.Seated token slot path → m'.Seated token slot path

section

variable {task : InferenceTask} {m m' : Metadata} {token : String} (kept : m.SeatedIn m')

include kept

theorem FunctionSpec.Known.later {f : FunctionSpec} (h : f.Known task m token) :
    f.Known task m' token := by
  obtain ⟨maker, origin⟩ := h
  exact ⟨maker, { origin with seated := kept _ _ _ origin.seated }⟩

theorem ResourceSpec.Origin.later {r : ResourceSpec} {maker : ResourceMaker}
    (h : r.Origin task m token maker) : r.Origin task m' token maker :=
  { h with seated := kept _ _ _ h.seated }

theorem ResourceSpec.Supplied.later {r : ResourceSpec} (h : r.Supplied task m token) :
    r.Supplied task m' token := by
  obtain ⟨maker, base, parameters, origin, rest⟩ := h
  exact ⟨maker, base, parameters, origin.later kept, rest⟩

theorem ResourceSpec.Pending.later {r : ResourceSpec} {ctx : PathContext} {operation : Operation}
    {parameters : ObjectType} {waiting : List String}
    (h : r.Pending task m token ctx operation parameters waiting) :
    r.Pending task m' token ctx operation parameters waiting := by
  unfold ResourceSpec.Pending at h ⊢
  split
  · rename_i isWaiting
    rw [if_pos isWaiting] at h
    obtain ⟨method, name, bodies, base, origin, rest⟩ := h
    exact ⟨method, name, bodies, base, origin.later kept, rest⟩
  · rename_i notWaiting
    rw [if_neg notWaiting] at h
    exact h.later kept

end

/-! ## Sessions -/

namespace Session

/-- All registered types are shaped, all functions are known, and all resources are as `made`
says. -/
structure Known (task : InferenceTask) (made : Metadata → String → ResourceSpec → Prop)
    (s : Session) : Prop where
  types : s.Shaped
  functions : ∀ token f, s.package.functions.get? token = some f → f.Known task s.metadata token
  resources : ∀ token r, s.package.resources.get? token = some r → made s.metadata token r

/-- All resources have their path parameters. -/
def Settled (task : InferenceTask) (s : Session) : Prop :=
  s.Known task fun m token r => r.Supplied task m token

/-- All resources have the path parameters of their creation, but for those of one creation whose
tokens wait for them. -/
def Waits (task : InferenceTask) (ctx : PathContext) (operation : Operation)
    (parameters : ObjectType) (waiting : List String) (s : Session) : Prop :=
  s.Known task fun m token r => r.Pending task m token ctx operation parameters waiting

/-- Filled slots stay filled, and tokens stay those of resources and functions. -/
structure Grows (s s' : Session) : Prop where
  seated : s.metadata.SeatedIn s'.metadata
  resources : ∀ token, s.package.resources.contains token = true →
    s'.package.resources.contains token = true
  functions : ∀ token, s.package.functions.contains token = true →
    s'.package.functions.contains token = true

/-- Resources and functions are the same, and filled slots stay filled. -/
structure Aside (s s' : Session) : Prop where
  resources : s'.package.resources = s.package.resources
  functions : s'.package.functions = s.package.functions
  seated : s.metadata.SeatedIn s'.metadata

variable {task : InferenceTask} {made made' : Metadata → String → ResourceSpec → Prop}
  {s s' s'' : Session} {token path : String} {slot : CrudSlot}

theorem Grows.trans (first : s.Grows s') (second : s'.Grows s'') : s.Grows s'' where
  seated token slot path before := second.seated _ _ _ (first.seated token slot path before)
  resources token isResource := second.resources token (first.resources token isResource)
  functions token isFunction := second.functions token (first.functions token isFunction)

theorem Aside.of_tables {types : SortedMap NamedType} {metadata : Metadata} {visited : SortedSet}
    {journal : List Event} (crud : metadata.crud = s.metadata.crud) :
    s.Aside ⟨{ s.package with types }, metadata, visited, journal⟩ := by
  refine ⟨rfl, rfl, fun token slot path before => ?_⟩
  unfold Metadata.Seated
  rw [crud]
  exact before

theorem Aside.refl (s : Session) : s.Aside s := ⟨rfl, rfl, fun _ _ _ => id⟩

theorem Aside.trans (first : s.Aside s') (second : s'.Aside s'') : s.Aside s'' where
  resources := second.resources.trans first.resources
  functions := second.functions.trans first.functions
  seated token slot path before := second.seated _ _ _ (first.seated token slot path before)

theorem Aside.grows (h : s.Aside s') : s.Grows s' where
  seated := h.seated
  resources token isResource := by rwa [h.resources]
  functions token isFunction := by rwa [h.functions]

theorem Grows.refl (s : Session) : s.Grows s := (Aside.refl s).grows

theorem Seats.aside (h : s.Seats s' token slot path) : s.Aside s' where
  resources := by rw [h.package]
  functions := by rw [h.package]
  seated _ _ _ := h.kept

theorem Grows.withResource (s : Session) (token : String) (r : ResourceSpec) :
    s.Grows (s.withResource token r) where
  seated _ _ _ := id
  resources _ isResource := (SortedMap.contains_insert ..).2 (.inr isResource)
  functions _ := id

theorem Grows.withFunction (s : Session) (token : String) (f : FunctionSpec) :
    s.Grows (s.withFunction token f) where
  seated _ _ _ := id
  resources _ := id
  functions _ isFunction := (SortedMap.contains_insert ..).2 (.inr isFunction)

/-! ### Changes of a session in which all is known -/

theorem Known.imp (h : s.Known task made)
    (weaker : ∀ token r, s.package.resources.get? token = some r →
      made s.metadata token r → made' s.metadata token r) : s.Known task made' :=
  ⟨h.types, h.functions, fun token r present =>
    weaker token r present (h.resources token r present)⟩

/-- What is known of resources and functions stays known where they are the same. -/
theorem Known.later (h : s.Known task made) (aside : s.Aside s')
    (lasts : ∀ token r, made s.metadata token r → made s'.metadata token r) (types : s'.Shaped) :
    s'.Known task made := by
  refine ⟨types, fun token f present => ?_, fun token r present => ?_⟩
  · rw [aside.functions] at present
    exact (h.functions token f present).later aside.seated
  · rw [aside.resources] at present
    exact lasts token r (h.resources token r present)

theorem Settled.later (h : s.Settled task) (aside : s.Aside s') (types : s'.Shaped) :
    s'.Settled task :=
  Known.later h aside (fun _ _ supplied => supplied.later aside.seated) types

theorem Settled.withFunction {f : FunctionSpec} (h : s.Settled task)
    (known : f.Known task s.metadata token) : (s.withFunction token f).Settled task := by
  refine ⟨h.types, fun other f' present => ?_, h.resources⟩
  rw [get?_withFunction] at present
  split at present
  · rename_i same
    cases present
    exact same ▸ known
  · exact h.functions other f' present

theorem Known.withResource {r : ResourceSpec} (h : s.Known task made)
    (here : made' s.metadata token r)
    (elsewhere : ∀ other r, other ≠ token → made s.metadata other r → made' s.metadata other r) :
    (s.withResource token r).Known task made' := by
  refine ⟨h.types, h.functions, fun other r' present => ?_⟩
  rw [get?_withResource] at present
  split at present
  · rename_i same
    cases present
    exact same ▸ here
  · rename_i ne
    exact elsewhere other r' ne (h.resources other r' present)

/-- Nothing waits for its path parameters. -/
theorem waits_nil_iff {ctx : PathContext} {operation : Operation} {parameters : ObjectType} :
    s.Waits task ctx operation parameters [] ↔ s.Settled task := by
  simp [Waits, Settled, ResourceSpec.Pending]

end Session

/-! ## Steps that leave resources and functions aside -/

/-- The course along which resources and functions stay as they are. -/
def Course.aside : Course where
  rel := Session.Aside
  breaks _ _ := True
  refl := .refl
  trans := .trans
  breaksOff _ := trivial
  breaksLater _ _ := trivial

theorem Infer.recordName_aside {s : Session} (wire sdk : String) :
    Course.aside.Runs (recordName wire sdk) s fun _ _ => True := by
  refine ⟨(recordName_ends wire sdk).imp ?_⟩
  rintro _ s' (⟨-, rfl⟩ | ⟨_, _, -, -, rfl⟩)
  · exact ⟨.refl _, trivial⟩
  · exact ⟨.of_tables rfl, trivial⟩

/-- The frame along which resources and functions stay as they are. -/
def Frame.aside (task : InferenceTask) : Frame task where
  toCourse := .aside
  toFinds := .all task.document
  done _ _ := True
  named _ _ := True
  doneLasts _ := id
  namedLasts _ := id
  registers _ _ := .of_tables rfl
  forms _ := .of_tables rfl
  merges _ _ := .of_tables rfl
  drops _ _ := .of_tables rfl
  records _ _ := Infer.recordName_aside ..
  pathParameters _ _ := .of_tables rfl
  autoNames _ _ := .of_tables rfl
  finishes _ := trivial
  refers _ _ _ := .of_tables rfl
  builds {s s' component token schema} _ later _ _ _ := by
    have entered : s.Aside ((s.noted (.referred component token)).entering token) := .of_tables rfl
    have left : s'.Aside (s'.noted (.left token)) := .of_tables rfl
    exact (entered.trans later).trans left
  breaksBuilding _ := trivial

namespace Infer

variable {task : InferenceTask} {α β : Type} {s : Session}

/-- The step leaves resources and functions as they are; if the registered types are shaped, it
keeps them so and gives what `post` says. -/
structure LeavesAside (x : Infer α) (post : α → Prop) : Prop where
  ends : ∀ s, Ends x s (fun a s' => s.Aside s' ∧ (s.Shaped → s'.Shaped ∧ post a ∧ x.Results a))
    fun _ _ => True

theorem LeavesAside.of_ends {x : Infer α} {post : α → Prop} (shapes : Shapes x post)
    (aside : ∀ s, Ends x s (fun _ s' => s.Aside s') fun _ _ => True) : LeavesAside x post := by
  refine ⟨fun s => ?_⟩
  by_cases shaped : s.Shaped
  · have given := (shapes.ends s shaped).and (ends_results x s)
    refine ((aside s).and given).mono ?_ fun _ _ _ => trivial
    intro a s' ⟨aside, ⟨shaped', given⟩, results⟩
    exact ⟨aside, fun _ => ⟨shaped', given, results⟩⟩
  · exact (aside s).imp fun a s' aside => ⟨aside, fun h => absurd h shaped⟩

theorem LeavesAside.of_runs {x : Infer α} {post : α → Prop} {known : Session → α → Session → Prop}
    (shapes : Shapes x post) (runs : ∀ s, (Frame.aside task).course.Runs x s (known s)) :
    LeavesAside x post :=
  .of_ends shapes fun s => (runs s).ends.mono (fun _ _ ⟨later, _⟩ => later.1) fun _ _ _ => trivial

theorem gatherDraft_leavesAside (scope : Scope) (token : String) (bodies : ResourceBodies) :
    LeavesAside (gatherDraft task scope token bodies) ResourceDraft.Shaped :=
  .of_runs gatherDraft_shapes fun _ => Frame.gatherDraft_runs

section

variable (scope : Scope) (item : PathItem) (operation : Operation) (name : String)

theorem pathParameters_leavesAside : LeavesAside (pathParameters task item operation) fun o =>
    o.HoldsPathParameters task.document item operation :=
  .of_runs (pathParameters_upholds .tables task item operation) fun _ => Frame.pathParameters_runs

theorem getFunction_leavesAside (returns : Option Lookup.Found) :
    LeavesAside (getFunction task scope item operation name returns) fun function =>
      ∃ inputs, function.inputs = some inputs ∧
        inputs.HoldsPathParameters task.document item operation ∧ function.Shaped :=
  .of_runs getFunction_shapes fun _ =>
    Frame.getFunction_runs (F := .aside task) fun _ _ => trivial

theorem listFunction_leavesAside (returns : Lookup.Found) :
    LeavesAside (listFunction task scope item operation name returns) fun function =>
      ∃ inputs, function.inputs = some inputs ∧
        inputs.HoldsPathParameters task.document item operation ∧ function.Shaped := by
  have renamed : ∀ type s, Course.aside.Runs (renameListType name type) s fun _ _ => True := by
    intro type s
    refine ⟨(renameListType_ends name type s).mono ?_ fun _ _ => False.elim⟩
    intro _ s' moves
    cases moves <;> exact ⟨.of_tables rfl, trivial⟩
  have onCourse : ∀ {α : Type} {x : Infer α} {s : Session} {post : α → Session → Prop},
      (Frame.aside task).course.Runs x s post → Course.aside.Runs x s post :=
    fun h => ⟨h.ends.mono (fun _ _ ⟨later, holds⟩ => ⟨later.1, holds⟩) fun _ _ _ => trivial⟩
  refine .of_ends listFunction_shapes fun s => ?_
  have runs : Course.aside.Runs (listFunction task scope item operation name returns) s
      fun _ _ => True := by
    unfold listFunction
    refine (onCourse Frame.pathParameters_runs).bind fun inputs s₁ _ _ => ?_
    refine (onCourse (Frame.propertyType_serves (.aside task) _ _ returns s₁ trivial)).bind
      fun resolved s₂ _ _ => ?_
    exact (renamed _ s₂).bind fun _ _ _ _ => .pure trivial
  exact runs.ends.imp fun _ _ => And.left

end

end Infer

end ResourceInference
