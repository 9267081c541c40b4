import ResourceInference.Proofs.Coverage

/-!
# What resources and functions ask for

A resource is made of bodies, a request and perhaps a response. Making it records the names of their
properties and required names (`ResourceBodies.OwnName`), and asks for the types that their
properties and parts lead to (`ResourceBodies.Asks`). A function records the names of path
parameters, and asks for what it returns. The steps that do so stay on the course of every `Frame`
(`Frame.gatherDraft_runs`, `Frame.getFunction_runs`).
-/

set_option autoImplicit false

namespace ResourceInference

/-! ## Bodies -/

/-- The schema is one of the bodies. -/
def ResourceBodies.Has (bodies : ResourceBodies) (body : Schema) : Prop :=
  body = bodies.request ∨ bodies.response = some body

/-- The wire names that bodies give to members of their resource. -/
inductive ResourceBodies.OwnName (bodies : ResourceBodies) : String → Prop where
  | property {body : Schema} {wire : String} {part : SchemaOrRef} (isBody : bodies.Has body)
      (member : (wire, part) ∈ body.properties) : OwnName bodies wire
  | required {body : Schema} {wire : String} (isBody : bodies.Has body)
      (member : wire ∈ body.required) : OwnName bodies wire

/-- The finds whose types are asked for when a resource is made of bodies. -/
inductive ResourceBodies.Asks (d : Document) (bodies : ResourceBodies) : Lookup.Found → Prop where
  | property {body : Schema} {wire : String} {part : SchemaOrRef} {found : Lookup.Found}
      (isBody : bodies.Has body) (member : (wire, part) ∈ body.properties)
      (asks : part.Property d found) : Asks d bodies found
  | answered {response : Schema} {part : SchemaOrRef} {found : Lookup.Found}
      (isResponse : bodies.response = some response) (member : part ∈ response.allOf)
      (merges : part.Merges d found) : Asks d bodies found
  | requested {part : SchemaOrRef} {found : Lookup.Found} (member : part ∈ bodies.request.allOf)
      (located : Lookup.schema d part = .ok found) (objectLike : found.schema.isObjectLike = true) :
      Asks d bodies found

/-- All that is needed for a resource of bodies is done. -/
structure ResourceBodies.Covered (d : Document) (done : Lookup.Found → Prop)
    (named : String → Prop) (bodies : ResourceBodies) : Prop where
  names : ∀ wire, bodies.OwnName wire → named wire
  asked : ∀ found, bodies.Asks d found → done found

theorem ResourceBodies.Covered.imp {d : Document} {done done' : Lookup.Found → Prop}
    {named named' : String → Prop} {bodies : ResourceBodies} (h : bodies.Covered d done named)
    (laterDone : ∀ found, done found → done' found)
    (laterNamed : ∀ wire, named wire → named' wire) : bodies.Covered d done' named' :=
  ⟨fun wire own => laterNamed wire (h.names wire own),
    fun found asks => laterDone found (h.asked found asks)⟩

/-- The wire names of the path parameters of a path and of one of its operations. -/
def Operation.HasPathParameter (d : Document) (item : PathItem) (operation : Operation)
    (wire : String) : Prop :=
  ∃ entry ∈ item.parameters ++ operation.parameters, ∃ parameter,
    Lookup.parameter d entry = .ok parameter ∧ parameter.isPath = true ∧ parameter.name = wire

namespace Frame

variable {task : InferenceTask} {F : Frame task} {s : Session} {scope : Scope}

/-! ## Properties of bodies -/

variable (F) in
/-- The name of a property is recorded, and its type has been asked for. -/
def PropertyDone (entry : String × SchemaOrRef) (s : Session) : Prop :=
  F.named entry.1 s ∧ ∀ found, entry.2.Property task.document found → F.done found s

theorem PropertyDone.later {entry : String × SchemaOrRef} {s' : Session}
    (h : F.PropertyDone entry s) (later : F.rel s s') : F.PropertyDone entry s' :=
  ⟨F.namedLasts later h.1, fun found asks => F.doneLasts later (h.2 found asks)⟩

theorem bodyProperty_runs {entry : String × SchemaOrRef} :
    F.course.Runs (Infer.bodyProperty task scope entry) s fun _ => F.PropertyDone entry := by
  obtain ⟨wire, part⟩ := entry
  unfold Infer.bodyProperty Infer.resourceProperty
  refine Course.Runs.find.bind fun found s₁ _ ⟨_, located⟩ => ?_
  rw [bind_assoc]
  refine (propertyTypeOf_runs (propertyType_serves F) located).bind fun type s₂ _ done => ?_
  rw [pure_bind]
  refine (recordName_runs wire).bind fun _ s₃ later₃ named => .pure ⟨named, fun inner asks => ?_⟩
  exact F.doneLasts later₃.1 (done inner asks)

theorem gatherRequestProperty_runs {draft : ResourceDraft} {entry : String × SchemaOrRef} :
    F.course.Runs (Infer.gatherRequestProperty task scope draft entry) s fun _ =>
      F.PropertyDone entry :=
  bodyProperty_runs.bind fun _ _ _ done => .pure done

theorem gatherResponseProperty_runs {draft : ResourceDraft} {entry : String × SchemaOrRef} :
    F.course.Runs (Infer.gatherResponseProperty task scope draft entry) s fun _ =>
      F.PropertyDone entry :=
  bodyProperty_runs.bind fun _ _ _ done => .pure done

/-- A fold over properties that is done with one at each step is done with all in the end. -/
theorem properties_runs {gather : ResourceDraft → String × SchemaOrRef → Infer ResourceDraft}
    (each : ∀ {draft entry s}, F.course.Runs (gather draft entry) s fun _ => F.PropertyDone entry)
    {entries : List (String × SchemaOrRef)} {draft : ResourceDraft} :
    F.course.Runs (entries.foldlM gather draft) s fun _ s' =>
      ∀ entry ∈ entries, F.PropertyDone entry s' := by
  refine .foldlM (fun entry s s' later done => ?_) fun entry _ draft s => ?_
  · exact done.later later.1
  · exact each

theorem gatherResponse_runs {draft : ResourceDraft} {response : Schema} :
    F.course.Runs (Infer.gatherResponse task scope draft response) s fun _ s' =>
      (∀ part ∈ response.allOf, ∀ found, part.Merges task.document found → F.done found s') ∧
        ∀ entry ∈ response.properties, F.PropertyDone entry s' := by
  unfold Infer.gatherResponse
  refine (mergedMembers_runs (propertyType_serves F)).bind fun merged s₁ _ done => ?_
  refine (properties_runs gatherResponseProperty_runs).imp
    fun _ s₂ later₂ shown => ⟨fun part member found merges => ?_, shown⟩
  exact F.doneLasts later₂.1 (done part member found merges)

theorem gatherAnswer_runs {draft : ResourceDraft} {response : Option Schema} :
    F.course.Runs (Infer.gatherAnswer task scope draft response) s fun _ s' =>
      ∀ body, response = some body →
        (∀ part ∈ body.allOf, ∀ found, part.Merges task.document found → F.done found s') ∧
          ∀ entry ∈ body.properties, F.PropertyDone entry s' := by
  cases response with
  | none => exact .pure (by simp)
  | some response =>
      refine gatherResponse_runs.imp ?_
      rintro _ s' - done _ ⟨⟩
      exact done

/-! ## Required names -/

theorem gatherRequiredInput_runs {token wire : String} {request : Schema} {draft : ResourceDraft} :
    F.course.Runs (Infer.gatherRequiredInput task token request draft wire) s fun _ _ => True := by
  unfold Infer.gatherRequiredInput
  split
  · exact .pure trivial
  · refine Course.Runs.find.bind fun found s₁ _ _ => ?_
    split
    · exact .pure trivial
    · split
      · exact setAutoName_runs.bind fun _ _ _ _ => .pure trivial
      · exact .pure trivial

theorem gatherRequiredOutput_runs {wire : String} {draft : ResourceDraft} :
    F.course.Runs (Infer.gatherRequiredOutput draft wire) s fun _ => F.named wire := by
  unfold Infer.gatherRequiredOutput
  exact (recordName_runs wire).bind fun _ _ _ named => .pure named

theorem requiredInputs_runs {token : String} {request : Schema} {wires : List String}
    {draft : ResourceDraft} :
    F.course.Runs (wires.foldlM (Infer.gatherRequiredInput task token request) draft) s
      fun _ _ => True :=
  have each : F.course.Runs (wires.foldlM (Infer.gatherRequiredInput task token request) draft) s
      fun _ _ => ∀ wire ∈ wires, True :=
    .foldlM (fun _ _ _ _ _ => trivial) fun _ _ _ _ => gatherRequiredInput_runs
  each.imp fun _ _ _ _ => trivial

theorem requiredOutputs_runs {wires : List String} {draft : ResourceDraft} :
    F.course.Runs (wires.foldlM Infer.gatherRequiredOutput draft) s fun _ s' =>
      ∀ wire ∈ wires, F.named wire s' := by
  refine .foldlM (fun wire s s' later named => ?_) fun wire _ draft s => ?_
  · exact F.namedLasts later.1 named
  · exact gatherRequiredOutput_runs

/-! ## Parts of the request -/

theorem gatherPart_runs {stripRequired : Bool} {draft : ResourceDraft} {part : SchemaOrRef} :
    F.course.Runs (Infer.gatherPart task scope stripRequired draft part) s fun _ s' =>
      ∀ found, Lookup.schema task.document part = .ok found →
        found.schema.isObjectLike = true → F.done found s' := by
  unfold Infer.gatherPart
  refine Course.Runs.find.bind fun found s₁ _ ⟨_, located⟩ => ?_
  have only : ∀ {other}, Lookup.schema task.document part = .ok other → other = found :=
    fun located' => Except.ok.inj (located'.symm.trans located)
  split
  · rename_i skipped
    refine .pure fun other located' objectLike => ?_
    rw [only located'] at objectLike
    simp [objectLike] at skipped
  · rw [← bind_assoc]
    refine (take_runs F.doneLasts (propertyType_serves F _ _ _ _ (F.located located))).bind
      fun object s₂ _ done => ?_
    have all : ∀ other, Lookup.schema task.document part = .ok other →
        other.schema.isObjectLike = true → F.done other s₂ := by
      intro other located' _
      rwa [only located']
    cases object with
    | none => exact .pure all
    | some object => exact .pure all

theorem parts_runs {stripRequired : Bool} {parts : List SchemaOrRef} {draft : ResourceDraft} :
    F.course.Runs (parts.foldlM (Infer.gatherPart task scope stripRequired) draft) s fun _ s' =>
      ∀ part ∈ parts, ∀ found, Lookup.schema task.document part = .ok found →
        found.schema.isObjectLike = true → F.done found s' := by
  refine .foldlM (fun part s s' later done found located isObject => ?_) fun part _ draft s => ?_
  · exact F.doneLasts later.1 (done found located isObject)
  · exact gatherPart_runs

/-! ## Resources -/

/-- A resource is made with all that is needed for it. -/
theorem gatherDraft_runs {token : String} {bodies : ResourceBodies} :
    F.course.Runs (Infer.gatherDraft task scope token bodies) s fun _ s' =>
      bodies.Covered task.document (F.done · s') (F.named · s') := by
  unfold Infer.gatherDraft
  dsimp only
  refine (properties_runs gatherRequestProperty_runs).bind fun draft s₁ _ requested => ?_
  refine gatherAnswer_runs.bind fun draft s₂ later₂ answered => ?_
  refine requiredInputs_runs.bind fun draft s₃ later₃ _ => ?_
  refine requiredOutputs_runs.bind fun draft s₄ later₄ required => ?_
  refine parts_runs.imp fun draft s₅ later₅ added => ?_
  -- What the loops have established lasts along the loops after them.
  have sinceAnswer := F.trans later₃.1 (F.trans later₄.1 later₅.1)
  have properties : ∀ body, bodies.Has body → ∀ entry ∈ body.properties,
      F.PropertyDone entry s₅ := by
    rintro body (rfl | isResponse) entry member
    · exact (requested entry member).later (F.trans later₂.1 sinceAnswer)
    · exact ((answered body isResponse).2 entry member).later sinceAnswer
  have requiredNames : ∀ body, bodies.Has body → ∀ wire ∈ body.required, F.named wire s₅ := by
    intro body isBody wire member
    refine F.namedLasts later₅.1 (required wire ?_)
    rcases isBody with rfl | isResponse
    · exact List.mem_append_left _ member
    · exact List.mem_append_right _ (by simp [isResponse, member])
  refine ⟨fun wire own => ?_, fun found asks => ?_⟩
  · cases own with
    | property isBody member => exact (properties _ isBody _ member).1
    | required isBody member => exact requiredNames _ isBody wire member
  · cases asks with
    | property isBody member asks => exact (properties _ isBody _ member).2 found asks
    | answered isResponse member merges =>
        exact F.doneLasts sinceAnswer ((answered _ isResponse).1 _ member found merges)
    | requested member located objectLike => exact added _ member found located objectLike

/-! ## Functions -/

theorem addPathParameter_runs {properties : PropertyMap} {entry : RefOr Parameter} :
    F.course.Runs (Infer.addPathParameter task properties entry) s fun _ s' =>
      ∀ parameter, Lookup.parameter task.document entry = .ok parameter →
        parameter.isPath = true → F.named parameter.name s' := by
  unfold Infer.addPathParameter
  refine Course.Runs.ofLookup.bind fun parameter s₁ _ ⟨_, located⟩ => ?_
  have only : ∀ {other}, Lookup.parameter task.document entry = .ok other → other = parameter :=
    fun located' => Except.ok.inj (located'.symm.trans located)
  split
  · refine (recordPathParameter_runs parameter.name).bind
      fun _ s₂ _ named => .pure fun other located' _ => ?_
    rwa [only located']
  · rename_i noPath
    refine .pure fun other located' isPath => ?_
    rw [only located'] at isPath
    exact absurd isPath noPath

theorem pathParameters_runs {item : PathItem} {operation : Operation} :
    F.course.Runs (Infer.pathParameters task item operation) s fun _ s' =>
      ∀ wire, operation.HasPathParameter task.document item wire → F.named wire s' := by
  unfold Infer.pathParameters
  have recorded : F.course.Runs ((item.parameters ++ operation.parameters).foldlM
      (Infer.addPathParameter task) ∅) s fun _ s' =>
        ∀ entry ∈ item.parameters ++ operation.parameters, ∀ parameter,
          Lookup.parameter task.document entry = .ok parameter → parameter.isPath = true →
            F.named parameter.name s' := by
    refine .foldlM (fun entry s s' later named parameter located isPath => ?_)
      fun entry _ properties s => ?_
    · exact F.namedLasts later.1 (named parameter located isPath)
    · exact addPathParameter_runs
  refine recorded.bind fun properties s₁ _ named => .pure ?_
  rintro wire ⟨entry, member, parameter, located, isPath, rfl⟩
  exact named entry member parameter located isPath

theorem getFunction_runs {item : PathItem} {operation : Operation} {name : String}
    {returns : Option Lookup.Found} (allowed : ∀ found, returns = some found → F.allows found) :
    F.course.Runs (Infer.getFunction task scope item operation name returns) s fun _ s' =>
      (∀ wire, operation.HasPathParameter task.document item wire → F.named wire s') ∧
        ∀ found, returns = some found → F.done found s' := by
  unfold Infer.getFunction
  refine pathParameters_runs.bind fun inputs s₁ _ named => ?_
  have result : F.course.Runs (Infer.getResult task scope name returns) s₁ fun _ s' =>
      ∀ found, returns = some found → F.done found s' := by
    cases returns with
    | none => exact .pure (by simp)
    | some found =>
        refine (propertyType_serves F _ _ _ _ (allowed found rfl)).bind
          fun resolved s₂ _ ⟨_, done⟩ => .pure ?_
        rintro _ ⟨⟩
        exact done
  refine result.bind fun result s₂ later₂ done => .pure ⟨fun wire isPath => ?_, done⟩
  exact F.namedLasts later₂.1 (named wire isPath)

end Frame

end ResourceInference
