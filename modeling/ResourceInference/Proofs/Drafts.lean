import ResourceInference.Proofs.Origins

/-!
# What a resource is made of

A resource under construction is made in phases: the properties of the request, what the response
shows, the required names, and the parts of the request. What can be set and what must be set only
grows from phase to phase, so each phase is described by what it brings in
(`ResourceDraft.Gains`), and a loop brings in what its steps bring in (`ResourceDraft.Gains.loop`).
The property `id` is left out by every step, so it is never among them.

The parts of the request are described by the objects that are taken for them. These come from the
types that are registered when the resource is made (`Infer.takenParts`); all else is said by the
bodies alone (`ResourceDraft.MadeOf`, `Infer.gatherDraft_takes`).
-/

set_option autoImplicit false

namespace ResourceInference

/-- What the part is found to be is not read-only. -/
def RefOr.Settable (d : Document) (part : SchemaOrRef) : Prop :=
  ∃ found, Lookup.schema d part = .ok found ∧ found.schema.readOnly = false

/-- The request requires the name, and has a property of this name itself, which is not
read-only. -/
structure Schema.Demands (d : Document) (request : Schema) (wire : String) : Prop where
  required : wire ∈ request.required
  declared : ∃ part, request.properties.lookup wire = some part ∧ part.Settable d

namespace ResourceDraft

/-! ## Gains -/

/-- What can be set and what must be set on the second draft is that of the first one and what is
given here, but for `id`. An `id` is shown by the second draft only if the first one shows it. -/
structure Gains (settable required : String → Prop) (draft draft' : ResourceDraft) : Prop where
  inputs : ∀ name, draft'.inputs.contains name = true ↔
    draft.inputs.contains name = true ∨ name ≠ idProperty ∧ settable name
  requiredInputs : ∀ name, draft'.requiredInputs.contains name = true ↔
    draft.requiredInputs.contains name = true ∨ name ≠ idProperty ∧ required name
  outputs : draft'.outputs.contains idProperty = draft.outputs.contains idProperty
  requiredOutputs :
    draft'.requiredOutputs.contains idProperty = draft.requiredOutputs.contains idProperty

/-- Nothing is brought in. -/
abbrev Keeps (draft draft' : ResourceDraft) : Prop :=
  draft.Gains (fun _ => False) (fun _ => False) draft'

namespace Gains

variable {settable settable' required required' : String → Prop}
  {draft draft' draft'' : ResourceDraft}

theorem refl (draft : ResourceDraft) : draft.Keeps draft := by
  constructor <;> simp

theorem congr (h : draft.Gains settable required draft')
    (sameInputs : ∀ name, settable name ↔ settable' name)
    (sameRequired : ∀ name, required name ↔ required' name) :
    draft.Gains settable' required' draft' where
  inputs name := by rw [h.inputs, sameInputs]
  requiredInputs name := by rw [h.requiredInputs, sameRequired]
  outputs := h.outputs
  requiredOutputs := h.requiredOutputs

theorem trans (first : draft.Gains settable required draft')
    (second : draft'.Gains settable' required' draft'') :
    draft.Gains (fun name => settable name ∨ settable' name)
      (fun name => required name ∨ required' name) draft'' where
  inputs name := by rw [second.inputs, first.inputs, or_assoc, and_or_left]
  requiredInputs name := by
    rw [second.requiredInputs, first.requiredInputs, or_assoc, and_or_left]
  outputs := second.outputs.trans first.outputs
  requiredOutputs := second.requiredOutputs.trans first.requiredOutputs

section

variable {α : Type} {settable required : α → String → Prop}

/-- What the items of a loop bring in, one after the other. -/
theorem cons {a : α} {rest : List α} (first : draft.Gains (settable a) (required a) draft')
    (later : draft'.Gains (fun name => ∃ b ∈ rest, settable b name)
      (fun name => ∃ b ∈ rest, required b name) draft'') :
    draft.Gains (fun name => ∃ b ∈ a :: rest, settable b name)
      (fun name => ∃ b ∈ a :: rest, required b name) draft'' :=
  (first.trans later).congr (by simp) (by simp)

/-- A loop brings in what its steps bring in. -/
theorem foldl {step : ResourceDraft → α → ResourceDraft}
    (each : ∀ (draft : ResourceDraft) a, draft.Gains (settable a) (required a) (step draft a))
    (items : List α) :
    ∀ draft : ResourceDraft, draft.Gains (fun name => ∃ a ∈ items, settable a name)
      (fun name => ∃ a ∈ items, required a name) (items.foldl step draft) := by
  induction items with
  | nil => exact fun draft => (refl draft).congr (by simp) (by simp)
  | cons a rest ih => exact fun draft => (each draft a).cons (ih _)

/-- A loop whose steps may fail brings in what its steps bring in. -/
theorem loop {step : ResourceDraft → α → Infer ResourceDraft} {inv : Session → Prop}
    {items : List α} (each : ∀ a ∈ items, ∀ draft,
      Infer.Upholds inv (step draft a) (draft.Gains (settable a) (required a))) :
    ∀ draft : ResourceDraft, Infer.Upholds inv (items.foldlM step draft) (draft.Gains
      (fun name => ∃ a ∈ items, settable a name) fun name => ∃ a ∈ items, required a name) := by
  induction items with
  | nil => exact fun draft => .pure ((refl draft).congr (by simp) (by simp))
  | cons a rest ih =>
      intro draft
      rw [List.foldlM_cons]
      refine (each a List.mem_cons_self draft).bind fun draft' first => ?_
      refine (ih (fun a member => each a (List.mem_cons_of_mem _ member)) draft').imp ?_
      exact fun draft'' later => first.cons later

end

end Gains

section

variable (draft : ResourceDraft)

theorem addOutput_keeps (entry : String × PropertySpec) : draft.Keeps (draft.addOutput entry) := by
  unfold addOutput
  split
  · exact .refl draft
  · rename_i notId
    exact ⟨by simp, by simp, SortedMap.contains_insert_of_ne _ (Ne.symm notId) _, rfl⟩

theorem addRequestProperty_gains (readOnly : Bool) (entry : String × PropertySpec) :
    draft.Gains (fun name => name = entry.1 ∧ readOnly = false) (fun _ => False)
      (draft.addRequestProperty readOnly entry) := by
  have kept := draft.addOutput_keeps entry
  have same : (draft.addRequestProperty readOnly entry).requiredInputs =
      (draft.addOutput entry).requiredInputs ∧
    (draft.addRequestProperty readOnly entry).outputs = (draft.addOutput entry).outputs ∧
      (draft.addRequestProperty readOnly entry).requiredOutputs =
        (draft.addOutput entry).requiredOutputs := by
    unfold addRequestProperty
    dsimp only
    split <;> exact ⟨rfl, rfl, rfl⟩
  obtain ⟨sameRequired, sameOutputs, sameRequiredOutputs⟩ := same
  refine ⟨fun name => ?_, fun name => ?_, ?_, ?_⟩
  · rw [contains_inputs_addRequestProperty, or_comm, and_left_comm]
  · rw [sameRequired, kept.requiredInputs]
  · rw [sameOutputs, kept.outputs]
  · rw [sameRequiredOutputs, kept.requiredOutputs]

theorem addPartProperty_gains (entry : String × PropertySpec) :
    draft.Gains (· = entry.1) (fun _ => False) (draft.addPartProperty entry) := by
  unfold addPartProperty
  split
  · rename_i isId
    refine ⟨fun name => ?_, by simp, rfl, rfl⟩
    rw [isId]
    simp
  · rename_i notId
    refine ⟨fun name => ?_, by simp, ?_, rfl⟩
    · rw [SortedMap.contains_insert, or_comm]
      exact or_congr_right ⟨fun same => ⟨same ▸ notId, same⟩, And.right⟩
    · dsimp only
      split
      · rfl
      · exact SortedMap.contains_insert_of_ne _ (Ne.symm notId) _

theorem requireInput_gains (sdk : String) :
    draft.Gains (fun _ => False) (· = sdk) (draft.requireInput sdk) := by
  unfold requireInput
  split
  · rename_i isId
    refine ⟨by simp, fun name => ?_, rfl, rfl⟩
    rw [isId]
    simp
  · rename_i notId
    refine ⟨by simp, fun name => ?_, rfl, rfl⟩
    rw [SortedSet.add, SortedMap.contains_insert, or_comm]
    exact or_congr_right ⟨fun same => ⟨same ▸ notId, same⟩, And.right⟩

theorem requireOutput_keeps (sdk : String) : draft.Keeps (draft.requireOutput sdk) := by
  unfold requireOutput
  split
  · exact .refl draft
  · rename_i notId
    exact ⟨by simp, by simp, rfl, SortedMap.contains_insert_of_ne _ (Ne.symm notId) _⟩

theorem addPart_gains (stripRequired : Bool) (object : ObjectType) :
    draft.Gains (fun name => object.properties.contains name = true)
      (fun name => stripRequired = false ∧ name ∈ object.required)
        (draft.addPart stripRequired object) := by
  have properties := Gains.foldl addPartProperty_gains object.properties.toList draft
  have names : ∀ name, (∃ entry ∈ object.properties.toList, name = entry.1) ↔
      object.properties.contains name = true := by
    intro name
    simp [SortedMap.contains_iff, ← SortedMap.mem_toList_iff]
  unfold addPart
  dsimp only
  split
  · rename_i strips
    exact properties.congr names (by simp [strips])
  · rename_i requires
    exact (properties.trans (Gains.foldl requireInput_gains object.required _)).congr
      (by simp [names]) (by simp [requires])

/-- Add what has been taken for a part of the request, if anything has. -/
def addTaken (stripRequired : Bool) (draft : ResourceDraft) : Option ObjectType → ResourceDraft
  | some object => draft.addPart stripRequired object
  | none => draft

theorem addTaken_gains (stripRequired : Bool) (taken : Option ObjectType) :
    draft.Gains (fun name => ∃ object, taken = some object ∧ object.properties.contains name = true)
      (fun name => stripRequired = false ∧ ∃ object, taken = some object ∧ name ∈ object.required)
        (draft.addTaken stripRequired taken) := by
  cases taken with
  | none => exact (Gains.refl draft).congr (by simp) (by simp)
  | some object => exact (draft.addPart_gains stripRequired object).congr (by simp) (by simp)

end

/-! ## Made of bodies -/

/-- What can be set are the properties of the request that are not read-only, and those of the
objects taken for its parts. What must be set is what the request demands itself, but for the
property that gets a generated name, and what the objects require, unless nothing is asked of them.
The property `id` is nowhere. -/
structure MadeOf (d : Document) (bodies : ResourceBodies) (taken : List (Option ObjectType))
    (draft : ResourceDraft) : Prop where
  inputs : ∀ name, draft.inputs.contains name = true ↔ name ≠ idProperty ∧
    ((∃ entry ∈ bodies.request.properties, Naming.sdkName entry.1 = name ∧ entry.2.Settable d) ∨
      ∃ object, some object ∈ taken ∧ object.properties.contains name = true)
  requiredInputs : ∀ name, draft.requiredInputs.contains name = true ↔ name ≠ idProperty ∧
    ((∃ wire, bodies.request.Demands d wire ∧ wire ≠ autoNameProperty ∧
        Naming.sdkName wire = name) ∨
      bodies.stripRequired = false ∧ ∃ object, some object ∈ taken ∧ name ∈ object.required)
  outputs : draft.outputs.contains idProperty = false
  requiredOutputs : draft.requiredOutputs.contains idProperty = false

end ResourceDraft

namespace Infer

variable {α β : Type}

/-! ## Results -/

/-- What a step gives in every session is true of its results. -/
theorem Upholds.results {x : Infer α} {post : α → Prop} (h : Upholds (fun _ => True) x post) {a : α}
    (given : x.Results a) : post a := by
  obtain ⟨s, s', ran⟩ := given
  exact ((h.ends s trivial).of_run ran).2

/-- A loop whose steps do something apart from what is collected, and collect what comes of it, does
all these things first. -/
theorem foldlM_eq_mapM {γ : Type} (f : α → Infer γ) (collect : β → γ → β) (items : List α) :
    ∀ b, items.foldlM (fun b a => f a >>= fun c => pure (collect b c)) b =
      items.mapM f >>= fun cs => pure (cs.foldl collect b) := by
  induction items with
  | nil => simp
  | cons a rest ih =>
      intro b
      simp only [List.foldlM_cons, List.mapM_cons, bind_assoc, pure_bind, ih, List.foldl_cons]

/-! ## Parts of the request -/

section

variable (task : InferenceTask) (scope : Scope)

/-- The object that is taken for a part of the request, if there is one. -/
def takePart (part : SchemaOrRef) : Infer (Option ObjectType) := do
  let found ← find task part
  if !found.schema.isObjectLike then pure none
  else
    let resolved ← propertyType task scope (Naming.pascalCase scope.resource) found
    takeObject resolved

theorem gatherPart_eq (stripRequired : Bool) (draft : ResourceDraft) (part : SchemaOrRef) :
    gatherPart task scope stripRequired draft part =
      takePart task scope part >>= fun taken => pure (draft.addTaken stripRequired taken) := by
  unfold gatherPart takePart
  rw [bind_assoc]
  congr 1
  funext found
  split
  · simp [ResourceDraft.addTaken]
  · rw [bind_assoc]
    congr 1
    funext resolved
    congr 1
    funext taken
    cases taken <;> rfl

end

/-! ## Resources -/

variable {task : InferenceTask} {scope : Scope} {draft : ResourceDraft}

theorem bodyProperty_gives {entry : String × SchemaOrRef} :
    Upholds (fun _ => True) (bodyProperty task scope entry) fun made =>
      made.2.1 = Naming.sdkName entry.1 ∧
        ∃ found, Lookup.schema task.document entry.2 = .ok found ∧
          made.1 = found.schema.readOnly :=
  bodyProperty_upholds (fun _ _ _ => .any) fun _ _ => .any

theorem gatherRequestProperty_gains {entry : String × SchemaOrRef} :
    Upholds (fun _ => True) (gatherRequestProperty task scope draft entry) (draft.Gains
      (fun name => Naming.sdkName entry.1 = name ∧ entry.2.Settable task.document)
        fun _ => False) := by
  refine bodyProperty_gives.bind
    fun ⟨readOnly, sdk, property⟩ ⟨named, found, located, asked⟩ => .pure ?_
  have settable : entry.2.Settable task.document ↔ readOnly = false := by
    rw [show readOnly = _ from asked]
    refine ⟨?_, fun writable => ⟨found, located, writable⟩⟩
    rintro ⟨other, located', writable⟩
    rwa [← Except.ok.inj (located'.symm.trans located)]
  refine (draft.addRequestProperty_gains readOnly (sdk, property)).congr (fun name => ?_)
    fun _ => Iff.rfl
  rw [settable, ← named, eq_comm]

theorem requestProperties_gains {entries : List (String × SchemaOrRef)} :
    Upholds (fun _ => True) (entries.foldlM (gatherRequestProperty task scope) draft) (draft.Gains
      (fun name => ∃ entry ∈ entries, Naming.sdkName entry.1 = name ∧
        entry.2.Settable task.document) fun _ => False) := by
  have each : ∀ entry ∈ entries, ∀ draft : ResourceDraft,
      Upholds (fun _ => True) (gatherRequestProperty task scope draft entry) (draft.Gains
        (fun name => Naming.sdkName entry.1 = name ∧ entry.2.Settable task.document)
          fun _ => False) := fun _ _ _ => gatherRequestProperty_gains
  exact (ResourceDraft.Gains.loop each draft).imp fun _ h => h.congr (by simp) (by simp)

theorem gatherAnswer_keeps {response : Option Schema} :
    Upholds (fun _ => True) (gatherAnswer task scope draft response) draft.Keeps := by
  cases response with
  | none => exact .pure (.refl draft)
  | some response =>
      refine Upholds.any.bind fun merged _ => ?_
      have shown := ResourceDraft.Gains.foldl ResourceDraft.addOutput_keeps merged.properties.toList
        draft
      have each : ∀ entry ∈ response.properties, ∀ draft : ResourceDraft,
          Upholds (fun _ => True) (gatherResponseProperty task scope draft entry) draft.Keeps :=
        fun _ _ draft => Upholds.any.bind fun _ _ => .pure (draft.addOutput_keeps _)
      refine (ResourceDraft.Gains.loop each _).imp fun draft' later => ?_
      exact (shown.trans later).congr (by simp) (by simp)

theorem gatherRequiredInput_gains {token wire : String} {request : Schema}
    (required : wire ∈ request.required) :
    Upholds (fun _ => True) (gatherRequiredInput task token request draft wire) (draft.Gains
      (fun _ => False) fun name => request.Demands task.document wire ∧ wire ≠ autoNameProperty ∧
        Naming.sdkName wire = name) := by
  unfold gatherRequiredInput
  split
  · rename_i missing
    refine .pure ((ResourceDraft.Gains.refl draft).congr (by simp) fun name => ?_)
    refine iff_of_false id ?_
    rintro ⟨⟨-, part, declared, -⟩, -, -⟩
    cases missing.symm.trans declared
  · rename_i part declared
    refine Upholds.find.bind fun found located => ?_
    have demands : request.Demands task.document wire ↔ found.schema.readOnly = false := by
      refine ⟨?_, fun settable => ⟨required, part, declared, found, located, settable⟩⟩
      rintro ⟨-, part', declared', found', located', settable⟩
      cases declared.symm.trans declared'
      cases located.symm.trans located'
      exact settable
    split
    · rename_i readOnly
      refine .pure ((ResourceDraft.Gains.refl draft).congr (by simp) fun name => ?_)
      simp [demands, readOnly]
    · rename_i settable
      split
      · rename_i isName
        refine Upholds.any.bind fun _ _ => .pure ?_
        exact (ResourceDraft.Gains.refl draft).congr (by simp) (by simp [isName])
      · rename_i notName
        refine .pure ((draft.requireInput_gains _).congr (by simp) fun name => ?_)
        simp [demands, settable, notName, eq_comm]

theorem requiredInputs_gains {token : String} {request : Schema} :
    Upholds (fun _ => True)
      (request.required.foldlM (gatherRequiredInput task token request) draft) (draft.Gains
        (fun _ => False) fun name => ∃ wire, request.Demands task.document wire ∧
          wire ≠ autoNameProperty ∧ Naming.sdkName wire = name) := by
  have each : ∀ wire ∈ request.required, ∀ draft : ResourceDraft,
      Upholds (fun _ => True) (gatherRequiredInput task token request draft wire) (draft.Gains
        (fun _ => False) fun name => request.Demands task.document wire ∧
          wire ≠ autoNameProperty ∧ Naming.sdkName wire = name) :=
    fun _ member _ => gatherRequiredInput_gains member
  refine (ResourceDraft.Gains.loop each draft).imp fun _ h => h.congr (by simp) fun name => ?_
  constructor
  · rintro ⟨wire, -, demanded⟩
    exact ⟨wire, demanded⟩
  · rintro ⟨wire, demands, rest⟩
    exact ⟨wire, demands.required, demands, rest⟩

theorem requiredOutputs_keeps {wires : List String} :
    Upholds (fun _ => True) (wires.foldlM gatherRequiredOutput draft) draft.Keeps := by
  have each : ∀ wire ∈ wires, ∀ draft : ResourceDraft,
      Upholds (fun _ => True) (gatherRequiredOutput draft wire) draft.Keeps :=
    fun _ _ draft => Upholds.any.bind fun _ _ => .pure (draft.requireOutput_keeps _)
  exact (ResourceDraft.Gains.loop each draft).imp fun _ h => h.congr (by simp) (by simp)

section

variable (task scope) (token : String) (bodies : ResourceBodies)

/-- What the bodies of a resource say, but for the parts of the request. -/
def gatherOwn : Infer ResourceDraft := do
  let request := bodies.request
  let draft ← request.properties.foldlM (gatherRequestProperty task scope) {}
  let draft ← gatherAnswer task scope draft bodies.response
  let draft ← request.required.foldlM (gatherRequiredInput task token request) draft
  let responseRequired := (bodies.response.map (·.required)).getD []
  (request.required ++ responseRequired).foldlM gatherRequiredOutput draft

/-- The objects that are taken for the parts of the request when a resource is made of its bodies:
all else is gathered before. -/
def takenParts : Infer (List (Option ObjectType)) := do
  let _ ← gatherOwn task scope token bodies
  bodies.request.allOf.mapM (takePart task scope)

theorem gatherDraft_eq : gatherDraft task scope token bodies =
    gatherOwn task scope token bodies >>= fun draft =>
      bodies.request.allOf.mapM (takePart task scope) >>= fun taken =>
        pure (taken.foldl (ResourceDraft.addTaken bodies.stripRequired) draft) := by
  have parted : gatherPart task scope bodies.stripRequired = fun draft part =>
      takePart task scope part >>= fun taken => pure (draft.addTaken bodies.stripRequired taken) :=
    funext fun draft => funext fun part => gatherPart_eq task scope _ draft part
  simp only [gatherDraft, gatherOwn, parted, foldlM_eq_mapM, bind_assoc]

/-- A resource under construction is what the bodies say, and what is taken for the parts is added
to that. -/
theorem gatherDraft_folds (s : Session) :
    Ends (gatherDraft task scope token bodies) s (fun draft s' =>
      ∃ (own : ResourceDraft) (s₀ : Session) (taken : List (Option ObjectType)),
        (gatherOwn task scope token bodies).run.run s = (.ok own, s₀) ∧
        (bodies.request.allOf.mapM (takePart task scope)).run.run s₀ = (.ok taken, s') ∧
        draft = taken.foldl (ResourceDraft.addTaken bodies.stripRequired) own) fun _ _ => True := by
  rw [gatherDraft_eq]
  refine ends_bind.2 ((ends_ran _ s).mono (fun own s₀ ran => ?_) fun _ _ _ => trivial)
  refine ends_bind.2 ((ends_ran _ s₀).mono (fun taken s' took => ?_) fun _ _ _ => trivial)
  exact ⟨own, s₀, taken, ran, took, rfl⟩

/-- The parts are taken where the bodies have been gathered. -/
theorem run_takenParts {own : ResourceDraft} {s s₀ : Session}
    (ran : (gatherOwn task scope token bodies).run.run s = (.ok own, s₀)) :
    (takenParts task scope token bodies).run.run s =
      (bodies.request.allOf.mapM (takePart task scope)).run.run s₀ := by
  rw [takenParts, run_bind, ran]

end

theorem gatherOwn_gains {token : String} {bodies : ResourceBodies} :
    Upholds (fun _ => True) (gatherOwn task scope token bodies) (ResourceDraft.Gains
      (fun name => ∃ entry ∈ bodies.request.properties, Naming.sdkName entry.1 = name ∧
        entry.2.Settable task.document)
      (fun name => ∃ wire, bodies.request.Demands task.document wire ∧ wire ≠ autoNameProperty ∧
        Naming.sdkName wire = name) {}) := by
  unfold gatherOwn
  dsimp only
  refine requestProperties_gains.bind fun draft₁ requested => ?_
  refine gatherAnswer_keeps.bind fun draft₂ answered => ?_
  refine requiredInputs_gains.bind fun draft₃ required => ?_
  refine requiredOutputs_keeps.imp fun draft₄ shown => ?_
  exact (((requested.trans answered).trans required).trans shown).congr (by simp) (by simp)

/-- A resource under construction is made of its bodies, and of the objects that are taken for the
parts of the request. -/
theorem gatherDraft_takes {token : String} {bodies : ResourceBodies} {s : Session} :
    Ends (gatherDraft task scope token bodies) s
      (fun draft s' => ∃ taken,
        (takenParts task scope token bodies).run.run s = (.ok taken, s') ∧
          draft.MadeOf task.document bodies taken) fun _ _ => True := by
  refine (gatherDraft_folds task scope token bodies s).imp ?_
  rintro _ s' ⟨own, s₀, taken, ran, took, rfl⟩
  refine ⟨taken, (run_takenParts task scope token bodies ran).trans took, ?_⟩
  have gains := gatherOwn_gains.results ⟨s, s₀, ran⟩
  have added := ResourceDraft.Gains.foldl
    (fun draft => draft.addTaken_gains bodies.stripRequired) taken own
  have all := gains.trans added
  refine ⟨fun name => (all.inputs name).trans ?_, fun name => (all.requiredInputs name).trans ?_,
    all.outputs, all.requiredOutputs⟩
  · simp only [SortedMap.contains_empty]
    grind
  · simp only [SortedMap.contains_empty]
    grind

/-- No draft has a property `id`. -/
theorem gatherDraft_withoutId {token : String} {bodies : ResourceBodies} {s : Session} :
    Ends (gatherDraft task scope token bodies) s (fun draft _ =>
      draft.inputs.get? idProperty = none ∧ draft.outputs.get? idProperty = none)
      fun _ _ => True := by
  refine gatherDraft_takes.imp fun draft _ ⟨taken, _, made⟩ => ?_
  have noInput : draft.inputs.contains idProperty = false :=
    Bool.eq_false_iff.2 fun settable => ((made.inputs idProperty).1 settable).1 rfl
  exact ⟨(SortedMap.get?_eq_none_iff ..).2 noInput, (SortedMap.get?_eq_none_iff ..).2 made.outputs⟩

/-- What the objects are taken from is left open. -/
theorem gatherDraft_madeOf {token : String} {bodies : ResourceBodies} :
    Upholds (fun _ => True) (gatherDraft task scope token bodies) fun draft =>
      ∃ taken, (bodies.request.allOf.mapM (takePart task scope)).Results taken ∧
        draft.MadeOf task.document bodies taken := by
  refine ⟨fun s _ => gatherDraft_takes.imp fun draft s' ⟨taken, ran, made⟩ => ?_⟩
  refine ⟨trivial, taken, ?_, made⟩
  rw [takenParts, run_bind] at ran
  split at ran
  · exact ⟨_, _, ran⟩
  · cases ran

end Infer

/-! ## With path parameters -/

/-- The name is the SDK name of a path parameter of the creation. -/
def ResourceMaker.HasParameter (task : InferenceTask) (maker : ResourceMaker) (name : String) :
    Prop :=
  ∃ wire, maker.operation.HasPathParameter task.document maker.ctx.item wire ∧
    Naming.sdkName wire = name

/-- The resource shows what the draft shows, which is at least what can be set on the draft; and
what can be set and must be set on the resource is that of the draft, and the path parameters of the
creation. -/
structure ResourceSpec.Completes (task : InferenceTask) (r : ResourceSpec) (maker : ResourceMaker)
    (draft : ResourceDraft) : Prop where
  properties : r.properties = draft.outputs
  shown : ∀ name, draft.inputs.contains name = true → r.properties.contains name = true
  required : ∀ name, name ∈ r.required ↔
    draft.requiredOutputs.contains name = true ∧ draft.outputs.contains name = true
  inputs : ∀ name, r.inputProperties.contains name = true ↔
    maker.HasParameter task name ∨ draft.inputs.contains name = true
  requiredInputs : ∀ name, name ∈ r.requiredInputs ↔
    maker.HasParameter task name ∨ draft.requiredInputs.contains name = true

/-- A resource that has been made for a creation completes a draft that is made of the bodies. -/
theorem ResourceSpec.MadeBy.completes {task : InferenceTask} {m : Metadata} {token : String}
    {r : ResourceSpec} {maker : ResourceMaker} (h : r.MadeBy task m token maker) :
    ∃ draft taken, (maker.bodies.request.allOf.mapM
        (Infer.takePart task ⟨maker.ctx.module, maker.name⟩)).Results taken ∧
      draft.MadeOf task.document maker.bodies taken ∧ r.Completes task maker draft := by
  obtain ⟨base, parameters, origin, holds, rfl⟩ := h
  obtain ⟨draft, given, rfl⟩ := origin.made
  obtain ⟨taken, takes, made⟩ := Infer.gatherDraft_madeOf.results given
  have parameter : ∀ name, parameters.properties.contains name = true ↔
      maker.HasParameter task name := holds.names
  refine ⟨draft, taken, takes, made, rfl, origin.shaped.shown, fun name => ?_, fun name => ?_,
    fun name => ?_⟩
  · exact List.mem_filter.trans (and_congr_left' (SortedMap.mem_keys_iff ..))
  · exact (SortedMap.contains_union ..).trans (or_congr_left (parameter name))
  · rw [Infer.mem_requiredInputs_withPathParameters, holds.required, SortedMap.mem_keys_iff,
      parameter]
    exact or_congr_right (SortedMap.mem_keys_iff ..)

end ResourceInference
