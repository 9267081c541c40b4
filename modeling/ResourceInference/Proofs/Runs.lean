import ResourceInference.Proofs.SchemaSteps
import ResourceInference.Proofs.Titles

/-!
# Whole runs under an invariant

A `RunInvariant` is an invariant that giving a type to any schema of the document respects, and
that allows for resources and functions in the package. Then every step of a run respects it, and
it holds of the session that a run ends in (`RunInvariant.holds_lastSession`).

A run resolves schemas in scopes with plain titles only, and only schemas of the document; both are
part of what a `RunInvariant` may rely on.
-/

set_option autoImplicit false

namespace ResourceInference

/-- An invariant of a run on a document. -/
structure RunInvariant (task : InferenceTask) extends Invariant where
  mayFail : ∀ e s, fails e s
  resolves : ∀ {scope found parent s}, IsPlain scope.resource → found.LiesIn task.document →
    holds s → toInvariant.Leads (Infer.propertyType task scope parent found) s
      fun resolved s' => toInvariant.Fits s' resolved
  lists : ∀ {scope found parent name s}, IsPlain scope.resource → found.LiesIn task.document →
    holds s → toInvariant.Leads
      (Infer.propertyType task scope parent found >>= fun resolved =>
        Infer.renameListType name resolved.type) s
      fun type s' => toInvariant.Covers s' type.tokens
  knownResource : ∀ {s token resource}, holds s →
    s.package.resources.get? token = some resource → toInvariant.Covers s resource.tokens
  putsResource : ∀ {s token resource}, holds s → toInvariant.Covers s resource.tokens →
    holds (s.withResource token resource) ∧ later s (s.withResource token resource)
  putsFunction : ∀ {s token function}, holds s → toInvariant.Covers s function.tokens →
    holds (s.withFunction token function) ∧ later s (s.withFunction token function)

namespace Invariant

variable {I : Invariant} {s : Session}

variable (I) in
/-- All tokens that a draft mentions are good. -/
def CoversDraft (s : Session) (draft : ResourceDraft) : Prop :=
  I.Covers s (PropertyMap.tokens draft.inputs) ∧ I.Covers s (PropertyMap.tokens draft.outputs)

namespace CoversDraft

variable {draft : ResourceDraft}

theorem later {s' : Session} (h : I.CoversDraft s draft) (later : I.later s s') :
    I.CoversDraft s' draft := ⟨h.1.later later, h.2.later later⟩

theorem addOutput {entry : String × PropertySpec} (h : I.CoversDraft s draft)
    (h' : I.Covers s entry.2.type.tokens) : I.CoversDraft s (draft.addOutput entry) := by
  unfold ResourceDraft.addOutput
  split
  · exact h
  · exact ⟨h.1, h.2.insert _ h'⟩

theorem addRequestProperty {readOnly : Bool} {entry : String × PropertySpec}
    (h : I.CoversDraft s draft) (h' : I.Covers s entry.2.type.tokens) :
    I.CoversDraft s (draft.addRequestProperty readOnly entry) := by
  unfold ResourceDraft.addRequestProperty
  dsimp only
  split
  · exact h.addOutput h'
  · exact ⟨(h.addOutput h').1.insert _ h', (h.addOutput h').2⟩

theorem addPartProperty {entry : String × PropertySpec} (h : I.CoversDraft s draft)
    (h' : I.Covers s entry.2.type.tokens) : I.CoversDraft s (draft.addPartProperty entry) := by
  unfold ResourceDraft.addPartProperty
  split
  · exact h
  · refine ⟨h.1.insert _ h', ?_⟩
    dsimp only
    split
    · exact h.2
    · exact h.2.insert _ h'

/-- Adding one property after the other keeps a draft covered, if adding one does. -/
theorem foldl {add : ResourceDraft → String × PropertySpec → ResourceDraft}
    (step : ∀ draft entry, I.CoversDraft s draft → I.Covers s entry.2.type.tokens →
      I.CoversDraft s (add draft entry))
    {properties : PropertyMap} (h' : I.Covers s (PropertyMap.tokens properties))
    (h : I.CoversDraft s draft) : I.CoversDraft s (properties.toList.foldl add draft) := by
  have entries := PropertyMap.forall_tokens.1 h'
  unfold SortedMap.All at entries
  generalize properties.toList = list at entries
  induction list generalizing draft with
  | nil => exact h
  | cons first rest ih =>
      exact ih (step draft first h (entries first List.mem_cons_self))
        fun entry member => entries entry (List.mem_cons_of_mem _ member)

theorem requireInput {sdk : String} (h : I.CoversDraft s draft) :
    I.CoversDraft s (draft.requireInput sdk) := by
  unfold ResourceDraft.requireInput
  split <;> exact h

theorem requireOutput {sdk : String} (h : I.CoversDraft s draft) :
    I.CoversDraft s (draft.requireOutput sdk) := by
  unfold ResourceDraft.requireOutput
  split <;> exact h

theorem addPart {stripRequired : Bool} {object : ObjectType} (h : I.CoversDraft s draft)
    (h' : I.Covers s object.tokens) : I.CoversDraft s (draft.addPart stripRequired object) := by
  have properties : I.CoversDraft s (object.properties.toList.foldl
      ResourceDraft.addPartProperty draft) := foldl (fun _ _ h h' => h.addPartProperty h') h' h
  unfold ResourceDraft.addPart
  dsimp only
  split
  · exact properties
  · generalize object.properties.toList.foldl ResourceDraft.addPartProperty draft = draft
      at properties
    induction object.required generalizing draft with
    | nil => exact properties
    | cons _ _ ih => exact ih _ properties.requireInput

end CoversDraft

end Invariant

namespace RunInvariant

open Invariant

variable {task : InferenceTask} {R : RunInvariant task} {scope : Scope} {s : Session}

theorem serves (plain : IsPlain scope.resource) (schema : Schema) :
    R.Serves task (Infer.propertyType task) scope schema :=
  .of_mayFail R.mayFail fun called _ _ h => R.resolves plain called.liesIn h

theorem putResource_leads {token : String} {resource : ResourceSpec} (h : R.holds s)
    (covers : R.Covers s resource.tokens) :
    R.Leads (Infer.putResource token resource) s fun _ _ => True := by
  obtain ⟨holds, later⟩ := R.putsResource h covers
  exact ⟨Infer.ends_putResource.2 ⟨holds, later, trivial⟩⟩

theorem putFunction_leads {token : String} {function : FunctionSpec} (h : R.holds s)
    (covers : R.Covers s function.tokens) :
    R.Leads (Infer.putFunction token function) s fun _ _ => True := by
  obtain ⟨holds, later⟩ := R.putsFunction h covers
  exact ⟨Infer.ends_putFunction.2 ⟨holds, later, trivial⟩⟩

/-! ## Resources -/

section

variable (plain : IsPlain scope.resource) {draft : ResourceDraft}

include plain

theorem resourceProperty_leads {body : Schema} {wire : String} {part : SchemaOrRef}
    (member : (wire, part) ∈ body.properties) {found : Lookup.Found}
    (located : Lookup.schema task.document part = .ok found) (h : R.holds s) :
    R.Leads (Infer.resourceProperty task scope wire found) s fun property s' =>
      R.Covers s' property.type.tokens := by
  unfold Infer.resourceProperty
  refine (propertyTypeOf_leads (serves plain body) member located h).bind
    fun type s₁ h₁ _ covers => ?_
  exact .pure h₁ covers

theorem bodyProperty_leads {body : Schema} {entry : String × SchemaOrRef}
    (member : entry ∈ body.properties) (h : R.holds s) :
    R.Leads (Infer.bodyProperty task scope entry) s fun property s' =>
      R.Covers s' property.2.2.type.tokens := by
  obtain ⟨wire, part⟩ := entry
  unfold Infer.bodyProperty
  refine (Leads.find h).bind fun found s₁ h₁ _ located => ?_
  refine (resourceProperty_leads plain member located h₁).bind fun property s₂ h₂ _ covers => ?_
  refine (Leads.of_writesTables (Infer.recordName_writesTables ..) h₂).bind
    fun _ s₃ h₃ later₃ _ => ?_
  exact .pure h₃ (covers.later later₃)

theorem gatherRequestProperty_leads {body : Schema} {entry : String × SchemaOrRef}
    (member : entry ∈ body.properties) (h : R.holds s) (covers : R.CoversDraft s draft) :
    R.Leads (Infer.gatherRequestProperty task scope draft entry) s fun draft s' =>
      R.CoversDraft s' draft := by
  unfold Infer.gatherRequestProperty
  refine (bodyProperty_leads plain member h).bind fun _ s₁ h₁ later₁ typed => ?_
  exact .pure h₁ ((covers.later later₁).addRequestProperty typed)

theorem gatherResponseProperty_leads {body : Schema} {entry : String × SchemaOrRef}
    (member : entry ∈ body.properties) (h : R.holds s) (covers : R.CoversDraft s draft) :
    R.Leads (Infer.gatherResponseProperty task scope draft entry) s fun draft s' =>
      R.CoversDraft s' draft := by
  unfold Infer.gatherResponseProperty
  refine (bodyProperty_leads plain member h).bind fun _ s₁ h₁ later₁ typed => ?_
  exact .pure h₁ ((covers.later later₁).addOutput typed)

theorem gatherResponse_leads {response : Schema} (h : R.holds s) (covers : R.CoversDraft s draft) :
    R.Leads (Infer.gatherResponse task scope draft response) s fun draft s' =>
      R.CoversDraft s' draft := by
  unfold Infer.gatherResponse
  refine (mergedMembers_leads (serves plain response) h).bind fun merged s₁ h₁ later₁ typed => ?_
  have shown := CoversDraft.foldl (fun _ _ h h' => h.addOutput h') typed (covers.later later₁)
  refine .foldlM (fun entry member draft s h covers => ?_) h₁ shown
  exact gatherResponseProperty_leads plain member h covers

theorem gatherAnswer_leads {response : Option Schema} (h : R.holds s)
    (covers : R.CoversDraft s draft) :
    R.Leads (Infer.gatherAnswer task scope draft response) s fun draft s' =>
      R.CoversDraft s' draft := by
  cases response with
  | none => exact .pure h covers
  | some response => exact gatherResponse_leads plain h covers

theorem gatherPart_leads {stripRequired : Bool} {part : SchemaOrRef} (h : R.holds s)
    (covers : R.CoversDraft s draft) :
    R.Leads (Infer.gatherPart task scope stripRequired draft part) s fun draft s' =>
      R.CoversDraft s' draft := by
  unfold Infer.gatherPart
  refine (Leads.find h).bind fun found s₁ h₁ later₁ located => ?_
  split
  · exact .pure h₁ (covers.later later₁)
  · refine (R.resolves plain (Lookup.schema_liesIn located) h₁).bind
      fun resolved s₂ h₂ later₂ _ => ?_
    refine (takeObject_leads h₂).bind fun object s₃ h₃ later₃ taken => ?_
    have kept := covers.later (R.trans later₁ (R.trans later₂ later₃))
    cases object with
    | none => exact .pure h₃ kept
    | some object => exact .pure h₃ (kept.addPart (taken object rfl))

omit plain in
theorem gatherRequiredInput_leads {token wire : String} {request : Schema} (h : R.holds s)
    (covers : R.CoversDraft s draft) :
    R.Leads (Infer.gatherRequiredInput task token request draft wire) s fun draft s' =>
      R.CoversDraft s' draft := by
  unfold Infer.gatherRequiredInput
  split
  · exact .pure h covers
  · refine (Leads.find h).bind fun found s₁ h₁ later₁ _ => ?_
    split
    · exact .pure h₁ (covers.later later₁)
    · split
      · refine (Leads.of_writesTables (Infer.setAutoName_writesTables ..) h₁).bind
          fun _ s₂ h₂ later₂ _ => ?_
        exact .pure h₂ (covers.later (R.trans later₁ later₂))
      · exact .pure h₁ (covers.later later₁).requireInput

omit plain in
theorem gatherRequiredOutput_leads {wire : String} (h : R.holds s)
    (covers : R.CoversDraft s draft) :
    R.Leads (Infer.gatherRequiredOutput draft wire) s fun draft s' => R.CoversDraft s' draft := by
  unfold Infer.gatherRequiredOutput
  refine (Leads.of_writesTables (Infer.recordName_writesTables ..) h).bind
    fun _ s₁ h₁ later₁ _ => ?_
  exact .pure h₁ (covers.later later₁).requireOutput

theorem gatherDraft_leads {token : String} {bodies : ResourceBodies} (h : R.holds s) :
    R.Leads (Infer.gatherDraft task scope token bodies) s fun draft s' =>
      R.CoversDraft s' draft := by
  unfold Infer.gatherDraft
  have requested : R.Leads (bodies.request.properties.foldlM
      (Infer.gatherRequestProperty task scope) {}) s fun draft s' => R.CoversDraft s' draft :=
    .foldlM (fun _ member _ _ h covers => gatherRequestProperty_leads plain member h covers) h
      ⟨.empty, .empty⟩
  refine requested.bind fun draft s₁ h₁ _ covers₁ => ?_
  refine (gatherAnswer_leads plain h₁ covers₁).bind fun draft s₂ h₂ _ covers₂ => ?_
  refine Leads.bind (.foldlM (fun _ _ _ _ h covers => gatherRequiredInput_leads h covers)
    h₂ covers₂) fun draft s₃ h₃ _ covers₃ => ?_
  refine Leads.bind (.foldlM (fun _ _ _ _ h covers => gatherRequiredOutput_leads h covers)
    h₃ covers₃) fun draft s₄ h₄ _ covers₄ => ?_
  exact .foldlM (fun _ _ _ _ h covers => gatherPart_leads plain h covers) h₄ covers₄

theorem gatherResource_leads {bodies : ResourceBodies} {path : String} (h : R.holds s) :
    R.Leads (Infer.gatherResource task scope bodies path) s fun _ _ => True := by
  unfold Infer.gatherResource
  refine (gatherDraft_leads plain h).bind fun draft s₁ h₁ _ covers => ?_
  refine (Leads.of_writesTables (Infer.seat_writesTables ..) h₁).bind fun _ s₂ h₂ later₂ _ => ?_
  have tokens : R.Covers s₂ (draft.toResource bodies.request.description).tokens := by
    intro token member
    rcases List.mem_append.1 member with shown | settable
    · exact (covers.later later₂).2 token shown
    · exact (covers.later later₂).1 token settable
  refine (putResource_leads h₂ tokens).bind fun _ s₃ h₃ _ _ => ?_
  exact .pure h₃ trivial

end

/-! ## Functions -/

theorem pathParameters_leads {item : PathItem} {operation : Operation} (h : R.holds s) :
    R.Leads (Infer.pathParameters task item operation) s fun parameters s' =>
      R.Covers s' parameters.tokens := by
  unfold Infer.pathParameters
  have texts : R.Leads ((item.parameters ++ operation.parameters).foldlM
      (Infer.addPathParameter task) ∅) s fun properties s' =>
        R.Covers s' (PropertyMap.tokens properties) := by
    refine .foldlM (fun entry _ properties s h covers => ?_) h .empty
    unfold Infer.addPathParameter
    refine (Leads.of_writesTables (.ofLookup _) h).bind fun parameter s₁ h₁ later₁ _ => ?_
    split
    · refine (Leads.of_writesTables (Infer.recordPathParameter_writesTables ..) h₁).bind
        fun _ s₂ h₂ later₂ _ => ?_
      exact .pure h₂ ((covers.later (R.trans later₁ later₂)).insert _
        (by simp [Covers, TypeSpec.text, TypeSpec.tokens]))
    · exact .pure h₁ (covers.later later₁)
  exact texts.bind fun properties s₁ h₁ _ covers => .pure h₁ covers

theorem withPathParameters_covers {parameters : ObjectType} {resource : ResourceSpec}
    (h : R.Covers s resource.tokens) (h' : R.Covers s parameters.tokens) :
    R.Covers s (Infer.withPathParameters parameters resource).tokens := by
  have shown : R.Covers s (PropertyMap.tokens resource.properties) :=
    fun token member => h token (List.mem_append_left _ member)
  have settable : R.Covers s (PropertyMap.tokens resource.inputProperties) :=
    fun token member => h token (List.mem_append_right _ member)
  intro token member
  rcases List.mem_append.1 member with member | member
  · exact shown token member
  · exact (settable.union h') token member

theorem addPathParameters_leads {token : String} {parameters : ObjectType} (h : R.holds s)
    (covers : R.Covers s parameters.tokens) :
    R.Leads (Infer.addPathParameters token parameters) s fun _ _ => True := by
  unfold Infer.addPathParameters
  refine Leads.bind (.get h) fun now s₁ h₁ later₁ same => ?_
  subst same
  split
  · rename_i resource found
    exact putResource_leads h₁
      (withPathParameters_covers (R.knownResource h₁ found) (covers.later later₁))
  · exact .pure h₁ trivial

section

variable (plain : IsPlain scope.resource) {item : PathItem} {operation : Operation} {name : String}

include plain

theorem getFunction_leads {returns : Option Lookup.Found}
    (inDocument : ∀ found, returns = some found → found.LiesIn task.document) (h : R.holds s) :
    R.Leads (Infer.getFunction task scope item operation name returns) s fun function s' =>
      R.Covers s' function.tokens := by
  unfold Infer.getFunction
  refine (pathParameters_leads h).bind fun inputs s₁ h₁ _ covers => ?_
  have result : R.Leads (Infer.getResult task scope name returns) s₁ fun result s' =>
      R.Covers s' ((result.map ReturnType.tokens).getD []) := by
    cases returns with
    | none => exact .pure h₁ (by simp [Covers])
    | some found =>
        refine (R.resolves plain (inDocument found rfl) h₁).bind fun resolved s₂ h₂ _ fits => ?_
        exact .pure h₂ fits.covers
  refine result.bind fun result s₂ h₂ later₂ typed => .pure h₂ fun token member => ?_
  rcases List.mem_append.1 member with input | output
  · exact (covers.later later₂) token input
  · exact typed token output

theorem listFunction_leads {returns : Lookup.Found} (inDocument : returns.LiesIn task.document)
    (h : R.holds s) :
    R.Leads (Infer.listFunction task scope item operation name returns) s fun function s' =>
      R.Covers s' function.tokens := by
  unfold Infer.listFunction
  refine (pathParameters_leads h).bind fun inputs s₁ h₁ _ covers => ?_
  rw [← bind_assoc]
  refine (R.lists plain inDocument h₁).bind fun type s₂ h₂ later₂ typed => ?_
  refine .pure h₂ fun token member => ?_
  rcases List.mem_append.1 member with input | output
  · exact (covers.later later₂) token input
  · cases type with
    | named _ => exact typed token output
    | primitive _ | any | array _ | map _ | union _ _ =>
        have items : R.Covers s₂ (PropertyMap.tokens
            ((∅ : PropertyMap).insert itemsProperty { type := _ })) := Covers.empty.insert _ typed
        exact items token output

end

theorem addReadFunction_leads {ctx : PathContext} {name : String} {function : FunctionSpec}
    (h : R.holds s) (covers : R.Covers s function.tokens) :
    R.Leads (Infer.addReadFunction task ctx name function) s fun _ _ => True := by
  unfold Infer.addReadFunction
  refine (Leads.of_writesTables (Infer.seat_writesTables ..) h).bind fun _ s₁ h₁ later₁ _ => ?_
  exact putFunction_leads h₁ (covers.later later₁)

/-! ## Operations -/

section

variable {ctx : PathContext} {operation : Operation}

theorem extractAction_leads {id : String} (h : R.holds s) :
    R.Leads (Infer.extractAction task ctx operation id) s fun _ _ => True := by
  have plain := Infer.isPlain_singularTitle task id .get
  unfold Infer.extractAction
  generalize Infer.singularTitle task id .get = title at plain
  have made : R.Leads (Infer.getFunction task ⟨ctx.module, title⟩ ctx.item operation
      ("get" ++ title) none) s fun function s' => R.Covers s' function.tokens :=
    getFunction_leads plain (by simp) h
  exact made.bind fun function s₁ h₁ _ covers => addReadFunction_leads h₁ covers

theorem extractList_leads {id : String} {returns : Lookup.Found}
    (inDocument : returns.LiesIn task.document) (h : R.holds s) :
    R.Leads (Infer.extractList task ctx operation id returns) s fun _ _ => True := by
  have plain : IsPlain (Naming.singular (Infer.operationTitle task id .get)
      task.options.allowedPlurals) :=
    Naming.isPlain_singular (Infer.isPlain_operationTitle _ _ _) _
  unfold Infer.extractList
  dsimp only
  generalize Naming.singular (Infer.operationTitle task id .get) task.options.allowedPlurals =
    resource at plain
  have made : R.Leads (Infer.listFunction task ⟨ctx.module, resource⟩ ctx.item operation
      ("list" ++ Infer.operationTitle task id .get) returns) s
        fun function s' => R.Covers s' function.tokens := listFunction_leads plain inDocument h
  exact made.bind fun function s₁ h₁ _ covers => addReadFunction_leads h₁ covers

theorem extractRead_leads {title : String} (plain : IsPlain title) {returns : Lookup.Found}
    (inDocument : returns.LiesIn task.document) (h : R.holds s) :
    R.Leads (Infer.extractRead task ctx operation title returns) s fun _ _ => True := by
  unfold Infer.extractRead
  refine (Leads.of_writesTables (Infer.seat_writesTables ..) h).bind fun _ s₁ h₁ _ _ => ?_
  have same : ∀ found, some returns = some found → found.LiesIn task.document := by
    rintro found ⟨⟩
    exact inDocument
  have made : R.Leads (Infer.getFunction task ⟨ctx.module, title⟩ ctx.item operation
      ("get" ++ title) (some returns)) s₁ fun function s' => R.Covers s' function.tokens :=
    getFunction_leads plain same h₁
  exact made.bind fun function s₂ h₂ _ covers => addReadFunction_leads h₂ covers

theorem discriminatorTarget_leads {path reference : String} (h : R.holds s) :
    R.Leads (Infer.discriminatorTarget task path reference) s fun found _ =>
      found.LiesIn task.document := by
  unfold Infer.discriminatorTarget
  split
  · rename_i located
    exact .pure h (Lookup.schemaByName_liesIn located)
  · exact .throw h id
  · exact .throw h id

theorem returnedSchema?_leads {path : String} (h : R.holds s) :
    R.Leads (Infer.returnedSchema? task path operation) s fun returns _ =>
      ∀ found, returns = some found → found.LiesIn task.document := by
  unfold Infer.returnedSchema?
  refine (Leads.of_writesTables (Infer.responseContent?_writesTables ..) h).bind
    fun content s₁ h₁ _ _ => ?_
  cases content with
  | none => exact .pure h₁ (by simp)
  | some media =>
      dsimp only
      split
      · rw [map_eq_pure_bind]
        refine (Leads.find h₁).bind fun found s₂ h₂ _ located => .pure h₂ ?_
        rintro _ ⟨⟩
        exact Lookup.schema_liesIn located
      · exact .throw h₁ id

theorem extractGet_leads (h : R.holds s) :
    R.Leads (Infer.extractGet task ctx operation) s fun _ _ => True := by
  unfold Infer.extractGet
  refine (Leads.of_writesTables (Infer.operationId_writesTables ..) h).bind
    fun id s₁ h₁ _ _ => ?_
  refine (returnedSchema?_leads h₁).bind fun returns s₂ h₂ _ inDocument => ?_
  cases returns with
  | none => exact extractAction_leads h₂
  | some returns =>
      dsimp only
      split
      · exact extractList_leads (inDocument returns rfl) h₂
      · split
        · exact extractRead_leads (Infer.isPlain_singularTitle _ _ _) (inDocument returns rfl) h₂
        · refine .forM (fun entry _ s h _ => ?_) h₂ trivial
          unfold Infer.extractBranchRead
          refine (discriminatorTarget_leads h).bind fun branch s₁ h₁ _ inDocument => ?_
          exact extractRead_leads (Naming.isPlain_schemaTitle _ _) inDocument h₁

theorem createResources_leads {title : String} (plain : IsPlain title) {request : Schema}
    {response : Option Schema} (h : R.holds s) :
    R.Leads (Infer.createResources task ctx title request response) s fun _ _ => True := by
  unfold Infer.createResources
  split
  · have made : ∀ bodies, R.Leads (Infer.gatherResource task ⟨ctx.module, title⟩ bodies ctx.path) s
        fun _ _ => True := fun _ => gatherResource_leads plain h
    exact (made _).bind fun _ s₁ h₁ _ _ => .pure h₁ trivial
  · refine (Leads.mapM (fun _ _ _ _ _ => trivial) (fun entry _ s h => ?_) h).imp
      fun _ _ _ _ => trivial
    obtain ⟨value, reference⟩ := entry
    unfold Infer.createBranch
    refine (discriminatorTarget_leads h).bind fun branch s₁ h₁ _ _ => ?_
    refine (Leads.of_writesTables (Infer.branchAnswer_writesTables ..) h₁).bind
      fun answer s₂ h₂ _ _ => ?_
    have plain := Naming.isPlain_pascalCase value
    generalize Naming.pascalCase value = title at plain
    exact gatherResource_leads plain h₂

theorem extractCreate_leads (h : R.holds s) :
    R.Leads (Infer.extractCreate task ctx) s fun _ _ => True := by
  unfold Infer.extractCreate
  split
  · exact .pure h trivial
  · refine (Leads.of_writesTables (Infer.operationId_writesTables ..) h).bind
      fun id s₁ h₁ _ _ => ?_
    refine (Leads.of_writesTables (Infer.requestSchema_writesTables ..) h₁).bind
      fun request s₂ h₂ _ _ => ?_
    refine (Leads.of_writesTables (Infer.createdSchema?_writesTables ..) h₂).bind
      fun response s₃ h₃ _ _ => ?_
    refine (pathParameters_leads h₃).bind fun parameters s₄ h₄ _ covers => ?_
    refine (createResources_leads (Infer.isPlain_singularTitle _ _ _) h₄).bind
      fun tokens s₅ h₅ later₅ _ => ?_
    have each : R.Leads (tokens.forM fun token => Infer.addPathParameters token parameters) s₅
        fun _ s' => R.Covers s' parameters.tokens := by
      refine .forM (fun token _ s h covers => ?_) h₅ (covers.later later₅)
      exact (addPathParameters_leads h covers).imp fun _ _ later _ => covers.later later
    exact each.imp fun _ _ _ _ => trivial

theorem extractOperations_leads (h : R.holds s) :
    R.Leads (Infer.extractOperations task ctx) s fun _ _ => True := by
  unfold Infer.extractOperations
  refine Leads.bind (.optionForM h fun operation _ => extractGet_leads h) fun _ s₁ h₁ _ _ => ?_
  refine Leads.bind (.optionForM h₁ fun operation _ =>
    .of_writesTables (Infer.extractChange_writesTables ..) h₁) fun _ s₂ h₂ _ _ => ?_
  refine Leads.bind (.optionForM h₂ fun operation _ =>
    .of_writesTables (Infer.extractChange_writesTables ..) h₂) fun _ s₃ h₃ _ _ => ?_
  refine Leads.bind (.optionForM h₃ fun operation _ =>
    .of_writesTables (Infer.extractDelete_writesTables ..) h₃) fun _ s₄ h₄ _ _ => ?_
  exact extractCreate_leads h₄

end

/-! ## Paths -/

theorem extractPath_leads {entry : String × PathItem} (h : R.holds s) :
    R.Leads (Infer.extractPath task entry) s fun _ _ => True := by
  obtain ⟨documentPath, item⟩ := entry
  unfold Infer.extractPath
  dsimp only
  split
  · exact .pure h trivial
  · refine (Leads.of_writesTables (Infer.normalizedPath_writesTables ..) h).bind
      fun normalized s₁ h₁ _ _ => ?_
    refine (Leads.of_writesTables (Infer.addModule_writesTables _) h₁).bind fun _ s₂ h₂ _ _ => ?_
    exact extractOperations_leads h₂

theorem extractPaths_leads (h : R.holds s) :
    R.Leads (Infer.extractPaths task) s fun _ _ => True :=
  .forM (fun _ _ _ h _ => extractPath_leads h) h trivial

end RunInvariant

/-! ## The session that a run ends in -/

/-- The session that the extraction of a document ends in. -/
def InferenceTask.lastSession (task : InferenceTask) : Session :=
  ((Infer.extractPaths task).run.run (Session.new task.options)).2

/-- A run that succeeds is one of its steps, and what is extracted is read off where it ends. -/
theorem extract_ran {task : InferenceTask} {e : Extraction} (h : extract task = .ok e) :
    (Infer.extractPaths task).run.run (Session.new task.options) = (.ok (), task.lastSession) ∧
      e = task.lastSession.finish := by
  unfold extract at h
  unfold InferenceTask.lastSession
  split at h
  · rename_i ran
    cases h
    exact ⟨by rw [ran], by rw [ran]⟩
  · cases h

theorem extract_eq_finish {task : InferenceTask} {e : Extraction} (h : extract task = .ok e) :
    e = task.lastSession.finish := (extract_ran h).2

theorem extract_of_isOk {task : InferenceTask} (h : (extract task).isOk = true) :
    extract task = .ok task.lastSession.finish := by
  cases extracted : extract task with
  | ok e => rw [extract_eq_finish extracted]
  | error e =>
      rw [extracted] at h
      cases h

/-- A resource that a successful run leaves under a token, with what has been checked of both. -/
theorem extract_resource (task : InferenceTask) (token : String)
    (good : Extraction → ResourceSpec → Prop) [∀ e r, Decidable (good e r)]
    (checked : (extract task).toOption.any (fun e =>
      (e.package.resources.get? token).any fun r => decide (good e r)) = true) :
    ∃ e r, extract task = .ok e ∧ e.package.resources.get? token = some r ∧ good e r := by
  cases extracted : extract task with
  | error _ => simp [extracted, Except.toOption] at checked
  | ok e =>
      cases present : e.package.resources.get? token with
      | none => simp [extracted, present, Except.toOption] at checked
      | some r =>
          have isGood : good e r := by
            simpa [extracted, present, Except.toOption] using checked
          exact ⟨e, r, rfl, present, isGood⟩

/-- An invariant that holds at the start of a run holds where it ends, if it succeeds. -/
theorem RunInvariant.holds_lastSession {task : InferenceTask} (R : RunInvariant task)
    (start : R.holds (Session.new task.options)) {e : Extraction} (h : extract task = .ok e) :
    R.holds task.lastSession :=
  ((R.extractPaths_leads start).ends.of_run (extract_ran h).1).1

/-! ## Small documents -/

/-- The reference to a component schema. -/
def RefOr.to (component : String) : SchemaOrRef := .ref (Lookup.schemaReference component)

/-- A path whose GET answers with a schema. -/
def PathItem.reading (operationId : String) (returns : SchemaOrRef) : PathItem where
  get := some {
    operationId := some operationId
    responses := [("200", .item { content := [(jsonMediaType, { schema := some returns })] })] }

/-- A path whose POST sends a schema. -/
def PathItem.creating (operationId : String) (request : SchemaOrRef) : PathItem where
  post := some {
    operationId := some operationId
    requestBody := some (.item { content := [(jsonMediaType, { schema := some request })] }) }

/-- The declaration of a variable of a path. -/
def RefOr.inPath (name : String) : RefOr Parameter :=
  .item { name, location := .path, required := true }

/-- A document with some component schemas. -/
def Document.having (schemas : List (String × SchemaOrRef)) (paths : List (String × PathItem)) :
    Document where
  openapi := "3.0.3"
  info := { title := "T", version := "1" }
  paths := paths
  components := some { schemas }

/-- The task of a document under default options. -/
def Document.task (d : Document) : InferenceTask := ⟨d, { packageName := "pkg" }⟩

/-- The session that such a task starts with. -/
def Session.first : Session := .new { packageName := "pkg" }

/-- An object schema. -/
def Schema.object (properties : List (String × SchemaOrRef)) (allOf : List SchemaOrRef) :
    Schema where
  type := some (.single .object)
  properties := properties
  allOf := allOf

/-- An object schema with a text under each of some names. -/
def Schema.texts (names : List String) : Schema :=
  .object (names.map fun name => (name, .item { type := some (.single .string) })) []

end ResourceInference
