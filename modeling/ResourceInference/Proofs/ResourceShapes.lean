import ResourceInference.Proofs.Shapes

/-!
# Shapes of resources and functions

A resource under construction takes in the properties of the request, shows those of the response,
collects required names, and takes in the parts of the request. In each of these phases what can be
set is shown, and what must be set can be set (`ResourceDraft.Shaped`); so the resource that is made
of it is shaped (`Infer.gatherDraft_shapes`). A function has the path parameters of its operation as
inputs (`Infer.getFunction_shapes`, `Infer.listFunction_shapes`).

Path parameters are added to a resource afterwards. They prevail over properties of the same name,
they are all texts and all required, and adding them twice is adding them once
(`Infer.withPathParameters_twice`).
-/

set_option autoImplicit false

namespace ResourceInference

/-! ## Path parameters -/

/-- The object type has the path parameters of a path and of one of its operations, and no other
properties, under their SDK names. All are texts, and all are required. -/
structure ObjectType.HoldsPathParameters (o : ObjectType) (d : Document) (item : PathItem)
    (operation : Operation) : Prop where
  names : ∀ name, o.properties.contains name = true ↔
    ∃ wire, operation.HasPathParameter d item wire ∧ Naming.sdkName wire = name
  texts : o.properties.All (·.type = .text)
  required : o.required = o.properties.keys

theorem ObjectType.HoldsPathParameters.shaped {o : ObjectType} {d : Document} {item : PathItem}
    {operation : Operation} (h : o.HoldsPathParameters d item operation) : o.Shaped := by
  unfold ObjectType.Shaped
  rw [h.required]
  exact ⟨o.properties.pairwise_keys, fun name => (o.properties.mem_keys_iff name).1⟩

/-- The properties are texts, each of them under the SDK name of a path parameter. -/
structure PropertyMap.OfPathParameters (properties : PropertyMap) (d : Document) (item : PathItem)
    (operation : Operation) : Prop where
  texts : properties.All (·.type = .text)
  named : ∀ name, properties.contains name = true →
    ∃ wire, operation.HasPathParameter d item wire ∧ Naming.sdkName wire = name

/-- The entry of a parameter list, if it is a path parameter, has its property. -/
def PropertyMap.HasParameter (properties : PropertyMap) (d : Document) (entry : RefOr Parameter) :
    Prop :=
  ∀ parameter, Lookup.parameter d entry = .ok parameter → parameter.isPath = true →
    properties.contains (Naming.sdkName parameter.name) = true

section

variable {properties : PropertyMap} {d : Document} {item : PathItem} {operation : Operation}

theorem PropertyMap.OfPathParameters.insert (h : properties.OfPathParameters d item operation)
    {wire : String} (isParameter : operation.HasPathParameter d item wire)
    {property : PropertySpec} (isText : property.type = .text) :
    PropertyMap.OfPathParameters (properties.insert (Naming.sdkName wire) property) d item
      operation := by
  refine ⟨h.texts.insert _ isText, fun name present => ?_⟩
  rcases (SortedMap.contains_insert ..).1 present with rfl | before
  · exact ⟨wire, isParameter, rfl⟩
  · exact h.named name before

/-- If all path parameters have their properties, and these come from path parameters, they are
exactly those of the path parameters. -/
theorem PropertyMap.OfPathParameters.holds (h : properties.OfPathParameters d item operation)
    (all : ∀ entry ∈ item.parameters ++ operation.parameters, properties.HasParameter d entry) :
    ObjectType.HoldsPathParameters ⟨none, properties, properties.keys⟩ d item operation := by
  refine ⟨fun name => ⟨h.named name, ?_⟩, h.texts, rfl⟩
  rintro ⟨wire, ⟨entry, member, parameter, located, isPath, rfl⟩, rfl⟩
  exact all entry member parameter located isPath

end

namespace Infer

section

variable {inv : Session → Prop} (tables : ∀ {s s'}, s.OnlyTables s' → inv s → inv s')

include tables

theorem addPathParameter_upholds {task : InferenceTask} {item : PathItem} {operation : Operation}
    {properties : PropertyMap} {entry : RefOr Parameter}
    (member : entry ∈ item.parameters ++ operation.parameters)
    (h : properties.OfPathParameters task.document item operation) :
    Upholds inv (addPathParameter task properties entry) fun grown =>
      grown.OfPathParameters task.document item operation ∧
        grown.HasParameter task.document entry ∧ ∀ other,
          properties.HasParameter task.document other → grown.HasParameter task.document other := by
  unfold addPathParameter
  refine Upholds.ofLookup.bind fun parameter located => ?_
  have only : ∀ {other}, Lookup.parameter task.document entry = .ok other → other = parameter :=
    fun located' => Except.ok.inj (located'.symm.trans located)
  split
  · rename_i isPath
    have isParameter : operation.HasPathParameter task.document item parameter.name :=
      ⟨entry, member, parameter, located, isPath, rfl⟩
    refine (Upholds.of_writesTables (recordPathParameter_writesTables ..) tables).bind
      fun _ _ => .pure ⟨h.insert isParameter rfl, fun other located' _ => ?_, ?_⟩
    · rw [only located']
      exact (SortedMap.contains_insert ..).2 (.inl rfl)
    · intro other before parameter' located' isPath'
      exact (SortedMap.contains_insert ..).2 (.inr (before parameter' located' isPath'))
  · rename_i noPath
    refine .pure ⟨h, fun other located' isPath => ?_, fun other => id⟩
    rw [only located'] at isPath
    exact absurd isPath noPath

/-- The object type of path parameters is made of the operation alone, whatever the session. -/
theorem pathParameters_upholds (task : InferenceTask) (item : PathItem) (operation : Operation) :
    Upholds inv (pathParameters task item operation) fun o =>
      o.HoldsPathParameters task.document item operation := by
  have start : PropertyMap.OfPathParameters ∅ task.document item operation :=
    ⟨SortedMap.all_empty _, fun name present => by cases present⟩
  have each : Upholds inv ((item.parameters ++ operation.parameters).foldlM
      (addPathParameter task) ∅) fun properties =>
        properties.OfPathParameters task.document item operation ∧
          (∀ entry ∈ item.parameters ++ operation.parameters,
            properties.HasParameter task.document entry) ∧
              ∀ entry, PropertyMap.HasParameter ∅ task.document entry →
                properties.HasParameter task.document entry :=
    .foldlM_forall (fun entry member properties => addPathParameter_upholds tables member) start
  exact each.bind fun properties ⟨from_, all, _⟩ => .pure (from_.holds all)

end

/-! ### Added to a resource -/

section

variable (parameters : ObjectType) (r : ResourceSpec)

/-- Adding path parameters again changes nothing. -/
theorem withPathParameters_twice : withPathParameters parameters (withPathParameters parameters r) =
    withPathParameters parameters r := by
  simp only [withPathParameters, SortedMap.union_union, SortedSet.ofList_keys]

theorem mem_requiredInputs_withPathParameters (name : String) :
    name ∈ (withPathParameters parameters r).requiredInputs ↔
      name ∈ parameters.required ∨ name ∈ r.requiredInputs := by
  simp only [withPathParameters, SortedMap.mem_keys_iff, SortedMap.contains_union,
    SortedSet.contains_ofList]

variable {parameters r}

/-- What must be set can be set also with path parameters. -/
theorem withPathParameters_lists (h : parameters.Shaped)
    (h' : PropertyMap.Lists r.inputProperties r.requiredInputs) :
    PropertyMap.Lists (withPathParameters parameters r).inputProperties
      (withPathParameters parameters r).requiredInputs := by
  refine ⟨SortedMap.pairwise_keys _, fun name member => (SortedMap.contains_union ..).2 ?_⟩
  exact ((mem_requiredInputs_withPathParameters ..).1 member).imp (h.present name) (h'.present name)

end

end Infer

/-! ## Resources under construction -/

/-- What can be set is shown, and what must be set can be set. -/
structure ResourceDraft.Shaped (draft : ResourceDraft) : Prop where
  shown : ∀ name, draft.inputs.contains name = true → draft.outputs.contains name = true
  settable : ∀ name, draft.requiredInputs.contains name = true → draft.inputs.contains name = true

/-- The property can be set on the draft, unless it is read-only or belongs to the provider. -/
def ResourceDraft.Takes (draft : ResourceDraft) (d : Document) (entry : String × SchemaOrRef) :
    Prop :=
  ∀ found, Lookup.schema d entry.2 = .ok found → found.schema.readOnly = false →
    Naming.sdkName entry.1 ≠ idProperty → draft.inputs.contains (Naming.sdkName entry.1) = true

namespace ResourceDraft

variable {draft : ResourceDraft}

theorem inputs_addOutput (draft : ResourceDraft) (entry : String × PropertySpec) :
    (draft.addOutput entry).inputs = draft.inputs := by
  unfold addOutput
  split <;> rfl

theorem inputs_foldl_addOutput (entries : List (String × PropertySpec)) :
    ∀ draft : ResourceDraft, (entries.foldl addOutput draft).inputs = draft.inputs := by
  induction entries with
  | nil => exact fun _ => rfl
  | cons entry rest ih =>
      intro draft
      rw [List.foldl_cons, ih, inputs_addOutput]

/-- A property of the request can be set unless it is read-only, and nothing is taken away. -/
theorem contains_inputs_addRequestProperty (readOnly : Bool) (entry : String × PropertySpec)
    (name : String) : (draft.addRequestProperty readOnly entry).inputs.contains name = true ↔
      (name = entry.1 ∧ name ≠ idProperty ∧ readOnly = false) ∨
        draft.inputs.contains name = true := by
  unfold addRequestProperty
  dsimp only
  split
  · rename_i skipped
    rw [inputs_addOutput]
    have kept : ¬ (name = entry.1 ∧ name ≠ idProperty ∧ readOnly = false) := by
      rintro ⟨rfl, notId, settable⟩
      simp [notId, settable] at skipped
    simp [kept]
  · rename_i taken
    rw [inputs_addOutput, SortedMap.contains_insert]
    have allowed : entry.1 ≠ idProperty ∧ readOnly = false := by simpa using taken
    constructor
    · rintro (rfl | before)
      · exact .inl ⟨rfl, allowed⟩
      · exact .inr before
    · rintro (⟨same, -⟩ | before)
      · exact .inl same
      · exact .inr before

theorem inputs_requireInput (sdk : String) : (draft.requireInput sdk).inputs = draft.inputs := by
  unfold requireInput
  split <;> rfl

namespace Shaped

theorem empty : ResourceDraft.Shaped {} := by
  constructor <;> exact fun _ present => by cases present

theorem addOutput (h : draft.Shaped) (entry : String × PropertySpec) :
    (draft.addOutput entry).Shaped := by
  unfold ResourceDraft.addOutput
  split
  · exact h
  · refine ⟨fun name settable => ?_, h.settable⟩
    exact (SortedMap.contains_insert ..).2 (.inr (h.shown name settable))

theorem foldl_addOutput (entries : List (String × PropertySpec)) :
    ∀ {draft : ResourceDraft}, draft.Shaped →
      (entries.foldl ResourceDraft.addOutput draft).Shaped := by
  induction entries with
  | nil => exact id
  | cons entry rest ih => exact fun h => ih (h.addOutput entry)

theorem addRequestProperty (h : draft.Shaped) (readOnly : Bool) (entry : String × PropertySpec) :
    (draft.addRequestProperty readOnly entry).Shaped := by
  refine ⟨fun name settable => ?_, fun name required => ?_⟩
  · have shown := h.addOutput entry
    unfold ResourceDraft.addRequestProperty at settable ⊢
    dsimp only at settable ⊢
    split at settable <;> rename_i skipped
    · rw [if_pos skipped]
      exact shown.shown name settable
    · rw [if_neg skipped]
      rcases (SortedMap.contains_insert ..).1 settable with rfl | before
      · have notId : entry.1 ≠ idProperty := by
          intro same
          simp [same] at skipped
        simp only [ResourceDraft.addOutput, if_neg notId]
        exact (SortedMap.contains_insert ..).2 (.inl rfl)
      · exact shown.shown name before
  · refine (contains_inputs_addRequestProperty ..).2 (.inr (h.settable name ?_))
    unfold ResourceDraft.addRequestProperty ResourceDraft.addOutput at required
    dsimp only at required
    split at required <;> split at required <;> exact required

theorem addPartProperty (h : draft.Shaped) (entry : String × PropertySpec) :
    (draft.addPartProperty entry).Shaped := by
  unfold ResourceDraft.addPartProperty
  split
  · exact h
  · refine ⟨fun name settable => ?_, fun name required => ?_⟩
    · have shown : name = entry.1 ∨ draft.outputs.contains name = true :=
        ((SortedMap.contains_insert ..).1 settable).imp_right (h.shown name)
      dsimp only
      split
      · rename_i present
        rcases shown with rfl | before
        · exact present
        · exact before
      · exact (SortedMap.contains_insert ..).2 shown
    · exact (SortedMap.contains_insert ..).2 (.inr (h.settable name required))

theorem requireInput {sdk : String} (h : draft.Shaped)
    (settable : sdk ≠ idProperty → draft.inputs.contains sdk = true) :
    (draft.requireInput sdk).Shaped := by
  unfold ResourceDraft.requireInput
  split
  · exact h
  · rename_i notId
    refine ⟨h.shown, fun name required => ?_⟩
    rcases (SortedMap.contains_insert ..).1 required with rfl | before
    · exact settable notId
    · exact h.settable name before

theorem requireOutput (h : draft.Shaped) (sdk : String) : (draft.requireOutput sdk).Shaped := by
  unfold ResourceDraft.requireOutput
  split
  · exact h
  · exact ⟨h.shown, h.settable⟩

/-- An object that is a part of the request can be set with all of its properties. -/
theorem foldl_addPartProperty (entries : List (String × PropertySpec)) :
    ∀ {draft : ResourceDraft}, draft.Shaped →
      (entries.foldl ResourceDraft.addPartProperty draft).Shaped ∧
        ∀ name, (∃ property, (name, property) ∈ entries ∧ name ≠ idProperty) ∨
          draft.inputs.contains name = true →
            (entries.foldl ResourceDraft.addPartProperty draft).inputs.contains name = true := by
  induction entries with
  | nil => exact fun h => ⟨h, by simp⟩
  | cons entry rest ih =>
      intro draft h
      obtain ⟨shaped, settable⟩ := ih (h.addPartProperty entry)
      refine ⟨shaped, fun name isIn => settable name ?_⟩
      unfold ResourceDraft.addPartProperty
      rcases isIn with ⟨property, member, notId⟩ | before
      · rcases List.mem_cons.1 member with rfl | member
        · rw [if_neg notId]
          exact .inr ((SortedMap.contains_insert ..).2 (.inl rfl))
        · exact .inl ⟨property, member, notId⟩
      · right
        split
        · exact before
        · exact (SortedMap.contains_insert ..).2 (.inr before)

theorem foldl_requireInput (names : List String) : ∀ {draft : ResourceDraft}, draft.Shaped →
    (∀ name ∈ names, name ≠ idProperty → draft.inputs.contains name = true) →
      (names.foldl ResourceDraft.requireInput draft).Shaped := by
  induction names with
  | nil => exact fun h _ => h
  | cons name rest ih =>
      intro draft h present
      refine ih (h.requireInput (present name List.mem_cons_self)) fun other member => ?_
      rw [inputs_requireInput]
      exact present other (List.mem_cons_of_mem _ member)

theorem addPart {object : ObjectType} (h : draft.Shaped) (shaped : object.Shaped)
    (stripRequired : Bool) : (draft.addPart stripRequired object).Shaped := by
  obtain ⟨added, settable⟩ := foldl_addPartProperty object.properties.toList h
  unfold ResourceDraft.addPart
  dsimp only
  split
  · exact added
  · refine foldl_requireInput _ added fun name member notId => ?_
    obtain ⟨property, found⟩ := (SortedMap.contains_iff ..).1 (shaped.present name member)
    exact settable name (.inl ⟨property, (SortedMap.mem_toList_iff ..).2 found, notId⟩)

theorem toResource (h : draft.Shaped) (description : Option String) :
    (draft.toResource description).Shaped where
  required := by
    refine ⟨draft.requiredOutputs.pairwise_keys.filter _, fun name member => ?_⟩
    exact (List.mem_filter.1 member).2
  requiredInputs := .of_keys h.settable
  shown := h.shown

end Shaped

end ResourceDraft

namespace Infer

variable {task : InferenceTask} {scope : Scope}

/-! ## Bodies -/

/-- What a property of a body is made with: its SDK name, and whether it is read-only. -/
theorem bodyProperty_upholds {inv : Session → Prop}
    (typed : ∀ mapName typeName found, Upholds inv (propertyTypeOf task (propertyType task) scope
      mapName typeName found) fun _ => True)
    (recorded : ∀ wire sdk, Upholds inv (recordName wire sdk) fun _ => True)
    {entry : String × SchemaOrRef} :
    Upholds inv (bodyProperty task scope entry) fun made => made.2.1 = Naming.sdkName entry.1 ∧
      ∃ found, Lookup.schema task.document entry.2 = .ok found ∧
        made.1 = found.schema.readOnly := by
  obtain ⟨wire, part⟩ := entry
  unfold bodyProperty resourceProperty
  refine Upholds.find.bind fun found located => ?_
  rw [bind_assoc]
  refine (typed ..).bind fun type _ => ?_
  rw [pure_bind]
  exact (recorded ..).bind fun _ _ => .pure ⟨rfl, found, located, rfl⟩

theorem bodyProperty_shapes {entry : String × SchemaOrRef} :
    Shapes (bodyProperty task scope entry) fun made => made.2.1 = Naming.sdkName entry.1 ∧
      ∃ found, Lookup.schema task.document entry.2 = .ok found ∧
        made.1 = found.schema.readOnly :=
  bodyProperty_upholds (fun _ _ _ => propertyTypeOf_shapes propertyType_shapes)
    fun wire sdk => shapes_of_writesTables (recordName_writesTables wire sdk)

theorem gatherRequestProperty_shapes {draft : ResourceDraft} {entry : String × SchemaOrRef}
    (h : draft.Shaped) : Shapes (gatherRequestProperty task scope draft entry) fun grown =>
      grown.Shaped ∧ grown.Takes task.document entry ∧
        ∀ other, draft.Takes task.document other → grown.Takes task.document other := by
  refine bodyProperty_shapes.bind
    fun ⟨readOnly, sdk, property⟩ ⟨named, found, located, asked⟩ => .pure ?_
  refine ⟨h.addRequestProperty readOnly (sdk, property), ?_, ?_⟩
  · intro other located' settable notId
    refine (ResourceDraft.contains_inputs_addRequestProperty ..).2 (.inl ⟨named.symm, notId, ?_⟩)
    rw [Except.ok.inj (located'.symm.trans located)] at settable
    exact asked.trans settable
  · intro other before found located settable notId
    have kept := before found located settable notId
    exact (ResourceDraft.contains_inputs_addRequestProperty ..).2 (.inr kept)

theorem gatherAnswer_shapes {draft : ResourceDraft} {response : Option Schema} (h : draft.Shaped) :
    Shapes (gatherAnswer task scope draft response) fun grown =>
      grown.Shaped ∧ grown.inputs = draft.inputs := by
  cases response with
  | none => exact .pure ⟨h, rfl⟩
  | some response =>
      refine (mergedMembers_shapes propertyType_shapes).bind fun merged _ => ?_
      refine .foldlM (fun entry _ grown ⟨shaped, same⟩ => ?_)
        ⟨.foldl_addOutput _ h, ResourceDraft.inputs_foldl_addOutput ..⟩
      refine bodyProperty_shapes.bind fun made _ => .pure ⟨shaped.addOutput _, ?_⟩
      rw [ResourceDraft.inputs_addOutput, same]

/-- A name of the request that must be set is that of a property which the first loop has taken
in. -/
theorem gatherRequiredInput_shapes {token wire : String} {request : Schema} {draft : ResourceDraft}
    (h : draft.Shaped) (takes : ∀ entry ∈ request.properties, draft.Takes task.document entry) :
    Shapes (gatherRequiredInput task token request draft wire) fun grown =>
      grown.Shaped ∧ ∀ entry ∈ request.properties, grown.Takes task.document entry := by
  unfold gatherRequiredInput
  split
  · exact .pure ⟨h, takes⟩
  · rename_i part declared
    refine Upholds.find.bind fun found located => ?_
    split
    · exact .pure ⟨h, takes⟩
    · rename_i settable
      split
      · refine (shapes_of_writesTables (setAutoName_writesTables ..)).bind fun _ _ => ?_
        exact .pure ⟨h, takes⟩
      · have isIn := takes (wire, part) (mem_of_lookup declared) found located
          (by simpa using settable)
        refine .pure ⟨h.requireInput isIn, fun entry member => ?_⟩
        unfold ResourceDraft.Takes
        rw [ResourceDraft.inputs_requireInput]
        exact takes entry member

theorem gatherRequiredOutput_shapes {draft : ResourceDraft} {wire : String} (h : draft.Shaped) :
    Shapes (gatherRequiredOutput draft wire) ResourceDraft.Shaped :=
  (shapes_of_writesTables (recordName_writesTables ..)).bind fun _ _ => .pure (h.requireOutput _)

theorem gatherPart_shapes {stripRequired : Bool} {draft : ResourceDraft} {part : SchemaOrRef}
    (h : draft.Shaped) :
    Shapes (gatherPart task scope stripRequired draft part) ResourceDraft.Shaped := by
  unfold gatherPart
  refine Upholds.find.bind fun found _ => ?_
  split
  · exact .pure h
  · refine (propertyType_shapes scope _ found).bind fun resolved _ => ?_
    refine (takeObject_shapes resolved).bind fun object taken => ?_
    cases object with
    | none => exact .pure h
    | some object => exact .pure (h.addPart (taken object rfl) stripRequired)

/-- A resource under construction is shaped after every phase, and so in the end. -/
theorem gatherDraft_shapes {token : String} {bodies : ResourceBodies} :
    Shapes (gatherDraft task scope token bodies) ResourceDraft.Shaped := by
  unfold gatherDraft
  dsimp only
  have requested : Shapes (bodies.request.properties.foldlM (gatherRequestProperty task scope) {})
      fun draft => draft.Shaped ∧
        (∀ entry ∈ bodies.request.properties, draft.Takes task.document entry) ∧
          ∀ entry, ResourceDraft.Takes {} task.document entry → draft.Takes task.document entry :=
    .foldlM_forall (fun entry _ draft h => gatherRequestProperty_shapes h) .empty
  refine requested.bind fun draft ⟨h, takes, _⟩ => ?_
  refine (gatherAnswer_shapes h).bind fun answered ⟨h, same⟩ => ?_
  have takes : ∀ entry ∈ bodies.request.properties, answered.Takes task.document entry := by
    intro entry member
    unfold ResourceDraft.Takes
    rw [same]
    exact takes entry member
  have required : Shapes (bodies.request.required.foldlM
      (gatherRequiredInput task token bodies.request) answered) fun draft =>
        draft.Shaped ∧ ∀ entry ∈ bodies.request.properties, draft.Takes task.document entry :=
    .foldlM (fun wire _ draft h => gatherRequiredInput_shapes h.1 h.2) ⟨h, takes⟩
  refine required.bind fun draft ⟨h, _⟩ => ?_
  refine Upholds.bind (.foldlM (fun wire _ draft h => gatherRequiredOutput_shapes h) h)
    fun draft h => ?_
  exact .foldlM (fun part _ draft h => gatherPart_shapes h) h

/-! ## Functions -/

variable {item : PathItem} {operation : Operation} {name : String}

theorem getFunction_shapes {returns : Option Lookup.Found} :
    Shapes (getFunction task scope item operation name returns) fun function =>
      ∃ inputs, function.inputs = some inputs ∧
        inputs.HoldsPathParameters task.document item operation ∧ function.Shaped := by
  unfold getFunction
  refine (pathParameters_upholds .tables task item operation).bind fun inputs holds => ?_
  have result : Shapes (getResult task scope name returns) fun result =>
      ∀ o, result ≠ some (.object o) := by
    cases returns with
    | none => exact .pure (by simp)
    | some found => exact (propertyType_shapes scope _ found).bind fun _ _ => .pure (by simp)
  refine result.bind fun result noObject => .pure ⟨inputs, rfl, holds, fun o same => ?_, ?_⟩
  · cases same
    exact holds.shaped
  · exact fun o same => absurd same (noObject o)

theorem renameListType_shapes {type : TypeSpec} :
    Shapes (renameListType name type) fun _ => True := by
  refine ⟨fun s h => (renameListType_ends name type s).mono ?_ fun _ _ => False.elim⟩
  intro _ s' moves
  cases moves with
  | stays | unmarked _ => exact ⟨h, trivial⟩
  | moved target registered => exact ⟨h.moving registered target, trivial⟩

theorem listResult_shaped (type : TypeSpec) (o : ObjectType) (h : listResult type = .object o) :
    o.Shaped := by
  have items : ObjectType.Shaped
      ⟨none, (∅ : PropertyMap).insert itemsProperty { type }, [itemsProperty]⟩ := by
    refine ⟨List.pairwise_singleton _ _, fun name member => ?_⟩
    rw [List.mem_singleton.1 member]
    exact (SortedMap.contains_insert ..).2 (.inl rfl)
  cases type with
  | named _ => cases h
  | primitive _ | any | array _ | map _ | union _ _ =>
      cases h
      exact items

theorem listFunction_shapes {returns : Lookup.Found} :
    Shapes (listFunction task scope item operation name returns) fun function =>
      ∃ inputs, function.inputs = some inputs ∧
        inputs.HoldsPathParameters task.document item operation ∧ function.Shaped := by
  unfold listFunction
  refine (pathParameters_upholds .tables task item operation).bind fun inputs holds => ?_
  refine (propertyType_shapes scope _ returns).bind fun resolved _ => ?_
  refine renameListType_shapes.bind fun type _ => .pure ⟨inputs, rfl, holds, ?_, ?_⟩
  · intro o same
    cases same
    exact holds.shaped
  · intro o same
    exact listResult_shaped type o (Option.some.inj same)

end Infer

end ResourceInference
