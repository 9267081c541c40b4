import ResourceInference.Proofs.CommutingNames

/-!
# Walking through the properties of a body

The properties of the bodies that a resource is made of are taken in the order in which the document
lists them, not in the order of their names. Their order matters, but not to a property that is a
scalar and shares its SDK name with no neighbour: such a property registers nothing, so it may be
taken earlier or later (`Document.Free`).

Two bodies that are alike and list their properties in the same order, up to that of free
neighbours, make the same resource (`gatherResource_alike`).
-/

set_option autoImplicit false

namespace ResourceInference

/-! ## Scalars -/

/-- Whether a type is that of a text, a number or a truth value. -/
def SchemaType.isScalar : SchemaType → Bool
  | .string | .number | .integer | .boolean => true
  | .array | .object | .null => false

/-- Whether a schema says no more than a scalar type: it has no members, no alternatives and no
list of values. -/
def Schema.isScalar (s : Schema) : Bool :=
  s.properties.isEmpty && s.oneOf.isEmpty && s.allOf.isEmpty && s.anyOf.isEmpty &&
    s.enum.isEmpty && !s.hasType .object && s.primaryType?.any SchemaType.isScalar

/-- The schema that stands at a place, or that the reference there leads to, is a scalar. -/
def Document.ScalarAt (d : Document) (part : SchemaOrRef) : Prop :=
  ∃ found, Lookup.schema d part = .ok found ∧ found.schema.isScalar = true

/-- Two properties may be taken in either order: their SDK names differ, and one of them is a
scalar. -/
def Document.Free (d : Document) (e e' : String × SchemaOrRef) : Prop :=
  Naming.sdkName e.1 ≠ Naming.sdkName e'.1 ∧ (d.ScalarAt e.2 ∨ d.ScalarAt e'.2)

/-- The properties of a schema in the order in which the document lists them, with everything
inside them arranged. -/
def Schema.walk (s : Schema) : List (String × SchemaOrRef) :=
  arrangedTable (arrangedPart true) s.properties

/-- The schemas list their properties in the same order, up to that of free neighbours. -/
def Document.SameWalk (d : Document) (s s' : Schema) : Prop := Swaps d.Free s.walk s'.walk

theorem Schema.isScalar_arranged (s : Schema) : (s.arranged true).isScalar = s.isScalar := by
  have type : (s.arranged true).type = s.type := (congrArg Schema.type (s.arranged_bare true) :)
  have enum : (s.arranged true).enum = s.enum := (congrArg Schema.enum (s.arranged_bare true) :)
  have lengths := (swaps_arrangedProperties true
    (AdditionalProperties.isOpen s.additionalProperties) s.properties).perm.length_eq
  have properties : (s.arranged true).properties.isEmpty = s.properties.isEmpty := by
    rw [List.length_map] at lengths
    rw [Schema.arranged_properties, Bool.true_and, Bool.eq_iff_iff,
      List.isEmpty_iff_length_eq_zero, List.isEmpty_iff_length_eq_zero, lengths]
  simp only [Schema.isScalar, properties, Schema.arranged_oneOf, Schema.arranged_allOf,
    Schema.arranged_anyOf, List.isEmpty_map, enum, Schema.hasType, Schema.primaryType?, type]

theorem Document.ScalarAt.of_arranged {d : Document} {part : SchemaOrRef}
    (h : d.ScalarAt (arrangedPart true part)) : d.ScalarAt part := by
  cases part with
  | ref path => exact h
  | item s =>
    obtain ⟨found, located, isScalar⟩ := h
    cases located
    exact ⟨⟨none, s⟩, rfl, s.isScalar_arranged ▸ isScalar⟩

theorem Document.Free.of_arranged {d : Document} {e e' : String × SchemaOrRef}
    (h : d.Free (SortedMap.onValue (arrangedPart true) e)
      (SortedMap.onValue (arrangedPart true) e')) : d.Free e e' :=
  ⟨h.1, h.2.imp .of_arranged .of_arranged⟩

namespace Infer

/-- A scalar is given its type without any step. -/
theorem propertyTypeOf_scalar {found : Lookup.Found} (isScalar : found.schema.isScalar = true) :
    ∃ type, ∀ task scope mapName typeName,
      propertyTypeOf task (propertyType task) scope mapName typeName found = pure type := by
  obtain ⟨name, schema⟩ := found
  simp only [Schema.isScalar, Bool.and_eq_true, Bool.not_eq_true', Option.any_eq_true] at isScalar
  obtain ⟨⟨⟨⟨⟨⟨properties, oneOf⟩, allOf⟩, anyOf⟩, enum⟩, noObject⟩, type, primary, scalar⟩ :=
    isScalar
  have unnamed : ∃ spec, ∀ task resolve scope parent,
      unnamedType task resolve scope parent schema = pure ⟨spec, false⟩ := by
    simp only [unnamedType, List.isEmpty_iff.1 anyOf, primary]
    cases type with
    | array | object | null => cases scalar
    | string | number | integer | boolean => exact ⟨_, fun _ _ _ _ => rfl⟩
  obtain ⟨spec, made⟩ := unnamed
  refine ⟨spec, fun task scope mapName typeName => ?_⟩
  have values : schema.mapValues? = none := by
    rw [Schema.mapValues?_eq, List.isEmpty_iff.1 properties]
    simp
  have inPlace : ∀ resolve, inlineType task resolve scope typeName schema = pure ⟨spec, false⟩ := by
    intro resolve
    simp [inlineType, enumOrNone, properties, oneOf, allOf, enum, made]
  have resolved : propertyType task scope typeName ⟨name, schema⟩ = pure ⟨spec, false⟩ := by
    simp only [propertyType, depthBound, resolver, typeOf]
    cases name with
    | none => exact inPlace _
    | some component => simp [inPlace, componentType, properties, allOf, oneOf, noObject, made]
  simp [propertyTypeOf, values, resolved]

/-! ## Taking properties in another order -/

section

variable {task : InferenceTask} (scope : Scope)

/-- The name that comes with a property is its SDK name. -/
theorem bodyProperty_named (entry : String × SchemaOrRef) :
    bodyProperty task scope entry =
      bodyProperty task scope entry >>= fun property =>
        pure (property.1, Naming.sdkName entry.1, property.2.2) := by
  simp only [bodyProperty, resourceProperty, bind_assoc, pure_bind]

/-- A scalar only has its name recorded. -/
theorem bodyProperty_scalar {entry : String × SchemaOrRef}
    (scalar : task.document.ScalarAt entry.2) : ∃ property : Bool × String × PropertySpec,
      property.2.1 = Naming.sdkName entry.1 ∧ bodyProperty task scope entry =
        recordName entry.1 (Naming.sdkName entry.1) >>= fun _ => pure property := by
  obtain ⟨found, located, isScalar⟩ := scalar
  obtain ⟨type, made⟩ := propertyTypeOf_scalar isScalar
  obtain ⟨wire, part⟩ := entry
  refine ⟨(found.schema.readOnly, Naming.sdkName wire, .ofSchema type found.schema), rfl, ?_⟩
  simp only [bodyProperty, resourceProperty, find, located, ofLookup, made, pure_bind]

/-- Resolve a property of a body and put it into a draft. -/
def walkProperty (task : InferenceTask) (scope : Scope)
    (put : ResourceDraft → Bool × String × PropertySpec → ResourceDraft) (draft : ResourceDraft)
    (entry : String × SchemaOrRef) : Infer ResourceDraft := do
  let property ← bodyProperty task scope entry
  pure (put draft property)

theorem addOutput_comm (draft : ResourceDraft) {entry entry' : String × PropertySpec}
    (apart : entry.1 ≠ entry'.1) :
    (draft.addOutput entry).addOutput entry' = (draft.addOutput entry').addOutput entry := by
  by_cases left : entry.1 = idProperty <;> by_cases right : entry'.1 = idProperty <;>
    simp [ResourceDraft.addOutput, left, right]
  exact draft.outputs.insert_insert_of_ne apart ..

theorem addRequestProperty_comm (draft : ResourceDraft) (readOnly readOnly' : Bool)
    {entry entry' : String × PropertySpec} (apart : entry.1 ≠ entry'.1) :
    (draft.addRequestProperty readOnly entry).addRequestProperty readOnly' entry' =
      (draft.addRequestProperty readOnly' entry').addRequestProperty readOnly entry := by
  by_cases left : entry.1 = idProperty <;> by_cases right : entry'.1 = idProperty <;>
    cases readOnly <;> cases readOnly' <;>
    simp [ResourceDraft.addRequestProperty, ResourceDraft.addOutput, left, right,
      draft.outputs.insert_insert_of_ne apart, draft.inputs.insert_insert_of_ne apart]

/-- Two properties with different SDK names are put into a draft in either order. -/
def Commuting (put : ResourceDraft → Bool × String × PropertySpec → ResourceDraft) : Prop :=
  ∀ draft property property', property.2.1 ≠ property'.2.1 →
    put (put draft property) property' = put (put draft property') property

variable {put : ResourceDraft → Bool × String × PropertySpec → ResourceDraft}
  (commutes : Commuting put)

include commutes

/-- A scalar in front of a property with another SDK name may be taken behind it. -/
theorem walkProperty_scalar_comm
    {entry entry' : String × SchemaOrRef} (apart : Naming.sdkName entry.1 ≠ Naming.sdkName entry'.1)
    (scalar : task.document.ScalarAt entry.2) (draft : ResourceDraft) :
    Alike Eq (walkProperty task scope put draft entry >>= fun draft =>
        walkProperty task scope put draft entry')
      (walkProperty task scope put draft entry' >>= fun draft =>
        walkProperty task scope put draft entry) := by
  obtain ⟨property, named, made⟩ := bodyProperty_scalar scope scalar
  have swapped : ∀ property' : Bool × String × PropertySpec, put (put draft property)
      (property'.1, Naming.sdkName entry'.1, property'.2.2) =
        put (put draft (property'.1, Naming.sdkName entry'.1, property'.2.2)) property := by
    intro property'
    apply commutes
    rw [named]
    exact apart
  have commuted := Alike.bind_same
    ((bodyProperty_composed task scope entry').commutes entry.1 (Naming.sdkName entry.1))
    fun property' => Alike.refl (pure (put (put draft property)
      (property'.1, Naming.sdkName entry'.1, property'.2.2)) : Infer ResourceDraft)
  unfold walkProperty
  rw [made, bodyProperty_named scope entry']
  simp only [bind_assoc, pure_bind, swapped] at commuted ⊢
  exact commuted

/-- Free neighbours may be taken in either order. -/
theorem walkProperty_comm
    {entry entry' : String × SchemaOrRef} (free : task.document.Free entry entry')
    (draft : ResourceDraft) :
    Alike Eq (walkProperty task scope put draft entry >>= fun draft =>
        walkProperty task scope put draft entry')
      (walkProperty task scope put draft entry' >>= fun draft =>
        walkProperty task scope put draft entry) := by
  obtain ⟨apart, scalar | scalar⟩ := free
  · exact walkProperty_scalar_comm scope commutes apart scalar draft
  · exact (walkProperty_scalar_comm scope commutes apart.symm scalar draft).symm

/-- By induction on the swaps: properties may be taken in any order that swaps only free
neighbours. -/
theorem walk_swaps
    {entries entries' : List (String × SchemaOrRef)}
    (swaps : Swaps task.document.Free entries entries') :
    ∀ draft, Alike Eq (entries.foldlM (walkProperty task scope put) draft)
      (entries'.foldlM (walkProperty task scope put) draft) := by
  induction swaps with
  | refl entries => exact fun draft => .refl _
  | @swap entry entry' free rest =>
    intro draft
    have swapped := (walkProperty_comm scope commutes free draft).bind_same fun draft =>
      Alike.refl (rest.foldlM (walkProperty task scope put) draft)
    simpa only [List.foldlM_cons, bind_assoc] using swapped
  | cons entry _ ih =>
    intro draft
    rw [List.foldlM_cons, List.foldlM_cons]
    exact (Alike.refl _).bind_same ih
  | trans _ _ first second => exact fun draft => (first draft).trans (second draft)

end

/-! ## Two documents -/

section

variable {task task' : InferenceTask} (like : task.Like task') (scope : Scope)

include like

theorem bodyProperty_alike {entry entry' : String × SchemaOrRef}
    (same : SortedMap.onValue (arrangedPart true) entry =
      SortedMap.onValue (arrangedPart true) entry') :
    Alike Eq (bodyProperty task scope entry) (bodyProperty task' scope entry') := by
  obtain ⟨wire, part⟩ := entry
  obtain ⟨wire', part'⟩ := entry'
  obtain ⟨rfl, samePart⟩ := Prod.mk.inj same
  unfold bodyProperty resourceProperty
  apply (find_alike like samePart).bind
  intro found found' alike
  rw [bind_assoc, bind_assoc]
  apply (propertyTypeOf_alike like (propertyType_alike like) scope _ _ alike).bind_same
  intro type
  rw [PropertySpec.ofSchema, PropertySpec.ofSchema, alike.schema.description,
    alike.schema.scalarDefault?, alike.schema.isSecret, alike.schema.readOnly]
  exact .refl _

/-- Bodies that are alike and list their properties in the same order, up to that of free
neighbours, are walked through alike. -/
theorem walk_alike {put : ResourceDraft → Bool × String × PropertySpec → ResourceDraft}
    (commutes : Commuting put) {s s' : Schema} (same : task.document.SameWalk s s')
    (draft : ResourceDraft) :
    Alike Eq (s.properties.foldlM (walkProperty task scope put) draft)
      (s'.properties.foldlM (walkProperty task' scope put) draft) := by
  obtain ⟨between, swapped, reached⟩ := same.exists_of_map
  have free : Swaps task.document.Free s.properties between := swapped.mono fun _ _ => .of_arranged
  apply (walk_swaps scope commutes free draft).trans
  apply Alike.foldlM _ ?_ reached
  intro draft entry entry' alike
  exact (bodyProperty_alike like scope alike).bind_same fun _ => .pure rfl

/-! ## Resources -/

/-- The properties of a request are walked through alike. -/
theorem gatherRequestProperties_alike {s s' : Schema} (same : task.document.SameWalk s s')
    (draft : ResourceDraft) :
    Alike Eq (s.properties.foldlM (gatherRequestProperty task scope) draft)
      (s'.properties.foldlM (gatherRequestProperty task' scope) draft) :=
  walk_alike like scope
    (fun draft property property' => addRequestProperty_comm draft property.1 property'.1)
    same draft

theorem gatherResponse_alike {s s' : Schema} (same : s.Like s')
    (walk : task.document.SameWalk s s') (draft : ResourceDraft) :
    Alike Eq (gatherResponse task scope draft s) (gatherResponse task' scope draft s') := by
  unfold gatherResponse
  apply (mergedMembers_alike like (propertyType_alike like) scope _ same.allOf).bind_same
  intro merged
  exact walk_alike like scope (fun draft _ _ => addOutput_comm draft) walk _

theorem gatherAnswer_alike {response response' : Option Schema}
    (same : response.map (Schema.arranged true) = response'.map (Schema.arranged true))
    (walk : ∀ s ∈ response, ∀ s' ∈ response', task.document.SameWalk s s')
    (draft : ResourceDraft) :
    Alike Eq (gatherAnswer task scope draft response)
      (gatherAnswer task' scope draft response') := by
  obtain ⟨rfl, rfl⟩ | ⟨s, s', rfl, rfl, alike⟩ := cases_of_map_eq same
  · exact .pure rfl
  · exact gatherResponse_alike like scope alike (walk s rfl s' rfl) draft

omit scope in
theorem gatherRequiredInput_alike (token : String) {s s' : Schema} (same : s.Like s')
    (draft : ResourceDraft) (wire : String) :
    Alike Eq (gatherRequiredInput task token s draft wire)
      (gatherRequiredInput task' token s' draft wire) := by
  unfold gatherRequiredInput
  obtain ⟨left, right⟩ | ⟨part, part', left, right, samePart⟩ := cases_of_map_eq (same.lookup wire)
  · rw [left, right]
    exact .pure rfl
  · rw [left, right]
    apply (find_alike like samePart).bind
    intro found found' alike
    apply Alike.ite alike.schema.readOnly (.pure rfl)
    exact .refl _

theorem gatherPart_alike (stripRequired : Bool) (draft : ResourceDraft)
    {part part' : SchemaOrRef} (same : PartsLike part part') :
    Alike Eq (gatherPart task scope stripRequired draft part)
      (gatherPart task' scope stripRequired draft part') := by
  unfold gatherPart
  apply (find_alike like same).bind
  intro found found' alike
  apply Alike.ite (congrArg _ alike.schema.isObjectLike) (.pure rfl)
  apply (propertyType_alike like scope _ found found' alike).bind_same
  intro resolved
  exact .refl _

end

end Infer

/-! ### Bodies -/

/-- The bodies are alike. -/
structure ResourceBodies.Like (bodies bodies' : ResourceBodies) : Prop where
  request : bodies.request.Like bodies'.request
  response : bodies.response.map (Schema.arranged true) =
    bodies'.response.map (Schema.arranged true)
  stripRequired : bodies.stripRequired = bodies'.stripRequired

/-- The bodies list their properties in the same order, up to that of free neighbours. -/
structure Document.SameWalks (d : Document) (bodies bodies' : ResourceBodies) : Prop where
  request : d.SameWalk bodies.request bodies'.request
  response : ∀ s ∈ bodies.response, ∀ s' ∈ bodies'.response, d.SameWalk s s'

namespace Infer

variable {task task' : InferenceTask} (like : task.Like task') (scope : Scope)

include like

theorem gatherDraft_alike (token : String) {bodies bodies' : ResourceBodies}
    (same : bodies.Like bodies') (walks : task.document.SameWalks bodies bodies') :
    Alike Eq (gatherDraft task scope token bodies) (gatherDraft task' scope token bodies') := by
  have required : (bodies.response.map (·.required)).getD [] =
      (bodies'.response.map (·.required)).getD [] := by
    obtain ⟨left, right⟩ | ⟨s, s', left, right, alike⟩ := cases_of_map_eq same.response
    · rw [left, right]
    · rw [left, right]
      exact Schema.Like.required alike
  unfold gatherDraft
  apply (gatherRequestProperties_alike like scope walks.request {}).bind_same
  intro draft
  apply (gatherAnswer_alike like scope same.response walks.response draft).bind_same
  intro draft
  dsimp only
  rw [same.request.required, required, same.stripRequired]
  have input : ∀ draft wire wire', id wire = id wire' →
      Alike Eq (gatherRequiredInput task token bodies.request draft wire)
        (gatherRequiredInput task' token bodies'.request draft wire') := by
    rintro draft wire _ rfl
    exact gatherRequiredInput_alike like token same.request draft wire
  apply (Alike.foldlM id input rfl draft).bind_same
  intro draft
  apply (Alike.refl _).bind_same
  intro draft
  exact .foldlM _ (fun draft _ _ => gatherPart_alike like scope bodies'.stripRequired draft)
    same.request.allOf draft

/-- Bodies that are alike and list their properties in the same order, up to that of free
neighbours, make the same resource. -/
theorem gatherResource_alike {bodies bodies' : ResourceBodies} (same : bodies.Like bodies')
    (walks : task.document.SameWalks bodies bodies') (path : String) :
    Alike Eq (gatherResource task scope bodies path)
      (gatherResource task' scope bodies' path) := by
  unfold gatherResource
  rw [token_like like, same.request.description]
  apply (gatherDraft_alike like scope _ same walks).bind_same
  intro draft
  exact .refl _

end Infer

end ResourceInference
