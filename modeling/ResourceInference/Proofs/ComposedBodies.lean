import ResourceInference.Proofs.Drafts

/-!
# Composed bodies

The request that a resource is made of may have parts. What the request declares itself is gathered
with what its schemas say: a property that is read-only cannot be set, and a required one must be.
Of a part only the object type is taken that is registered for it, and nothing of `readOnly` is left
in that; and the names that the request requires are looked up among its own properties, before any
part is taken. So both rules stop at the parts.

A property that is read-only wherever it is declared can be set if a part brings it in, and a part
in place always does (`Infer.readOnly_settable_iff`, `readOnlyPart_settable`). A name that the
request requires and a part brings in need not be set, unless the part requires it too
(`Infer.requirement_kept_iff`, `requiredOfPart_lost`); when the same schema is the type of a
property, every name that it requires is required (`Infer.objectMembers_requires`).

Without parts both rules hold, and they hold of what no part brings in (`readOnlyOwn_hidden`) and of
what a part requires as well (`requiredOfBoth_kept`).
-/

set_option autoImplicit false

namespace ResourceInference

/-! ## What a request declares -/

/-- The schema declares a property by some part of the document, itself or through its `allOf`. -/
inductive Schema.DeclaresAs (d : Document) : Schema → String → SchemaOrRef → Prop where
  | own {s : Schema} {wire : String} {part : SchemaOrRef} (property : (wire, part) ∈ s.properties) :
      DeclaresAs d s wire part
  | inherited {s : Schema} {member part : SchemaOrRef} {found : Lookup.Found} {wire : String}
      (isMember : member ∈ s.allOf) (located : Lookup.schema d member = .ok found)
      (declares : DeclaresAs d found.schema wire part) : DeclaresAs d s wire part

/-- Wherever the schema declares the property, it is read-only. -/
def Schema.ReadOnly (d : Document) (s : Schema) (wire : String) : Prop :=
  ∀ part, s.DeclaresAs d wire part → ¬ part.Settable d

theorem Schema.ReadOnly.of_parts {d : Document} {s : Schema} {wire : String}
    (own : ∀ part, (wire, part) ∈ s.properties → ¬ part.Settable d)
    (parts : ∀ member ∈ s.allOf, ∀ found, Lookup.schema d member = .ok found →
      found.schema.ReadOnly d wire) : s.ReadOnly d wire := by
  intro part declares
  cases declares with
  | own property => exact own part property
  | inherited isMember located declares => exact parts _ isMember _ located part declares

@[simp]
theorem RefOr.settable_item {d : Document} {schema : Schema} :
    (RefOr.item schema).Settable d ↔ schema.readOnly = false := by
  constructor
  · rintro ⟨found, located, settable⟩
    cases located
    exact settable
  · intro settable
    exact ⟨⟨none, schema⟩, rfl, settable⟩

namespace Infer

variable {task : InferenceTask} {scope : Scope} {s : Session}

/-! ## Members of an object -/

section

variable {resolve : Resolver} {parent : String}

/-- An object has all properties that its schema declares itself. -/
theorem objectMembers_declares {schema : Schema} :
    Ends (objectMembers task resolve scope parent schema) s
      (fun members _ => ∀ entry ∈ schema.properties,
        members.properties.contains (Naming.sdkName entry.1) = true) fun _ _ => True := by
  unfold objectMembers
  dsimp only
  refine ends_bind.2 ((foldlM_inserts addProperty_inserts _ ∅ s).imp fun properties s₁ keys => ?_)
  refine .after fun merged s₂ => .after fun required s₃ => .after fun _ s₄ => ends_pure.2 ?_
  rintro ⟨wire, part⟩ member
  obtain ⟨last, listed⟩ := SortedMap.exists_mem_ofList member
  exact (SortedMap.contains_union ..).2 (.inr ((keys _).2 (.inl ⟨_, listed, rfl⟩)))

/-- A name is added if it has a property, and no name is taken away. -/
theorem addRequired_adds {properties : PropertyMap} {required : SortedSet} {wire : String} :
    Upholds (fun _ => True) (addRequired properties required wire) fun grown =>
      (properties.contains (Naming.sdkName wire) = true →
        grown.contains (Naming.sdkName wire) = true) ∧
      ∀ name, required.contains name = true → grown.contains name = true := by
  unfold addRequired
  dsimp only
  split
  · refine Upholds.any.bind fun _ _ => .pure ⟨fun _ => ?_, fun name before => ?_⟩
    · exact (SortedMap.contains_insert ..).2 (.inl rfl)
    · exact (SortedMap.contains_insert ..).2 (.inr before)
  · rename_i missing
    exact .pure ⟨fun present => absurd present missing, fun _ => id⟩

/-- Of an object, every name that its schema requires is required, if it has a property. -/
theorem objectMembers_requires {schema : Schema} :
    Upholds (fun _ => True) (objectMembers task resolve scope parent schema) fun members =>
      ∀ wire ∈ schema.required, members.properties.contains (Naming.sdkName wire) = true →
        members.required.contains (Naming.sdkName wire) = true := by
  unfold objectMembers
  dsimp only
  refine Upholds.any.bind fun properties _ => Upholds.any.bind fun merged _ => ?_
  generalize Members.extend ⟨properties, ∅⟩ merged = members
  have each : ∀ wire ∈ schema.required, ∀ required : SortedSet, True →
      Upholds (fun _ => True) (addRequired members.properties required wire) fun grown => True ∧
        (members.properties.contains (Naming.sdkName wire) = true →
          grown.contains (Naming.sdkName wire) = true) ∧
        ∀ other, (members.properties.contains (Naming.sdkName other) = true →
            required.contains (Naming.sdkName other) = true) →
          members.properties.contains (Naming.sdkName other) = true →
            grown.contains (Naming.sdkName other) = true := by
    intro wire _ required _
    refine addRequired_adds.imp fun grown ⟨added, kept⟩ => ⟨trivial, added, ?_⟩
    exact fun other before present => kept _ (before present)
  refine (Upholds.foldlM_forall each trivial).bind fun required ⟨_, all, _⟩ => ?_
  exact Upholds.any.bind fun _ _ => .pure all

end

/-! ## Parts in place -/

/-- If the part stands in place and has properties, what is taken for it is an object with these
properties. -/
def BringsIn (part : SchemaOrRef) (taken : Option ObjectType) : Prop :=
  ∀ schema, part = .item schema → ∀ entry ∈ schema.properties, ∃ object, taken = some object ∧
    object.properties.contains (Naming.sdkName entry.1) = true

theorem takePart_bringsIn {part : SchemaOrRef} :
    Upholds (fun _ => True) (takePart task scope part) (BringsIn part) := by
  by_cases composite : ∃ schema, part = .item schema ∧ schema.properties.isEmpty = false
  · obtain ⟨schema, rfl, composite⟩ := composite
    have objectLike : schema.isObjectLike = true := by simp [Schema.isObjectLike, composite]
    have located : Lookup.schema task.document (.item schema) = .ok ⟨none, schema⟩ := rfl
    refine ⟨fun s _ => ?_⟩
    unfold takePart
    refine ends_bind.2 ((ends_find_of_ok located).2 ?_)
    simp only [objectLike, Bool.not_true, Bool.false_eq_true, if_false, propertyType, depthBound,
      resolver, typeOf, inlineType, composite, Bool.not_false, if_true, objectType, bind_assoc,
      pure_bind]
    refine ends_bind.2 (objectMembers_declares.imp fun members s₁ declared => ?_)
    refine ends_bind.2 ((registerGenerated_ends ..).mono ?_ fun _ _ _ => trivial)
    rintro resolved s₂ ⟨token, puts⟩
    obtain ⟨registered, there, keys⟩ := puts.keeps
    refine ends_takeObject.2 ?_
    rw [puts.type_eq]
    refine ⟨trivial, fun same isSame entry member => ?_⟩
    cases isSame
    exact ⟨registered, by rw [there]; rfl, (keys _).2 (declared entry member)⟩
  · refine Upholds.any.imp fun taken _ schema same entry member => ?_
    refine absurd ⟨schema, same, ?_⟩ composite
    simpa using List.ne_nil_of_mem member

/-- Of the parts in place, every property is taken. -/
theorem takenParts_inPlace {token : String} {bodies : ResourceBodies} :
    Upholds (fun _ => True) (takenParts task scope token bodies) fun taken =>
      ∀ schema, .item schema ∈ bodies.request.allOf → ∀ entry ∈ schema.properties,
        ∃ object, some object ∈ taken ∧
          object.properties.contains (Naming.sdkName entry.1) = true := by
  have each : Upholds (fun _ => True) (bodies.request.allOf.mapM (takePart task scope))
      fun taken => ∀ part ∈ bodies.request.allOf, ∃ object ∈ taken, BringsIn part object :=
    Upholds.mapM_forall fun _ _ => takePart_bringsIn
  refine Upholds.any.bind fun _ _ => each.imp fun taken all schema member entry property => ?_
  obtain ⟨_, isTaken, makes⟩ := all _ member
  obtain ⟨object, rfl, contains⟩ := makes schema rfl entry property
  exact ⟨object, isTaken, contains⟩

/-! ## Resources -/

section

variable {bodies : ResourceBodies} {path token : String} {s' : Session}

/-- The resource that is put under the token is made of the bodies, and of the objects that are
taken for the parts. -/
theorem gatherResource_takes :
    Ends (gatherResource task scope bodies path) s (fun token s' =>
      ∃ (draft : ResourceDraft) (taken : List (Option ObjectType)) (s₁ : Session),
        s'.package.resources.get? token = some (draft.toResource bodies.request.description) ∧
        (takenParts task scope token bodies).run.run s = (.ok taken, s₁) ∧
        draft.MadeOf task.document bodies taken) fun _ _ => True := by
  refine ends_bind.2 (gatherDraft_takes.imp fun draft s₁ ⟨taken, took, made⟩ => ?_)
  refine .after fun _ s₂ => ?_
  exact ⟨draft, taken, s₁, (s₂.get?_withResource ..).trans (if_pos rfl), took, made⟩

/-- Where every declaration of a property is read-only, it can be set exactly if another property of
the request has its SDK name and is not read-only, or an object that is taken for a part has it; and
it must be set exactly if such another property is demanded, or such an object requires it. Every
property of a part in place can be set. -/
theorem readOnly_settable_iff
    (h : (gatherResource task scope bodies path).run.run s = (.ok token, s')) :
    ∃ r taken s₁, s'.package.resources.get? token = some r ∧
      (takenParts task scope token bodies).run.run s = (.ok taken, s₁) ∧
      (∀ wire, bodies.request.ReadOnly task.document wire →
        (r.inputProperties.contains (Naming.sdkName wire) = true ↔
          Naming.sdkName wire ≠ idProperty ∧
            ((∃ entry ∈ bodies.request.properties, entry.1 ≠ wire ∧
                Naming.sdkName entry.1 = Naming.sdkName wire ∧ entry.2.Settable task.document) ∨
              ∃ object, some object ∈ taken ∧
                object.properties.contains (Naming.sdkName wire) = true)) ∧
        (Naming.sdkName wire ∈ r.requiredInputs ↔ Naming.sdkName wire ≠ idProperty ∧
          ((∃ other, bodies.request.Demands task.document other ∧ other ≠ wire ∧
              other ≠ autoNameProperty ∧ Naming.sdkName other = Naming.sdkName wire) ∨
            bodies.stripRequired = false ∧
              ∃ object, some object ∈ taken ∧ Naming.sdkName wire ∈ object.required))) ∧
      ∀ part, .item part ∈ bodies.request.allOf → ∀ entry ∈ part.properties,
        Naming.sdkName entry.1 ≠ idProperty →
          r.inputProperties.contains (Naming.sdkName entry.1) = true := by
  obtain ⟨draft, taken, s₁, present, took, made⟩ := gatherResource_takes.of_run h
  refine ⟨_, taken, s₁, present, took, fun wire readOnly => ⟨?_, ?_⟩, ?_⟩
  · have others : ∀ entry ∈ bodies.request.properties, entry.2.Settable task.document →
        entry.1 ≠ wire := by
      rintro ⟨_, part⟩ property settable rfl
      exact readOnly part (.own property) settable
    refine (made.inputs _).trans (and_congr_right' (or_congr_left ?_))
    constructor
    · rintro ⟨entry, property, same, settable⟩
      exact ⟨entry, property, others entry property settable, same, settable⟩
    · rintro ⟨entry, property, -, same, settable⟩
      exact ⟨entry, property, same, settable⟩
  · have others : ∀ other, bodies.request.Demands task.document other → other ≠ wire := by
      rintro _ ⟨-, part, declared, settable⟩ rfl
      exact readOnly part (.own (mem_of_lookup declared)) settable
    refine (SortedMap.mem_keys_iff ..).trans ((made.requiredInputs _).trans ?_)
    refine and_congr_right' (or_congr_left ?_)
    constructor
    · rintro ⟨other, demands, notName, same⟩
      exact ⟨other, demands, others other demands, notName, same⟩
    · rintro ⟨other, demands, -, notName, same⟩
      exact ⟨other, demands, notName, same⟩
  · intro part member entry property notId
    obtain ⟨object, isTaken, contains⟩ :=
      takenParts_inPlace.results ⟨s, s₁, took⟩ part member entry property
    exact (made.inputs _).2 ⟨notId, .inr ⟨object, isTaken, contains⟩⟩

/-- A name that the request requires, and that is neither `id` nor gets a generated name, must be
set exactly if a property of its SDK name is demanded by the request itself, or an object that is
taken for a part requires it. When the same schema is the type of a property, every name that it
requires is required of that type, wherever the property comes from. -/
theorem requirement_kept_iff
    (h : (gatherResource task scope bodies path).run.run s = (.ok token, s')) :
    ∃ r taken s₁, s'.package.resources.get? token = some r ∧
      (takenParts task scope token bodies).run.run s = (.ok taken, s₁) ∧
      (∀ wire ∈ bodies.request.required, wire ≠ autoNameProperty →
        Naming.sdkName wire ≠ idProperty → (Naming.sdkName wire ∈ r.requiredInputs ↔
          (∃ other, bodies.request.Demands task.document other ∧ other ≠ autoNameProperty ∧
            Naming.sdkName other = Naming.sdkName wire) ∨
          bodies.stripRequired = false ∧
            ∃ object, some object ∈ taken ∧ Naming.sdkName wire ∈ object.required)) ∧
      ∀ parent s₀ members s₂, (objectMembers task (propertyType task) scope parent
          bodies.request).run.run s₀ = (.ok members, s₂) → ∀ wire ∈ bodies.request.required,
        members.properties.contains (Naming.sdkName wire) = true →
          members.required.contains (Naming.sdkName wire) = true := by
  obtain ⟨draft, taken, s₁, present, took, made⟩ := gatherResource_takes.of_run h
  refine ⟨_, taken, s₁, present, took, ?_, ?_⟩
  · intro wire required notName notId
    refine (SortedMap.mem_keys_iff ..).trans ((made.requiredInputs _).trans ?_)
    exact and_iff_right notId
  · intro parent s₀ members s₂ ran
    exact objectMembers_requires.results ⟨s₀, s₂, ran⟩

end

end Infer

/-! ## Things made of parts -/

section

variable (request : Schema) (schemas : List (String × SchemaOrRef))

/-- A document under which a thing is created. -/
def createsThing : Document :=
  .having schemas [("/things", .creating "createThing" (.item request))]

/-- Make a thing of its request. -/
def gatherThing : Infer String :=
  Infer.gatherResource (createsThing request schemas).task ⟨"things", "Thing"⟩ { request } "/things"

/-- The thing that is made, with what has been checked of it. -/
theorem gatherThing_checked (good : ResourceSpec → Prop) [DecidablePred good]
    (checked : Infer.Ends (gatherThing request schemas) .first (fun token s' =>
      (s'.package.resources.get? token).any (good ·) = true) fun _ _ => False) :
    ∃ token s' r, (gatherThing request schemas).run.run .first = (.ok token, s') ∧
      s'.package.resources.get? token = some r ∧ good r := by
  obtain ⟨token, s', ran, checked⟩ := Infer.exists_run _ _ _ checked
  obtain ⟨r, present, isGood⟩ := (Option.any_eq_true ..).1 checked
  exact ⟨token, s', r, ran, present, by simpa using isGood⟩

end

/-- When a thing was created is read-only. -/
def createdText : SchemaOrRef := .item { type := some (.single .string), readOnly := true }

/-- A part that says when a thing was created, and requires that. -/
def createdPart : Schema :=
  { Schema.object [("created", createdText)] [] with required := ["created"] }

theorem createdPart_readOnly (d : Document) : createdPart.ReadOnly d "created" := by
  refine .of_parts (fun part property => ?_) fun _ isMember => absurd isMember List.not_mem_nil
  cases List.mem_singleton.1 property
  simp [createdText]

/-- The time of creation can be set, and must be, though it is read-only wherever it is declared. -/
theorem readOnlyPart_settable :
    let request : Schema := { allOf := [.item createdPart] }
    request.ReadOnly (createsThing request []) "created" ∧
      ∃ token s' r, (gatherThing request []).run.run .first = (.ok token, s') ∧
        s'.package.resources.get? token = some r ∧
        r.inputProperties.contains "created" = true ∧ "created" ∈ r.requiredInputs := by
  intro request
  constructor
  · refine .of_parts (fun _ property => absurd property List.not_mem_nil) ?_
    intro member isMember found located
    obtain rfl := List.mem_singleton.1 isMember
    cases located
    exact createdPart_readOnly _
  · exact gatherThing_checked request [] (fun r => r.inputProperties.contains "created" = true ∧
      "created" ∈ r.requiredInputs) (by decide +kernel)

/-- What the request itself declares to be read-only cannot be set, and no part brings it in. -/
theorem readOnlyOwn_hidden :
    let request : Schema := { createdPart with allOf := [.to "Base"] }
    let schemas := [("Base", .item (Schema.texts ["size"]))]
    ∃ token s' r taken s₁, (gatherThing request schemas).run.run .first = (.ok token, s') ∧
      s'.package.resources.get? token = some r ∧
      r.inputProperties.contains "created" = false ∧ r.inputProperties.contains "size" = true ∧
      (Infer.takenParts (createsThing request schemas).task ⟨"things", "Thing"⟩ token
        { request }).run.run .first = (.ok taken, s₁) ∧
      ∀ object, some object ∈ taken → object.properties.contains "created" = false := by
  intro request schemas
  have readOnly : request.ReadOnly (createsThing request schemas) "created" := by
    refine .of_parts (fun part property => createdPart_readOnly _ part (.own property)) ?_
    intro member isMember found located
    obtain rfl := List.mem_singleton.1 isMember
    cases located
    exact .of_parts (fun _ property => absurd (List.mem_singleton.1 property) (by simp))
      fun _ isMember => absurd isMember List.not_mem_nil
  obtain ⟨token, s', r, ran, present, hidden, shown⟩ := gatherThing_checked request schemas
    (fun r => r.inputProperties.contains "created" = false ∧
      r.inputProperties.contains "size" = true) (by decide +kernel)
  obtain ⟨r', taken, s₁, present', took, all, -⟩ := Infer.readOnly_settable_iff ran
  cases present.symm.trans present'
  refine ⟨token, s', r, taken, s₁, ran, present, hidden, shown, took, fun object isTaken => ?_⟩
  have same : Naming.sdkName "created" = "created" := by decide +kernel
  have settable := (all "created" readOnly).1
  rw [same, hidden] at settable
  refine Bool.eq_false_iff.2 fun brought => ?_
  cases settable.2 ⟨by decide, .inr ⟨object, isTaken, brought⟩⟩

/-- The size is required of the thing, a part brings it in, and yet it need not be set. As the type
of a property, the same schema requires it. -/
theorem requiredOfPart_lost :
    let request := { Schema.object [] [.to "Base"] with required := ["size"] }
    let schemas := [("Base", .item (Schema.texts ["size"]))]
    let task := (createsThing request schemas).task
    (∃ part, request.DeclaresAs task.document "size" part) ∧
      (∃ token s' r, (gatherThing request schemas).run.run .first = (.ok token, s') ∧
        s'.package.resources.get? token = some r ∧
        r.inputProperties.contains "size" = true ∧ "size" ∉ r.requiredInputs) ∧
      ∃ members s', (Infer.objectMembers task (Infer.propertyType task) ⟨"things", "Thing"⟩ "Thing"
        request).run.run .first = (.ok members, s') ∧ members.required.contains "size" = true := by
  intro request schemas task
  refine ⟨?_, ?_, ?_⟩
  · exact ⟨_, .inherited List.mem_cons_self rfl (.own List.mem_cons_self)⟩
  · exact gatherThing_checked request schemas (fun r => r.inputProperties.contains "size" = true ∧
      "size" ∉ r.requiredInputs) (by decide +kernel)
  · exact Infer.exists_run _ _ (fun (members : Members) _ =>
      members.required.contains "size" = true) (by decide +kernel)

/-- If the part requires the size, too, it must be set. -/
theorem requiredOfBoth_kept :
    let request := { Schema.object [] [.to "Base"] with required := ["size"] }
    let schemas := [("Base", .item { Schema.texts ["size"] with required := ["size"] })]
    ∃ token s' r taken s₁ object,
      (gatherThing request schemas).run.run .first = (.ok token, s') ∧
      s'.package.resources.get? token = some r ∧ "size" ∈ r.requiredInputs ∧
      (Infer.takenParts (createsThing request schemas).task ⟨"things", "Thing"⟩ token
        { request }).run.run .first = (.ok taken, s₁) ∧
      some object ∈ taken ∧ "size" ∈ object.required := by
  intro request schemas
  obtain ⟨token, s', r, ran, present, asked⟩ := gatherThing_checked request schemas
    (fun r => "size" ∈ r.requiredInputs) (by decide +kernel)
  obtain ⟨r', taken, s₁, present', took, all, -⟩ := Infer.requirement_kept_iff ran
  cases present.symm.trans present'
  have same : Naming.sdkName "size" = "size" := by decide +kernel
  have kept := all "size" List.mem_cons_self (by decide) (by rw [same]; decide)
  rw [same] at kept
  rcases kept.1 asked with ⟨other, demands, -, -⟩ | ⟨-, object, isTaken, requires⟩
  · obtain ⟨part, declared, -⟩ := demands.declared
    cases declared
  · exact ⟨token, s', r, taken, s₁, object, ran, present, asked, took, isTaken, requires⟩

end ResourceInference
