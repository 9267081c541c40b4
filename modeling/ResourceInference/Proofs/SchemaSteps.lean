import ResourceInference.Proofs.Invariant

/-!
# Types of schemas under an invariant

Every function that gives a schema its type respects an invariant, if the function for the schemas
inside does so on the schemas it is called with (`Calls`) and if a search for an enum fails as the
invariant allows (`Invariant.Serves`). For a component with members this is left to the caller
(`Invariant.typeOf_leads`).
-/

set_option autoImplicit false

namespace ResourceInference

/-! ## Schemas inside a schema -/

/-- The schema of undeclared properties, if they have one. -/
def Schema.valueSchemas (s : Schema) : List SchemaOrRef :=
  match s.additionalProperties with
  | some (.schema values) => [values]
  | _ => []

/-- The schemas right inside a schema, apart from those of its properties. -/
def Schema.parts (s : Schema) : List SchemaOrRef :=
  s.valueSchemas ++ s.items.toList ++ s.allOf ++ s.oneOf ++ s.anyOf

/-- Giving a schema its type asks for the type of another schema: of a part, of a property, or of
the values of a property that is a map. -/
inductive Calls (d : Document) (schema : Schema) : Lookup.Found → Prop where
  | part {part : SchemaOrRef} {found : Lookup.Found} (member : part ∈ schema.parts)
      (located : Lookup.schema d part = .ok found) : Calls d schema found
  | property {wire : String} {part : SchemaOrRef} {found : Lookup.Found}
      (member : (wire, part) ∈ schema.properties) (located : Lookup.schema d part = .ok found)
      (noMap : found.schema.mapValues? = none) : Calls d schema found
  | values {wire : String} {part values : SchemaOrRef} {holder found : Lookup.Found}
      (member : (wire, part) ∈ schema.properties) (located : Lookup.schema d part = .ok holder)
      (isMap : holder.schema.mapValues? = some values)
      (valuesLocated : Lookup.schema d values = .ok found) : Calls d schema found

/-- The schema of a find with a name is that of the component of the name. -/
def Lookup.Found.LiesIn (found : Lookup.Found) (d : Document) : Prop :=
  ∀ component, found.name = some component → Lookup.component d component = .ok found.schema

theorem Lookup.schema_liesIn {d : Document} {part : SchemaOrRef} {found : Lookup.Found}
    (located : Lookup.schema d part = .ok found) : found.LiesIn d := by
  intro component named
  cases part with
  | item schema =>
      cases located
      cases named
  | ref path =>
      simp only [Lookup.schema, bind, Except.bind] at located
      split at located
      · cases located
      · split at located
        · cases located
        · rename_i resolved
          cases located
          cases named
          exact resolved

theorem Lookup.schemaByName_liesIn {d : Document} {reference : String} {found : Lookup.Found}
    (located : Lookup.schemaByName d reference = .ok found) : found.LiesIn d := by
  intro component named
  simp only [Lookup.schemaByName, bind, Except.bind] at located
  split at located
  · cases located
  · rename_i resolved
    cases located
    cases named
    exact resolved

theorem Calls.liesIn {d : Document} {schema : Schema} {found : Lookup.Found}
    (h : Calls d schema found) : found.LiesIn d := by
  cases h with
  | part _ located => exact Lookup.schema_liesIn located
  | property _ located _ => exact Lookup.schema_liesIn located
  | values _ _ _ located => exact Lookup.schema_liesIn located

/-! ## Components with members -/

/-- Whether a component of this schema has members and is entered: it is neither an array nor an
enum, and has properties or an `allOf`. -/
def Schema.isComposite (s : Schema) : Bool :=
  !s.hasType .array && s.enum.isEmpty && !(s.properties.isEmpty && s.allOf.isEmpty)

theorem Infer.typeOf_eq_enterComponent {task : InferenceTask} {resolve : Resolver} {scope : Scope}
    {parent component : String} {found : Lookup.Found} (named : found.name = some component)
    (composite : found.schema.isComposite = true) :
    typeOf task resolve scope parent found =
      enterComponent task resolve scope component found.schema := by
  simp only [Schema.isComposite, Bool.and_eq_true, Bool.not_eq_true'] at composite
  obtain ⟨⟨noArray, noEnum⟩, members⟩ := composite
  simp [typeOf, componentType, named, noArray, noEnum, members]

/-! ## Parts and properties -/

theorem Schema.mem_parts_of_allOf {s : Schema} {part : SchemaOrRef} (h : part ∈ s.allOf) :
    part ∈ s.parts := by
  simp [parts, h]

theorem Schema.mem_parts_of_oneOf {s : Schema} {part : SchemaOrRef} (h : part ∈ s.oneOf) :
    part ∈ s.parts := by
  simp [parts, h]

theorem Schema.mem_parts_of_anyOf {s : Schema} {part : SchemaOrRef} (h : part ∈ s.anyOf) :
    part ∈ s.parts := by
  simp [parts, h]

theorem Schema.mem_parts_of_items {s : Schema} {part : SchemaOrRef} (h : s.items = some part) :
    part ∈ s.parts := by
  simp [parts, h]

theorem Schema.mem_parts_of_additionalProperties {s : Schema} {part : SchemaOrRef}
    (h : s.additionalProperties = some (.schema part)) : part ∈ s.parts := by
  simp [parts, valueSchemas, h]

theorem SortedMap.exists_mem_ofList {α : Type} {entries : List (String × α)} {key : String}
    {value : α} (member : (key, value) ∈ entries) :
    ∃ last, (key, last) ∈ (ofList entries).toList := by
  obtain ⟨last, listed⟩ := (contains_iff ..).1 ((contains_ofList ..).2 ⟨value, member⟩)
  exact ⟨last, (mem_toList_iff ..).2 listed⟩

theorem SortedMap.mem_of_mem_ofList {α : Type} {entries : List (String × α)}
    {entry : String × α} (h : entry ∈ (SortedMap.ofList entries).toList) : entry ∈ entries := by
  suffices grown : ∀ m : SortedMap α,
      entry ∈ (entries.foldl (fun m entry => m.insert entry.1 entry.2) m).toList →
        entry ∈ entries ∨ entry ∈ m.toList by
    rcases grown SortedMap.empty h with member | member
    · exact member
    · cases member
  clear h
  induction entries with
  | nil => exact fun m member => .inr member
  | cons first rest ih =>
      intro m member
      rcases ih _ member with member | member
      · exact .inl (List.mem_cons_of_mem _ member)
      · rcases mem_insertEntry member with rfl | member
        · exact .inl List.mem_cons_self
        · exact .inr member

namespace Invariant

variable (I : Invariant) (task : InferenceTask) (resolve : Resolver) (scope : Scope)

/-- The function for the schemas inside respects the invariant where a schema calls it, and so does
the search for enums. -/
structure Serves (schema : Schema) : Prop where
  resolves : ∀ {found}, Calls task.document schema found → ∀ parent s, I.holds s →
    I.Leads (resolve scope parent found) s fun resolved s' => I.Fits s' resolved
  searches : ∀ name s, I.holds s →
    Infer.Ends (Infer.enumType task scope name schema) s (fun _ _ => True) I.fails

variable {I task resolve scope} {schema : Schema} {parent : String} {s : Session}

theorem Serves.of_mayFail (mayFail : ∀ e s, I.fails e s)
    (resolves : ∀ {found}, Calls task.document schema found → ∀ parent s, I.holds s →
      I.Leads (resolve scope parent found) s fun resolved s' => I.Fits s' resolved) :
    I.Serves task resolve scope schema where
  resolves := resolves
  searches name s _ :=
    (Infer.enumType_ends task scope name schema s).mono (fun _ _ _ => trivial)
      fun e s' _ => mayFail e s'

/-! ## Members -/

section

variable (serves : I.Serves task resolve scope schema)

include serves

theorem mergePart_leads {part : SchemaOrRef} (member : part ∈ schema.allOf) {members : Members}
    (h : I.holds s) (covers : I.Covers s (PropertyMap.tokens members.properties)) :
    I.Leads (Infer.mergePart task resolve scope parent members part) s fun members s' =>
      I.Covers s' (PropertyMap.tokens members.properties) := by
  unfold Infer.mergePart
  refine (Leads.find h).bind fun found s₁ h₁ later₁ located => ?_
  split
  · exact .pure h₁ (covers.later later₁)
  · have called := Calls.part (Schema.mem_parts_of_allOf member) located
    refine (serves.resolves called parent s₁ h₁).bind fun resolved s₂ h₂ later₂ _ => ?_
    refine (takeObject_leads h₂).bind fun object s₃ h₃ later₃ taken => ?_
    have kept := covers.later (I.trans later₁ (I.trans later₂ later₃))
    cases object with
    | none => exact .pure h₃ kept
    | some object => exact .pure h₃ (kept.union (taken object rfl))

theorem mergedMembers_leads (h : I.holds s) :
    I.Leads (Infer.mergedMembers task resolve scope parent schema.allOf) s fun members s' =>
      I.Covers s' (PropertyMap.tokens members.properties) :=
  .foldlM (fun _ member _ _ h covers => mergePart_leads serves member h covers) h .empty

theorem propertyTypeOf_leads {wire mapName typeName : String} {part : SchemaOrRef}
    (member : (wire, part) ∈ schema.properties) {found : Lookup.Found}
    (located : Lookup.schema task.document part = .ok found) (h : I.holds s) :
    I.Leads (Infer.propertyTypeOf task resolve scope mapName typeName found) s fun type s' =>
      I.Covers s' type.tokens := by
  unfold Infer.propertyTypeOf
  split
  · rename_i values isMap
    refine (Leads.find h).bind fun _ s₁ h₁ _ valuesLocated => ?_
    refine (serves.resolves (.values member located isMap valuesLocated) mapName s₁ h₁).bind
      fun resolved s₂ h₂ _ fits => ?_
    exact .pure h₂ fits.covers
  · rename_i noMap
    refine (serves.resolves (.property member located noMap) typeName s h).bind
      fun resolved s₁ h₁ _ fits => ?_
    exact .pure h₁ fits.covers

theorem addProperty_leads {properties : PropertyMap} {entry : String × SchemaOrRef}
    (member : entry ∈ schema.properties) (h : I.holds s)
    (covers : I.Covers s (PropertyMap.tokens properties)) :
    I.Leads (Infer.addProperty task resolve scope parent properties entry) s fun grown s' =>
      I.Covers s' (PropertyMap.tokens grown) ∧
        ∃ property, grown = properties.insert (Naming.sdkName entry.1) property := by
  obtain ⟨wire, part⟩ := entry
  unfold Infer.addProperty
  refine (Leads.find h).bind fun found s₁ h₁ later₁ located => ?_
  refine (Leads.of_writesTables (Infer.recordName_writesTables ..) h₁).bind
    fun _ s₂ h₂ later₂ _ => ?_
  refine (propertyTypeOf_leads serves member located h₂).bind fun type s₃ h₃ later₃ typed => ?_
  have kept := covers.later (I.trans later₁ (I.trans later₂ later₃))
  exact .pure h₃ ⟨kept.insert _ typed, _, rfl⟩

theorem objectMembers_leads (h : I.holds s) :
    I.Leads (Infer.objectMembers task resolve scope parent schema) s fun members s' =>
      I.Covers s' (PropertyMap.tokens members.properties) := by
  unfold Infer.objectMembers
  have declared : I.Leads ((SortedMap.ofList schema.properties).toList.foldlM
      (Infer.addProperty task resolve scope parent) ∅) s fun properties s' =>
        I.Covers s' (PropertyMap.tokens properties) := by
    refine .foldlM (fun entry member properties s h covers => ?_) h .empty
    exact (addProperty_leads serves (SortedMap.mem_of_mem_ofList member) h covers).imp
      fun _ _ _ added => added.1
  refine declared.bind fun properties s₁ h₁ _ covers => ?_
  refine (mergedMembers_leads serves h₁).bind fun merged s₂ h₂ later₂ mergedCovers => ?_
  have both : I.Covers s₂ (PropertyMap.tokens (properties.union merged.properties)) :=
    (covers.later later₂).union mergedCovers
  refine (Leads.of_writesTables (.foldlM (Infer.addRequired_writesTables _) _ _) h₂).bind
    fun required s₃ h₃ later₃ _ => ?_
  refine (Leads.forming h₃).bind fun _ s₄ h₄ later₄ _ => ?_
  exact .pure h₄ (both.later (I.trans later₃ later₄))

theorem objectType_leads (h : I.holds s) :
    I.Leads (Infer.objectType task resolve scope parent schema) s fun type s' =>
      I.Covers s' type.tokens :=
  (objectMembers_leads serves h).bind fun _ _ h₁ _ covers => .pure h₁ covers

/-! ## Unions and scalars -/

theorem variantTypes_leads {parts : List SchemaOrRef} (inside : ∀ part ∈ parts, part ∈ schema.parts)
    (h : I.holds s) :
    I.Leads (Infer.variantTypes task resolve scope parent parts) s fun variants s' =>
      I.Covers s' (TypeSpec.tokensOfList variants) := by
  have each : I.Leads (Infer.variantTypes task resolve scope parent parts) s fun variants s' =>
      ∀ variant ∈ variants, I.Covers s' variant.tokens := by
    refine .mapM (fun _ _ _ later covers => covers.later later) (fun part member s h => ?_) h
    refine (Leads.find h).bind fun found s₁ h₁ _ located => ?_
    refine (serves.resolves (.part (inside part member) located) parent s₁ h₁).bind
      fun resolved s₂ h₂ _ fits => ?_
    exact .pure h₂ fits.covers
  refine each.imp fun variants s' _ all token member => ?_
  obtain ⟨variant, inVariants, mentioned⟩ := TypeSpec.mem_tokensOfList.1 member
  exact all variant inVariants token mentioned

theorem unionType_leads (h : I.holds s) :
    I.Leads (Infer.unionType task resolve scope parent schema) s fun resolved s' =>
      I.Fits s' resolved := by
  unfold Infer.unionType
  refine (variantTypes_leads serves (fun _ => Schema.mem_parts_of_oneOf) h).bind
    fun variants s₁ h₁ _ covers => ?_
  exact .pure h₁ (.of_unnamed rfl fun token member => covers token (Union.mem_tokens_union member))

theorem mapType_leads (h : I.holds s) :
    I.Leads (Infer.mapType task resolve scope parent schema) s fun type s' =>
      I.Covers s' type.tokens ∧ type.token? = none := by
  unfold Infer.mapType
  split
  · rename_i values isMap
    refine (Leads.find h).bind fun found s₁ h₁ _ located => ?_
    have called := Calls.part (Schema.mem_parts_of_additionalProperties isMap) located
    refine (serves.resolves called parent s₁ h₁).bind fun resolved s₂ h₂ _ fits => ?_
    exact .pure h₂ ⟨fits.covers, rfl⟩
  · exact .pure h ⟨by simp [Covers, TypeSpec.tokens], rfl⟩

theorem arrayType_leads (h : I.holds s) :
    I.Leads (Infer.arrayType task resolve scope parent schema) s fun type s' =>
      I.Covers s' type.tokens ∧ type.token? = none := by
  unfold Infer.arrayType
  split
  · rename_i items isItems
    refine (Leads.find h).bind fun found s₁ h₁ _ located => ?_
    have called := Calls.part (Schema.mem_parts_of_items isItems) located
    refine (serves.resolves called (parent ++ "Item") s₁ h₁).bind
      fun resolved s₂ h₂ _ fits => ?_
    exact .pure h₂ ⟨fits.covers, rfl⟩
  · exact .pure h ⟨by simp [Covers, TypeSpec.tokens], rfl⟩

theorem declaredType_leads (type : SchemaType) (h : I.holds s) :
    I.Leads (Infer.declaredType task resolve scope parent schema type) s fun type s' =>
      I.Covers s' type.tokens ∧ type.token? = none := by
  cases type with
  | object => exact mapType_leads serves h
  | array => exact arrayType_leads serves h
  | null => exact .throw h id
  | integer | string | boolean | number => exact .pure h ⟨by simp [Covers, TypeSpec.tokens], rfl⟩

theorem unnamedType_leads (h : I.holds s) :
    I.Leads (Infer.unnamedType task resolve scope parent schema) s fun resolved s' =>
      I.Fits s' resolved := by
  unfold Infer.unnamedType
  split
  · rename_i first second rest alternatives
    have inside : ∀ part ∈ first :: second :: rest, part ∈ schema.parts :=
      fun part member => Schema.mem_parts_of_anyOf (alternatives ▸ member)
    refine (variantTypes_leads serves inside h).bind fun variants s₁ h₁ _ covers => ?_
    refine .pure h₁ (.of_unnamed rfl fun token member => covers token ?_)
    simpa [TypeSpec.tokens] using member
  · refine (declaredType_leads serves _ h).bind fun type s₁ h₁ _ typed => ?_
    exact .pure h₁ (.of_unnamed typed.2 typed.1)
  · rename_i only alternatives _
    refine (Leads.find h).bind fun found s₁ h₁ _ located => ?_
    have member : only ∈ schema.parts := Schema.mem_parts_of_anyOf (by simp [alternatives])
    exact serves.resolves (.part member located) parent s₁ h₁
  · exact .throw h id

/-! ## Enums -/

theorem enumOrNone_leads (h : I.holds s) :
    I.Leads (Infer.enumOrNone task scope parent schema) s fun found s' =>
      ∀ resolved, found = some resolved → I.Fits s' resolved := by
  unfold Infer.enumOrNone
  split
  · exact .pure h (by simp)
  · refine ⟨Infer.ends_tryCatch.2 ?_⟩
    refine ((Infer.enumType_ends task scope parent schema s).and (serves.searches parent s h)).mono
      (fun found s' ends => ?_) fun e s' ends => ?_
    · rcases ends.1 with ⟨rfl, rfl⟩ | ⟨resolved, rfl, ⟨token, enum, registered⟩ | taken⟩
      · exact ⟨h, I.refl _, by simp⟩
      · obtain ⟨holds, later, fits⟩ := I.puts h (by simp [Covers, NamedType.tokens]) registered
        exact ⟨holds, later, by rintro _ ⟨⟩; exact fits⟩
      · obtain ⟨token, enum, registered, rfl, rfl⟩ := taken
        exact ⟨h, I.refl _, by rintro _ ⟨⟩; exact .of_registered h registered⟩
    · obtain ⟨rfl, failed⟩ := ends
      split
      · exact ⟨h, I.refl _, by simp⟩
      · exact failed

/-! ## Schemas -/

theorem inlineType_leads (h : I.holds s) :
    I.Leads (Infer.inlineType task resolve scope parent schema) s fun resolved s' =>
      I.Fits s' resolved := by
  unfold Infer.inlineType
  split
  · refine (objectType_leads serves h).bind fun type s₁ h₁ _ covers => ?_
    exact registerGenerated_leads h₁ covers
  · split
    · exact unionType_leads serves h
    · split
      · refine (mergedMembers_leads serves h).bind fun members s₁ h₁ _ covers => ?_
        exact registerGenerated_leads h₁ covers
      · refine (enumOrNone_leads serves h).bind fun found s₁ h₁ _ fits => ?_
        cases found with
        | none => exact unnamedType_leads serves h₁
        | some resolved => exact .pure h₁ (fits resolved rfl)

end

/-! ## Entering a component -/

/-- Entering a component under an invariant of its construction: a reference to a marked component
is answered; otherwise the object type is made, put under the token, and the component is left. -/
theorem enterComponent_ends {component token : String} {post : Resolved → Session → Prop}
    {fail : InferenceError → Session → Prop} {typed : NamedType → Session → Prop}
    (named : task.token scope.module (Naming.pascalCase component) = token)
    (answers : s.visited.contains token = true →
      post ⟨.named token, false⟩ (s.noted (.referred component token)))
    (makes : s.visited.contains token ≠ true → I.Leads
      (Infer.objectType task resolve scope (Naming.pascalCase component) schema)
      ((s.noted (.referred component token)).entering token) typed)
    (covers : ∀ type s', typed type s' → I.Covers s' type.tokens)
    (leaves : ∀ {type s₁ resolved s₂},
      I.later ((s.noted (.referred component token)).entering token) s₁ → typed type s₁ →
        s₁.Puts type token resolved s₂ → I.holds s₂ → I.later s₁ s₂ → I.Fits s₂ resolved →
          post resolved (s₂.noted (.left token)))
    (fails : ∀ e s', I.fails e s' → fail e s') :
    Infer.Ends (Infer.enterComponent task resolve scope component schema) s post fail := by
  refine (Infer.ends_enterComponent named).2 ?_
  split
  · rename_i visited
    exact answers visited
  · rename_i unmarked
    rw [Infer.ends_buildComponent named]
    refine (makes unmarked).ends.mono (fun type s₁ ⟨holds₁, later₁, made⟩ => ?_) fails
    refine (Infer.registerComponent_ends token type s₁).mono (fun resolved s₂ registers => ?_) ?_
    · obtain ⟨holds₂, later₂, fits⟩ := I.puts holds₁ (covers type s₁ made) registers
      exact leaves later₁ made registers holds₂ later₂ fits
    · rintro e s₂ ⟨rfl, rfl⟩
      exact fails _ _ (I.stops holds₁ id)

/-- The type of a schema, whose component is entered as the invariant allows. -/
theorem typeOf_leads {found : Lookup.Found} (serves : I.Serves task resolve scope found.schema)
    (enters : ∀ component, found.name = some component →
      I.Leads (Infer.enterComponent task resolve scope component found.schema) s
        fun resolved s' => I.Fits s' resolved)
    (h : I.holds s) :
    I.Leads (Infer.typeOf task resolve scope parent found) s fun resolved s' =>
      I.Fits s' resolved := by
  unfold Infer.typeOf Infer.componentType
  split
  · rename_i component named
    split
    · exact inlineType_leads serves h
    · dsimp only
      split
      · split
        · exact unionType_leads serves h
        · split
          · exact unnamedType_leads serves h
          · exact enters component named
      · exact enters component named
  · exact inlineType_leads serves h

end Invariant

end ResourceInference
