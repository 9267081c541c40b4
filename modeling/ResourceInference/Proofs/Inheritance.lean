import ResourceInference.Proofs.History
import ResourceInference.Proofs.Runs

/-!
# Inherited properties

The answer to a reference to a component is its token, and the journal says so
(`Infer.resolver_answers`). When the component is left, its type has what its schema declares, and
what it inherits from the components in its `allOf`, as far as their types stood when they were
merged into it. So a property that a component declares, itself or through its `allOf`, is a
property of its type in the end, unless the type was replaced, the token is shared with another
component, or a merge on the way to the property came too early (`declared_registered_iff`).

A component that is met while it is under construction is answered at once, although nothing is
registered for it yet, and a merge of it adds nothing. This happens when a base component refers to
one that is derived from it and is read first (`derived_lacks_inherited`).
-/

set_option autoImplicit false

namespace ResourceInference

/-! ## What a schema declares -/

/-- A part of an `allOf` has properties to give: a component with members, or a schema in place
that has properties, or an `allOf` and no `oneOf` beside it. -/
def Lookup.Found.IsObject (found : Lookup.Found) : Prop :=
  match found.name with
  | some _ => found.schema.isComposite = true
  | none => found.schema.properties.isEmpty = false ∨
      found.schema.oneOf.isEmpty = true ∧ found.schema.allOf.isEmpty = false

/-- A part that has properties to give is not left out by a merge. -/
theorem Lookup.Found.IsObject.not_skipped {found : Lookup.Found} (h : found.IsObject) :
    (found.name.isNone && !found.schema.isObjectLike) = false := by
  unfold IsObject at h
  split at h
  · rename_i named
    rw [named]
    rfl
  · simp only [Schema.isObjectLike]
    rcases h with properties | ⟨-, allOf⟩
    · simp [properties]
    · simp [allOf]

/-- A schema declares a property, itself or through its `allOf`. -/
inductive Schema.Declares (d : Document) : Schema → String → Prop where
  | own {s : Schema} {wire : String} {part : SchemaOrRef} (property : (wire, part) ∈ s.properties) :
      Declares d s wire
  | inherited {s : Schema} {part : SchemaOrRef} {found : Lookup.Found} {wire : String}
      (member : part ∈ s.allOf) (located : Lookup.schema d part = .ok found)
      (isObject : found.IsObject) (declares : Declares d found.schema wire) : Declares d s wire

/-! ## What a schema obtains -/

/-- The token of a component in a module. -/
def InferenceTask.componentToken (task : InferenceTask) (module component : String) : String :=
  task.token module (Naming.pascalCase component)

theorem InferenceTask.componentToken_inj {task : InferenceTask}
    {module other component : String}
    (h : task.componentToken module component = task.componentToken other component) :
    module = other := by
  simpa [componentToken, token, typeToken, String.append_assoc] using h

section

variable (task : InferenceTask) (module : String) (journal : List Event)

/-- The token that a find is built under: its own, if it is a component. -/
def Lookup.Found.builtUnder (found : Lookup.Found) (into : Option String) : Option String :=
  match found.name with
  | some component => some (task.componentToken module component)
  | none => into

/-- A find is handed on to what is built under a token: if it is a component, it shares its token
with no other one, and its type stood whenever it was merged there. -/
def Lookup.Found.HandedOn (found : Lookup.Found) (into : Option String) : Prop :=
  ∀ component, found.name = some component →
    Journal.isShared (task.componentToken module component) journal = false ∧
      Journal.mergesUnfinished into (task.componentToken module component) journal = false

/-- A schema that is built under a token obtains a property: it declares the property itself, or a
part of its `allOf` is handed on that obtains it. -/
inductive Schema.Obtains : Option String → Schema → String → Prop where
  | own {into : Option String} {s : Schema} {wire : String} {part : SchemaOrRef}
      (property : (wire, part) ∈ s.properties) : Obtains into s wire
  | inherited {into : Option String} {s : Schema} {part : SchemaOrRef} {found : Lookup.Found}
      {wire : String} (member : part ∈ s.allOf)
      (located : Lookup.schema task.document part = .ok found) (isObject : found.IsObject)
      (handedOn : found.HandedOn task module journal into)
      (obtains : Obtains (found.builtUnder task module into) found.schema wire) :
      Obtains into s wire

/-- A component obtains a property in a module: its schema does, under a token that no other
component shares and whose type stands. -/
structure Schema.IsObtained (component : String) (schema : Schema) (wire : String) : Prop where
  stands : Journal.stands (task.componentToken module component) journal = true
  apart : Journal.isShared (task.componentToken module component) journal = false
  obtains : schema.Obtains task module journal (some (task.componentToken module component)) wire

variable {task module journal} {earlier : List Event}

theorem Lookup.Found.HandedOn.of_suffix {found : Lookup.Found} {into : Option String}
    (h : found.HandedOn task module journal into) (suffix : earlier <:+ journal) :
    found.HandedOn task module earlier into := by
  obtain ⟨events, rfl⟩ := suffix
  induction events with
  | nil => exact h
  | cons event events ih =>
      exact ih fun component named => ⟨Journal.isShared_of_cons (h component named).1,
        Journal.mergesUnfinished_of_cons (h component named).2⟩

/-- What is obtained in the end was obtained before: a journal that grows tells of more merges. -/
theorem Schema.Obtains.of_suffix {into : Option String} {schema : Schema} {wire : String}
    (h : schema.Obtains task module journal into wire) (suffix : earlier <:+ journal) :
    schema.Obtains task module earlier into wire := by
  induction h with
  | own property => exact .own property
  | inherited member located isObject handedOn _ ih =>
      exact .inherited member located isObject (handedOn.of_suffix suffix) ih

end

/-! ## The invariant -/

/-- The type under a token is an object with a property. -/
def Package.HasProperty (package : Package) (token key : String) : Prop :=
  ∃ object, package.types.get? token = some (.object object) ∧
    object.properties.contains key = true

namespace Session

variable (task : InferenceTask)

/-- The type under the token of a component has all properties that the schema obtains. -/
def Carries (module : String) (s : Session) (token : String) (schema : Schema) : Prop :=
  ∀ wire, schema.Obtains task module s.journal (some token) wire →
    s.package.HasProperty token (Naming.sdkName wire)

/-- A type that stands was made for a component that was referred to, and carries what it
obtains. -/
def Inherits (s : Session) : Prop :=
  ∀ token, Journal.stands token s.journal = true → ∃ module component,
    task.componentToken module component = token ∧ .referred component token ∈ s.journal ∧
      ∀ schema, Lookup.component task.document component = .ok schema →
        s.Carries task module token schema

variable {task} {s s' : Session}

theorem Carries.of_get? {module token : String} {schema : Schema}
    (h : s.Carries task module token schema) (grows : s.journal <:+ s'.journal)
    (kept : ∀ type, s.package.types.get? token = some type →
      s'.package.types.get? token = some type) : s'.Carries task module token schema := by
  intro wire obtains
  obtain ⟨object, registered, has⟩ := h wire (obtains.of_suffix grows)
  exact ⟨object, kept _ registered, has⟩

/-- The journal grows, and types that stand have stood before and are kept. -/
theorem Inherits.change (h : s.Inherits task) (grows : s.journal <:+ s'.journal)
    (kept : ∀ token, Journal.stands token s'.journal = true →
      Journal.stands token s.journal = true ∧ ∀ type, s.package.types.get? token = some type →
        s'.package.types.get? token = some type) : s'.Inherits task := by
  intro token stands
  obtain ⟨stood, types⟩ := kept token stands
  obtain ⟨module, component, isToken, referred, carries⟩ := h token stood
  exact ⟨module, component, isToken, grows.subset referred, fun schema located =>
    (carries schema located).of_get? grows types⟩

/-- An event that is no end of a construction and replaces no type. -/
theorem Inherits.noted {event : Event} (h : s.Inherits task)
    (stands : ∀ token, Journal.stands token (event :: s.journal) =
      Journal.stands token s.journal) : (s.noted event).Inherits task :=
  h.change (List.suffix_cons ..) fun token stood => ⟨by rwa [← stands], fun _ => id⟩

theorem Inherits.withType {token : String} {type : NamedType} (h : s.Inherits task)
    (free : s.package.types.get? token = none) : (s.withType token type).Inherits task := by
  refine h.change List.suffix_rfl fun other stands => ⟨stands, fun found registered => ?_⟩
  rw [get?_withType]
  split
  · rename_i same
    rw [same, free] at registered
    cases registered
  · exact registered

theorem Inherits.dropping {token : String} (h : s.Inherits task) :
    (s.dropping token).Inherits task := by
  refine h.change (List.suffix_cons ..) fun other stands => ?_
  obtain ⟨ne, stood⟩ : ¬ token = other ∧ Journal.stands other s.journal = true := by
    simpa [Session.dropping, Journal.stands, Journal.replaces, Journal.takesAway] using stands
  refine ⟨stood, fun type registered => ?_⟩
  rwa [get?_dropping, if_neg (Ne.symm ne)]

theorem Inherits.moving {source target : String} {type : NamedType} (h : s.Inherits task) :
    (s.moving source target type).Inherits task := by
  refine h.change (List.suffix_cons ..) fun other stands => ?_
  obtain ⟨⟨notSource, notTarget⟩, stood⟩ :
      (¬ source = other ∧ ¬ target = other) ∧ Journal.stands other s.journal = true := by
    simpa [Session.moving, Journal.stands, Journal.replaces] using stands
  refine ⟨stood, fun type registered => ?_⟩
  rwa [get?_moving, if_neg (Ne.symm notTarget), if_neg (Ne.symm notSource)]

/-- A component is left with all that it obtains. -/
theorem Inherits.leaving {module component token : String} (h : s.Inherits task)
    (isToken : task.componentToken module component = token)
    (referred : .referred component token ∈ s.journal)
    (carries : ∀ schema, Lookup.component task.document component = .ok schema →
      s.Carries task module token schema) : (s.noted (.left token)).Inherits task := by
  have grows : s.journal <:+ (s.noted (.left token)).journal := List.suffix_cons ..
  intro other stands
  by_cases same : token = other
  · subst same
    exact ⟨module, component, isToken, List.mem_cons_of_mem _ referred, fun schema located =>
      (carries schema located).of_get? grows fun _ => id⟩
  · have stood : Journal.stands other s.journal = true := by
      simpa [Session.noted, Journal.stands, same] using stands
    obtain ⟨named, inModule, isOther, met, kept⟩ := h other stood
    exact ⟨named, inModule, isOther, List.mem_cons_of_mem _ met, fun schema located =>
      (kept schema located).of_get? grows fun _ => id⟩

end Session

/-- What is under construction stays so, and types that stand carry what they obtain. -/
def inheritance (task : InferenceTask) (opened : List String) : Invariant where
  holds s := Journal.underConstruction s.journal = opened ∧ s.Inherits task
  later s s' := s.journal <:+ s'.journal
  good _ _ := True
  answer _ _ := True
  fails _ _ := True
  refl _ := List.suffix_rfl
  trans := List.IsSuffix.trans
  lasts _ := id
  stops _ _ := trivial
  tables h changes := by
    obtain ⟨metadata, rfl⟩ := changes
    exact ⟨⟨h.1, h.2.change List.suffix_rfl fun _ stands => ⟨stands, fun _ => id⟩⟩,
      List.suffix_rfl⟩
  known _ _ := ⟨trivial, trivial, fun _ _ => trivial⟩
  registers h free _ := ⟨⟨h.1, h.2.withType free⟩, List.suffix_rfl⟩
  forms _ _ h := ⟨⟨h.1, h.2.noted fun _ => rfl⟩, List.suffix_cons ..⟩
  merges _ h := ⟨⟨h.1, h.2.noted fun _ => rfl⟩, List.suffix_cons ..⟩
  drops _ h := ⟨⟨h.1, h.2.dropping⟩, List.suffix_cons ..⟩

/-! ## What is given -/

section

variable (task : InferenceTask) (module : String) (into : Option String)

/-- Among some properties are all that a schema obtains. -/
def Given (s : Session) (schema : Schema) (properties : PropertyMap) : Prop :=
  ∀ wire, schema.Obtains task module s.journal into wire →
    properties.contains (Naming.sdkName wire) = true

/-- Among some properties are all that a part of an `allOf` obtains, if it is handed on. -/
def PartGiven (part : SchemaOrRef) (members : Members) (s : Session) : Prop :=
  ∀ found, Lookup.schema task.document part = .ok found → found.IsObject →
    found.HandedOn task module s.journal into →
      Given task module (found.builtUnder task module into) s found.schema members.properties

/-- A result is the token of a type that has all that a find obtains, if the find is still handed on
when the type is merged. -/
def Delivered (s : Session) (found : Lookup.Found) (resolved : Resolved) : Prop :=
  found.IsObject → ∃ token, resolved.type = .named token ∧
    (found.HandedOn task module (.merged token :: s.journal) into → ∀ wire,
      found.schema.Obtains task module s.journal (found.builtUnder task module into) wire →
        s.package.HasProperty token (Naming.sdkName wire))

variable {task module into} {s s' : Session}

theorem Given.grow {schema : Schema} {properties properties' : PropertyMap}
    (h : Given task module into s schema properties) (later : s.journal <:+ s'.journal)
    (grows : ∀ key, properties.contains key = true → properties'.contains key = true) :
    Given task module into s' schema properties' :=
  fun wire obtains => grows _ (h wire (obtains.of_suffix later))

theorem PartGiven.grow {part : SchemaOrRef} {members members' : Members}
    (h : PartGiven task module into part members s) (later : s.journal <:+ s'.journal)
    (grows : ∀ key, members.properties.contains key = true →
      members'.properties.contains key = true) : PartGiven task module into part members' s' :=
  fun found located isObject handedOn =>
    (h found located isObject (handedOn.of_suffix later)).grow later grows

/-- What a schema obtains is a property of its own, or given by a part of its `allOf`. -/
theorem own_or_given {schema : Schema} {members : Members}
    (given : ∀ part ∈ schema.allOf, PartGiven task module into part members s) {wire : String}
    (obtains : schema.Obtains task module s.journal into wire) :
    (∃ part, (wire, part) ∈ schema.properties) ∨
      members.properties.contains (Naming.sdkName wire) = true := by
  cases obtains with
  | own property => exact .inl ⟨_, property⟩
  | inherited member located isObject handedOn obtains =>
      exact .inr (given _ member _ located isObject handedOn _ obtains)

end

namespace Infer

variable {task : InferenceTask} {opened : List String} {resolve : Resolver} {scope : Scope}
  {parent : String} {s : Session} {schema : Schema}

/-- Taking the object of a result gives what the find obtains. -/
theorem takeObject_gives {module : String} {into : Option String} {found : Lookup.Found}
    {resolved : Resolved} (h : (inheritance task opened).holds s)
    (delivered : Delivered task module into s found resolved) :
    (inheritance task opened).Leads (takeObject resolved) s fun object s' =>
      found.IsObject → found.HandedOn task module s'.journal into →
        Given task module (found.builtUnder task module into) s' found.schema
          ((object.map ObjectType.properties).getD ∅) := by
  refine ⟨ends_takeObject.2 ?_⟩
  cases named : resolved.type.token? with
  | none =>
      refine ⟨h, List.suffix_rfl, fun isObject => ?_⟩
      obtain ⟨token, same, -⟩ := delivered isObject
      rw [same] at named
      cases named
  | some token =>
      have merged := (inheritance task opened).merges token h
      have taken : found.IsObject →
          found.HandedOn task module (s.noted (.merged token)).journal into →
            Given task module (found.builtUnder task module into) (s.noted (.merged token))
              found.schema ((((s.package.types.get? token).bind NamedType.object?).map
                ObjectType.properties).getD ∅) := by
        intro isObject handedOn wire obtains
        obtain ⟨answer, same, has⟩ := delivered isObject
        rw [same] at named
        cases named
        obtain ⟨object, registered, contains⟩ :=
          has handedOn wire (obtains.of_suffix (List.suffix_cons ..))
        rw [registered]
        exact contains
      dsimp only
      split
      · have dropped := (inheritance task opened).drops token merged.1
        exact ⟨dropped.1, merged.2.trans dropped.2, fun isObject handedOn =>
          (taken isObject (handedOn.of_suffix dropped.2)).grow dropped.2 fun _ => id⟩
      · exact ⟨merged.1, merged.2, taken⟩

section

variable (delivers : ∀ {found}, Calls task.document schema found → ∀ parent s,
    (inheritance task opened).holds s →
      (inheritance task opened).Leads (resolve scope parent found) s
        fun resolved s' => Delivered task scope.module opened.head? s' found resolved)

include delivers

theorem inheritance_serves : (inheritance task opened).Serves task resolve scope schema :=
  .of_mayFail (fun _ _ => trivial) fun called parent s h =>
    (delivers called parent s h).imp fun _ _ _ _ => ⟨fun _ _ => trivial, fun _ _ => trivial⟩

theorem mergePart_gives {part : SchemaOrRef} (member : part ∈ schema.allOf) (members : Members)
    (h : (inheritance task opened).holds s) :
    (inheritance task opened).Leads
      (mergePart task resolve scope parent members part) s fun members' s' =>
        PartGiven task scope.module opened.head? part members' s' ∧
          ∀ other, PartGiven task scope.module opened.head? other members s →
            PartGiven task scope.module opened.head? other members' s' := by
  unfold mergePart
  refine (Invariant.Leads.find h).bind fun found s₁ h₁ later₁ located => ?_
  split
  · rename_i skipped
    refine .pure h₁ ⟨fun found' located' isObject => ?_,
      fun _ given => given.grow later₁ fun _ => id⟩
    obtain rfl := Except.ok.inj (located.symm.trans located')
    rw [isObject.not_skipped] at skipped
    cases skipped
  · have called := Calls.part (Schema.mem_parts_of_allOf member) located
    refine (delivers called parent s₁ h₁).bind fun resolved s₂ h₂ later₂ delivered => ?_
    refine (takeObject_gives h₂ delivered).bind fun object s₃ h₃ later₃ given => ?_
    have later := later₁.trans (later₂.trans later₃)
    have partGiven : ∀ members',
        (∀ key, ((object.map ObjectType.properties).getD ∅).contains key = true →
          members'.properties.contains key = true) →
            PartGiven task scope.module opened.head? part members' s₃ := by
      intro members' grows found' located' isObject handedOn
      obtain rfl := Except.ok.inj (located.symm.trans located')
      exact (given isObject handedOn).grow List.suffix_rfl grows
    cases object with
    | none =>
        exact .pure h₃ ⟨partGiven members fun _ nothing => (by cases nothing),
          fun _ given => given.grow later fun _ => id⟩
    | some object =>
        refine .pure h₃ ⟨partGiven _ fun key found => ?_, fun _ given => given.grow later ?_⟩
        · exact (SortedMap.contains_union ..).2 (.inl found)
        · exact fun key found => (SortedMap.contains_union ..).2 (.inr found)

theorem mergedMembers_gives (h : (inheritance task opened).holds s) :
    (inheritance task opened).Leads
      (mergedMembers task resolve scope parent schema.allOf) s fun members s' =>
        ∀ part ∈ schema.allOf, PartGiven task scope.module opened.head? part members s' :=
  (Invariant.Leads.foldlM_forall (fun _ member members _ h =>
    mergePart_gives delivers member members h) h).imp fun _ _ _ given => given.1

/-- The members of an object are all that its schema obtains. -/
theorem objectMembers_gives (h : (inheritance task opened).holds s) :
    (inheritance task opened).Leads (objectMembers task resolve scope parent schema) s
      fun members s' => Given task scope.module opened.head? s' schema members.properties := by
  have serves := inheritance_serves delivers
  unfold objectMembers
  have declared : (inheritance task opened).Leads
      ((SortedMap.ofList schema.properties).toList.foldlM
        (addProperty task resolve scope parent) ∅) s fun properties s' =>
          ∀ entry ∈ (SortedMap.ofList schema.properties).toList,
            properties.contains (Naming.sdkName entry.1) = true := by
    have step : ∀ entry ∈ (SortedMap.ofList schema.properties).toList, ∀ properties s,
        (inheritance task opened).holds s → (inheritance task opened).Leads
          (addProperty task resolve scope parent properties entry) s fun grown _ =>
            grown.contains (Naming.sdkName entry.1) = true ∧ ∀ other : String × SchemaOrRef,
              properties.contains (Naming.sdkName other.1) = true →
                grown.contains (Naming.sdkName other.1) = true := by
      intro entry member properties s h
      refine (Invariant.addProperty_leads serves (SortedMap.mem_of_mem_ofList member) h
        fun _ _ => trivial).imp fun grown s' _ ⟨_, property, same⟩ => ?_
      subst same
      exact ⟨(SortedMap.contains_insert ..).2 (.inl rfl),
        fun _ found => (SortedMap.contains_insert ..).2 (.inr found)⟩
    exact (Invariant.Leads.foldlM_forall step h).imp fun _ _ _ made => made.1
  refine declared.bind fun properties s₁ h₁ _ own => ?_
  refine (mergedMembers_gives delivers h₁).bind fun merged s₂ h₂ later₂ given => ?_
  refine (Invariant.Leads.of_writesTables (.foldlM (addRequired_writesTables _) _ _) h₂).bind
    fun required s₃ h₃ later₃ _ => ?_
  refine (Invariant.Leads.forming h₃).bind fun _ s₄ h₄ later₄ _ => .pure h₄ fun wire obtains => ?_
  refine (SortedMap.contains_union ..).2 ?_
  rcases own_or_given given (obtains.of_suffix (later₃.trans later₄)) with ⟨part, property⟩ | given
  · have listed : (SortedMap.ofList schema.properties).contains wire = true :=
      (SortedMap.contains_ofList ..).2 ⟨part, property⟩
    obtain ⟨kept, here⟩ := (SortedMap.contains_iff ..).1 listed
    exact .inr (own (wire, kept) ((SortedMap.mem_toList_iff ..).2 here))
  · exact .inl given

end

end Infer

/-! ## What is delivered -/

namespace Infer

variable {task : InferenceTask} {opened : List String} {resolve : Resolver} {scope : Scope}
  {parent : String} {s : Session} {found : Lookup.Found}

theorem registerGenerated_delivers {name module : String} {into : Option String}
    {object : ObjectType} (h : (inheritance task opened).holds s)
    (given : Given task module (found.builtUnder task module into) s found.schema
      object.properties) :
    (inheritance task opened).Leads (registerGenerated task scope name (.object object)) s
      fun resolved s' => Delivered task module into s' found resolved := by
  refine ⟨(registerGenerated_ends task scope name (.object object) s).mono
    (fun resolved s' ⟨token, registers⟩ => ?_) fun _ _ _ => trivial⟩
  obtain ⟨holds, later, -⟩ := (inheritance task opened).puts h (fun _ _ => trivial) registers
  refine ⟨holds, later, fun _ => ⟨token, registers.type_eq, fun _ wire obtains => ?_⟩⟩
  obtain ⟨registered, there, keeps⟩ := registers.keeps
  exact ⟨registered, there, (keeps _).2 (given wire (obtains.of_suffix later))⟩

section

variable (delivers : ∀ {called}, Calls task.document found.schema called → ∀ parent s,
    (inheritance task opened).holds s →
      (inheritance task opened).Leads (resolve scope parent called) s
        fun resolved s' => Delivered task scope.module opened.head? s' called resolved)

include delivers

theorem objectType_gives (h : (inheritance task opened).holds s) :
    (inheritance task opened).Leads
      (objectType task resolve scope parent found.schema) s fun type s' =>
        ∃ object, type = .object object ∧
          Given task scope.module opened.head? s' found.schema object.properties :=
  (objectMembers_gives delivers h).bind fun _ _ h₁ _ given => .pure h₁ ⟨_, rfl, given⟩

theorem inlineType_delivers (unnamed : found.name = none)
    (h : (inheritance task opened).holds s) :
    (inheritance task opened).Leads
      (inlineType task resolve scope parent found.schema) s fun resolved s' =>
        Delivered task scope.module opened.head? s' found resolved := by
  have into : found.builtUnder task scope.module opened.head? = opened.head? := by
    unfold Lookup.Found.builtUnder
    rw [unnamed]
  by_cases isObject : found.IsObject
  · unfold inlineType
    cases properties : found.schema.properties.isEmpty with
    | false =>
        refine (objectType_gives delivers h).bind fun type s₁ h₁ _ ⟨object, same, given⟩ => ?_
        subst same
        exact registerGenerated_delivers h₁ (into.symm ▸ given)
    | true =>
        obtain ⟨oneOf, allOf⟩ :
            found.schema.oneOf.isEmpty = true ∧ found.schema.allOf.isEmpty = false := by
          unfold Lookup.Found.IsObject at isObject
          rw [unnamed] at isObject
          simpa [properties] using isObject
        simp only [oneOf, allOf, Bool.not_true, Bool.not_false, if_true]
        refine (mergedMembers_gives delivers h).bind fun members s₁ h₁ _ given => ?_
        refine registerGenerated_delivers h₁ fun wire obtains => ?_
        rcases own_or_given given (into ▸ obtains) with ⟨part, property⟩ | given
        · rw [List.isEmpty_iff.1 properties] at property
          cases property
        · exact given
  · exact (Invariant.inlineType_leads (inheritance_serves delivers) h).imp
      fun _ _ _ _ isObject' => absurd isObject' isObject

end

/-- A component that is met is entered and left with all that it obtains; or its type stands, and
carries what it obtains; or its type does not stand, and a merge of it comes too early. -/
theorem enterComponent_delivers {component token : String}
    (isToken : task.componentToken scope.module component = token)
    (delivers : ∀ {called}, Calls task.document found.schema called → ∀ parent s,
      (inheritance task (token :: opened)).holds s →
        (inheritance task (token :: opened)).Leads (resolve scope parent called) s
          fun resolved s' => Delivered task scope.module (some token) s' called resolved)
    (named : found.name = some component) (inside : found.LiesIn task.document)
    (h : (inheritance task opened).holds s) :
    (inheritance task opened).Leads
      (enterComponent task resolve scope component found.schema) s fun resolved s' =>
        Delivered task scope.module opened.head? s' found resolved := by
  obtain ⟨building, inherits⟩ := h
  have located := inside component named
  have into : found.builtUnder task scope.module opened.head? = some token := by
    unfold Lookup.Found.builtUnder
    rw [named, ← isToken]
  have met : (s.noted (.referred component token)).Inherits task := inherits.noted fun _ => rfl
  have later : s.journal <:+ (s.noted (.referred component token)).journal := List.suffix_cons ..
  have entering : (inheritance task (token :: opened)).holds
      ((s.noted (.referred component token)).entering token) :=
    ⟨congrArg (token :: ·) building,
      met.change (List.suffix_cons ..) fun _ stands => ⟨stands, fun _ => id⟩⟩
  refine ⟨Invariant.enterComponent_ends isToken (fun _ => ?_)
    (fun _ => objectType_gives delivers entering) (fun _ _ _ _ _ => trivial)
    (fun {type s₁ resolved s₂} later₁ made registers holds later₂ _ => ?_) fun _ _ => id⟩
  · refine ⟨⟨building, met⟩, later, fun _ => ⟨token, rfl, fun handedOn wire obtains => ?_⟩⟩
    obtain ⟨apart, finished⟩ := handedOn component named
    rw [isToken] at apart finished
    obtain ⟨stands, -⟩ : Journal.stands token s.journal = true ∧
        Journal.mergesUnfinished opened.head? token s.journal = false := by
      simpa [Session.noted, Journal.mergesUnfinished, Journal.builder, building] using finished
    obtain ⟨module, other, isOther, referred, carries⟩ := inherits token stands
    obtain rfl := Journal.eq_of_referred apart
      (List.mem_cons_of_mem _ List.mem_cons_self)
      (List.mem_cons_of_mem _ (List.mem_cons_of_mem _ referred))
    obtain rfl := InferenceTask.componentToken_inj (isOther.trans isToken.symm)
    exact carries _ located wire ((into ▸ obtains).of_suffix later)
  · obtain ⟨object, rfl, given⟩ := made
    have later₂ : s₁.journal <:+ s₂.journal := later₂
    have carries : s₂.Carries task scope.module token found.schema := by
      intro wire obtains
      obtain ⟨registered, there, keeps⟩ := registers.keeps
      exact ⟨registered, there, (keeps _).2 (given wire (obtains.of_suffix later₂))⟩
    have grown : (s.noted (.referred component token)).journal <:+ s₂.journal :=
      (List.suffix_cons ..).trans (later₁.trans later₂)
    have left := Session.Inherits.leaving holds.2 isToken (grown.subset List.mem_cons_self)
      fun schema other => by
        obtain rfl := Except.ok.inj (located.symm.trans other)
        exact carries
    have closed : Journal.underConstruction (s₂.noted (.left token)).journal = opened := by
      simp [Session.noted, Journal.underConstruction, holds.1]
    exact ⟨⟨closed, left⟩, later.trans (grown.trans (List.suffix_cons ..)), fun _ =>
      ⟨token, registers.type_eq, fun _ wire obtains =>
        carries wire ((into ▸ obtains).of_suffix (List.suffix_cons ..))⟩⟩

/-- Giving a schema its type keeps the invariant, and delivers what the schema obtains. -/
theorem resolver_delivers (task : InferenceTask) (depth : Nat) :
    ∀ {opened scope parent found s}, found.LiesIn task.document →
      (inheritance task opened).holds s →
        (inheritance task opened).Leads (resolver task depth scope parent found) s
          fun resolved s' => Delivered task scope.module opened.head? s' found resolved := by
  induction depth with
  | zero => exact fun _ _ => ⟨trivial⟩
  | succ depth ih =>
      intro opened scope parent found s inside h
      have delivers : ∀ opened {called}, Calls task.document found.schema called → ∀ parent s,
          (inheritance task opened).holds s → (inheritance task opened).Leads
            (resolver task depth scope parent called) s
            fun resolved s' => Delivered task scope.module opened.head? s' called resolved :=
        fun _ _ called _ _ h => ih called.liesIn h
      change (inheritance task opened).Leads
        (typeOf task (resolver task depth) scope parent found) s _
      have enters : ∀ component, found.name = some component →
          (inheritance task opened).Leads
            (enterComponent task (resolver task depth) scope component found.schema) s
            fun resolved s' => Delivered task scope.module opened.head? s' found resolved :=
        fun component named => enterComponent_delivers rfl (delivers _) named inside h
      by_cases isObject : found.IsObject
      · cases named : found.name with
        | none =>
            unfold typeOf
            rw [named]
            exact inlineType_delivers (delivers opened) named h
        | some component =>
            have composite : found.schema.isComposite = true := by
              unfold Lookup.Found.IsObject at isObject
              rwa [named] at isObject
            rw [typeOf_eq_enterComponent named composite]
            exact enters component named
      · refine (Invariant.typeOf_leads (inheritance_serves (delivers opened))
          (fun component named => ?_) h).imp fun _ _ _ _ isObject' => absurd isObject' isObject
        exact (enters component named).imp fun _ _ _ _ =>
          ⟨fun _ _ => trivial, fun _ _ => trivial⟩

theorem renameListType_inherits {name : String} {type : TypeSpec}
    (h : (inheritance task opened).holds s) :
    (inheritance task opened).Leads (renameListType name type) s fun _ _ => True := by
  unfold renameListType
  dsimp only
  split
  · rename_i token target _
    refine ⟨ends_bind.2 ?_⟩
    cases registered : s.package.types.get? token with
    | some type =>
        exact (ends_moveType registered).2
          ⟨⟨h.1, h.2.moving⟩, List.suffix_cons .., trivial⟩
    | none =>
        refine (ends_moveType_of_none registered).2 ⟨⟨h.1, ?_⟩, List.suffix_rfl, trivial⟩
        exact h.2.change List.suffix_rfl fun _ stands => ⟨stands, fun _ => id⟩
  · exact .pure h trivial

end Infer

/-- The invariant over a whole run. -/
def runInheritance (task : InferenceTask) : RunInvariant task where
  toInvariant := inheritance task []
  mayFail _ _ := trivial
  resolves _ inside h := (Infer.resolver_delivers task _ inside h).imp
    fun _ _ _ _ => ⟨fun _ _ => trivial, fun _ _ => trivial⟩
  lists _ inside h := (Infer.resolver_delivers task _ inside h).bind
    fun _ _ h _ _ => (Infer.renameListType_inherits h).imp fun _ _ _ _ _ _ => trivial
  knownResource _ _ _ _ := trivial
  putsResource h _ :=
    ⟨⟨h.1, h.2.change List.suffix_rfl fun _ stands => ⟨stands, fun _ => id⟩⟩, List.suffix_rfl⟩
  putsFunction h _ :=
    ⟨⟨h.1, h.2.change List.suffix_rfl fun _ stands => ⟨stands, fun _ => id⟩⟩, List.suffix_rfl⟩

/-! ## Answers are noted -/

/-- The journal only grows. -/
def growing : Invariant where
  holds _ := True
  later s s' := s.journal <:+ s'.journal
  good _ _ := True
  answer _ _ := True
  fails _ _ := True
  refl _ := List.suffix_rfl
  trans := List.IsSuffix.trans
  lasts _ := id
  stops _ _ := trivial
  tables _ changes := by
    obtain ⟨metadata, rfl⟩ := changes
    exact ⟨trivial, List.suffix_rfl⟩
  known _ _ := ⟨trivial, trivial, fun _ _ => trivial⟩
  registers _ _ _ := ⟨trivial, List.suffix_rfl⟩
  forms _ _ _ := ⟨trivial, List.suffix_cons ..⟩
  merges _ _ := ⟨trivial, List.suffix_cons ..⟩
  drops _ _ := ⟨trivial, List.suffix_cons ..⟩

namespace Infer

variable {task : InferenceTask} {scope : Scope} {parent component token : String}
  {found : Lookup.Found} {s : Session}

theorem enterComponent_answers {resolve : Resolver}
    (isToken : task.componentToken scope.module component = token)
    (serves : growing.Serves task resolve scope found.schema) :
    Ends (enterComponent task resolve scope component found.schema) s
      (fun resolved s' => s.journal <:+ s'.journal ∧ resolved.type = .named token ∧
        .referred component token ∈ s'.journal) fun _ _ => True := by
  refine Invariant.enterComponent_ends isToken (fun _ => ?_)
    (fun _ => Invariant.objectType_leads serves trivial) (fun _ _ => id)
    (fun {type s₁ resolved s₂} later₁ _ registers _ later₂ _ => ?_) fun _ _ => id
  · exact ⟨List.suffix_cons .., rfl, List.mem_cons_self⟩
  · have grown : .referred component token :: s.journal <:+ Event.left token :: s₂.journal :=
      (List.suffix_cons ..).trans (later₁.trans (later₂.trans (List.suffix_cons ..)))
    exact ⟨(List.suffix_cons ..).trans grown, registers.type_eq, grown.subset List.mem_cons_self⟩

theorem resolver_grows (task : InferenceTask) (depth : Nat) : ∀ {scope parent found s},
    growing.Leads (resolver task depth scope parent found) s
      fun resolved s' => growing.Fits s' resolved := by
  induction depth with
  | zero => exact ⟨trivial⟩
  | succ depth ih =>
      intro scope parent found s
      have serves : growing.Serves task (resolver task depth) scope found.schema :=
        .of_mayFail (fun _ _ => trivial) fun _ _ _ _ => ih
      refine Invariant.typeOf_leads serves (fun component _ => ⟨?_⟩) trivial
      exact (enterComponent_answers rfl serves).imp fun _ _ ⟨later, _⟩ =>
        ⟨trivial, later, ⟨fun _ _ => trivial, fun _ _ => trivial⟩⟩

/-- The answer to a reference to a component with members is the token of the component, and the
journal says so. -/
theorem resolver_answers (composite : found.schema.isComposite = true)
    (named : found.name = some component) (depth : Nat) :
    Ends (resolver task (depth + 1) scope parent found) s
      (fun resolved s' => resolved.type = .named (task.componentToken scope.module component) ∧
        .referred component (task.componentToken scope.module component) ∈ s'.journal)
      fun _ _ => True := by
  change Ends (typeOf task (resolver task depth) scope parent found) s _ _
  rw [typeOf_eq_enterComponent named composite]
  refine (enterComponent_answers rfl ?_).imp fun _ _ ⟨_, answer⟩ => answer
  exact .of_mayFail (fun _ _ => trivial) fun _ _ _ _ => resolver_grows task depth

end Infer

/-! ## A base component and one derived from it -/

/-- A base that refers to the component derived from it. -/
def base : Schema := .object [("child", .to "Derived")] []

/-- What is derived from the base, with one property more. -/
def derived : Schema :=
  .object [] [.to "Base",
    .item (.object [("extra", .item { type := some (.single .string) })] [])]

/-- The two components, with some paths. -/
def baseAndDerived (paths : List (String × PathItem)) : InferenceTask :=
  (Document.having [("Base", .item base), ("Derived", .item derived)] paths).task

theorem derived_declares (paths : List (String × PathItem)) :
    derived.Declares (baseAndDerived paths).document "child" :=
  .inherited List.mem_cons_self (show Lookup.schema _ _ = .ok ⟨some "Base", base⟩ from rfl) rfl
    (.own List.mem_cons_self)

/-- What the derived component declares it obtains, if the base is handed on to it. -/
theorem derived_obtains {paths : List (String × PathItem)} {module wire : String}
    {journal : List Event} {into : Option String}
    (handedOn : (Lookup.Found.mk (some "Base") base).HandedOn (baseAndDerived paths) module journal
      into) (h : derived.Declares (baseAndDerived paths).document wire) :
    derived.Obtains (baseAndDerived paths) module journal into wire := by
  cases h with
  | own property => cases property
  | inherited member located isObject declares =>
      rcases List.mem_cons.1 member with rfl | last
      · cases located
        cases declares with
        | own property => exact .inherited member rfl isObject handedOn (.own property)
        | inherited none _ _ _ => cases none
      · obtain rfl := List.mem_singleton.1 last
        cases located
        cases declares with
        | own property =>
            refine .inherited member rfl isObject (fun _ named => ?_) (.own property)
            cases named
        | inherited none _ _ _ => cases none

/-! ## The result -/

/-- When the base is read first, the derived component is made while the base is under construction,
and lacks what it inherits. -/
theorem derived_lacks_inherited :
    let task := baseAndDerived [("/base", .reading "getBase" (.to "Base"))]
    ∃ e, extract task = .ok e ∧
      .referred "Derived" "pkg:base:Derived" ∈ task.lastSession.journal ∧
      derived.Declares task.document "child" ∧
      e.package.types.contains "pkg:base:Derived" = true ∧
      ¬ e.package.HasProperty "pkg:base:Derived" (Naming.sdkName "child") := by
  refine ⟨_, extract_of_isOk (by decide +kernel), by decide +kernel, derived_declares _,
    by decide +kernel, fun ⟨object, registered, has⟩ => ?_⟩
  have lacks : (((baseAndDerived [("/base", .reading "getBase" (.to "Base"))]).lastSession.finish
      |>.package.types.get? "pkg:base:Derived").bind NamedType.object?).map
        (·.properties.contains (Naming.sdkName "child")) = some false := by decide +kernel
  rw [registered] at lacks
  cases has.symm.trans (Option.some.inj lacks)

/-- In an extraction, what a component obtains is a property of its type. -/
theorem obtained_registered {task : InferenceTask} {e : Extraction} (h : extract task = .ok e)
    {module component wire : String} {schema : Schema}
    (located : Lookup.component task.document component = .ok schema)
    (referred : .referred component (task.componentToken module component) ∈
      task.lastSession.journal)
    (obtained : schema.IsObtained task module task.lastSession.journal component wire) :
    e.package.HasProperty (task.componentToken module component) (Naming.sdkName wire) := by
  have start : (inheritance task []).holds (Session.new task.options) :=
    ⟨rfl, fun _ stands => by cases stands⟩
  obtain ⟨-, inherits⟩ := (runInheritance task).holds_lastSession start h
  obtain ⟨inModule, other, isToken, met, carries⟩ := inherits _ obtained.stands
  obtain rfl := Journal.eq_of_referred obtained.apart referred met
  obtain rfl := InferenceTask.componentToken_inj isToken
  have package : e.package = task.lastSession.package := by
    rw [extract_eq_finish h]
    rfl
  rw [package]
  exact carries schema located wire obtained.obtains

/-- In an extraction, the type of a component has all properties that the component declares, itself
or through its `allOf`, exactly if it has those that it declares and does not obtain. -/
theorem declared_registered_iff {task : InferenceTask} {e : Extraction} (h : extract task = .ok e)
    {module component : String} {schema : Schema}
    (located : Lookup.component task.document component = .ok schema)
    (referred : .referred component (task.componentToken module component) ∈
      task.lastSession.journal) :
    (∀ wire, schema.Declares task.document wire → e.package.HasProperty
      (task.componentToken module component) (Naming.sdkName wire)) ↔
    ∀ wire, schema.Declares task.document wire →
      ¬ schema.IsObtained task module task.lastSession.journal component wire →
        e.package.HasProperty (task.componentToken module component) (Naming.sdkName wire) := by
  constructor
  · intro all wire declares _
    exact all wire declares
  · intro others wire declares
    rcases Classical.em (schema.IsObtained task module task.lastSession.journal component wire)
      with obtained | missed
    · exact obtained_registered h located referred obtained
    · exact others wire declares missed

/-- When the derived component is read first, it has what it inherits. -/
theorem derived_read_has_inherited :
    let task := baseAndDerived [("/derived", .reading "getDerived" (.to "Derived"))]
    ∃ e, extract task = .ok e ∧ ∀ wire, derived.Declares task.document wire →
      e.package.HasProperty "pkg:derived:Derived" (Naming.sdkName wire) := by
  intro task
  have h : extract task = .ok task.lastSession.finish := extract_of_isOk (by decide +kernel)
  have located : Lookup.component task.document "Derived" = .ok derived := rfl
  have isToken : task.componentToken "derived" "Derived" = "pkg:derived:Derived" := by
    decide +kernel
  have referred : .referred "Derived" (task.componentToken "derived" "Derived") ∈
      task.lastSession.journal := by decide +kernel
  have handedOn : (Lookup.Found.mk (some "Base") base).HandedOn task "derived"
      task.lastSession.journal (some (task.componentToken "derived" "Derived")) := by
    intro component named
    cases named
    exact ⟨by decide +kernel, by decide +kernel⟩
  refine ⟨_, h, isToken ▸ (declared_registered_iff h located referred).2
    fun wire declares missed => absurd ?_ missed⟩
  exact ⟨by decide +kernel, by decide +kernel, derived_obtains handedOn declares⟩

end ResourceInference
