import ResourceInference.Proofs.Courses
import ResourceInference.Proofs.SchemaSteps

/-!
# What giving a type asks for

`Lookup.Found.shape` says what becomes of a schema whose type is asked for: a component is entered,
members are made in place, or the types of other schemas are asked for (`Lookup.Found.Asks`). Enums
are taken for found, so that this does not depend on the session.

A `Frame` is a course that all steps of giving a schema its type stay on, together with what is
known of a schema when its type has been given (`done`) and of a wire name when it has been recorded
(`named`). From what single changes of a session do it follows that the functions that give schemas
their types stay on the course (`Frame.resolver_serves`), and that they have asked for all that they
have to ask for (`Schema.Covered`, `Lookup.Found.Covered`).

On every course the types that are registered stay as they are. This cannot be told of single
changes, since a merge drops types; but it drops no other ones than those which were registered for
it (`Session.NewSince`).
-/

set_option autoImplicit false

namespace ResourceInference

/-! ## Shapes -/

/-- What becomes of a schema whose type is asked for. -/
inductive Lookup.Shape where
  /-- The component is entered. -/
  | component
  /-- The members of an object are made in place. -/
  | object
  /-- The parts of the `allOf` are merged. -/
  | merged
  /-- The types of some schemas are asked for. -/
  | parts (schemas : List SchemaOrRef)

/-- The schemas whose types are asked for when the type keyword says the type. -/
def Schema.declaredParts (s : Schema) : SchemaType → List SchemaOrRef
  | .object => s.valueSchemas
  | .array => s.items.toList
  | _ => []

/-- The schemas whose types are asked for when a schema needs no name of its own. -/
def Schema.unnamedParts (s : Schema) : List SchemaOrRef :=
  match s.anyOf, s.primaryType? with
  | first :: second :: rest, _ => first :: second :: rest
  | _, some type => s.declaredParts type
  | [only], none => [only]
  | [], none => []

/-- Whether enums are made for the type of a schema with an enum. -/
def Schema.makesEnum (s : Schema) : Bool :=
  !s.enum.isEmpty && (s.primaryType? = some .string || s.primaryType? = some .integer)

/-- The type of a schema is one that enums are made for. -/
def Schema.EnumTyped (s : Schema) : Prop :=
  s.primaryType? = some .string ∨ s.primaryType? = some .integer

theorem Schema.makesEnum_of {s : Schema} (hasEnum : ¬ s.enum.isEmpty = true)
    (typed : s.EnumTyped) : s.makesEnum = true := by
  rcases typed with isString | isInteger
  · simp [makesEnum, hasEnum, isString]
  · simp [makesEnum, hasEnum, isInteger]

/-- What becomes of a schema that stands in place. -/
def Schema.inlineShape (s : Schema) : Lookup.Shape :=
  if !s.properties.isEmpty then .object
  else if !s.oneOf.isEmpty then .parts s.oneOf
  else if !s.allOf.isEmpty then .merged
  else if s.makesEnum then .parts []
  else .parts s.unnamedParts

/-- What becomes of a component that is neither an array nor an enum. -/
def Schema.componentShape (s : Schema) : Lookup.Shape :=
  if s.properties.isEmpty && s.allOf.isEmpty then
    if !s.oneOf.isEmpty then .parts s.oneOf
    else if !s.hasType .object || s.hasValueSchema then .parts s.unnamedParts
    else .component
  else .component

/-- What becomes of a find whose type is asked for. -/
def Lookup.Found.shape (found : Lookup.Found) : Lookup.Shape :=
  match found.name with
  | some _ =>
    if found.schema.hasType .array || !found.schema.enum.isEmpty then found.schema.inlineShape
    else found.schema.componentShape
  | none => found.schema.inlineShape

/-! ## Schemas that are asked for -/

/-- The find whose type a property asks for: what stands at the property, or the values of the map
that is described there. -/
inductive RefOr.Property (d : Document) (part : SchemaOrRef) : Lookup.Found → Prop where
  | plain {found : Lookup.Found} (located : Lookup.schema d part = .ok found)
      (noMap : found.schema.mapValues? = none) : Property d part found
  | values {values : SchemaOrRef} {holder found : Lookup.Found}
      (located : Lookup.schema d part = .ok holder) (isMap : holder.schema.mapValues? = some values)
      (valuesLocated : Lookup.schema d values = .ok found) : Property d part found

/-- A part of an `allOf` that is merged. -/
structure RefOr.Merges (d : Document) (part : SchemaOrRef) (found : Lookup.Found) : Prop where
  located : Lookup.schema d part = .ok found
  counts : (found.name.isNone && !found.schema.isObjectLike) = false

/-- The finds whose types are asked for when the members of an object are made. -/
inductive Schema.Inside (d : Document) (s : Schema) : Lookup.Found → Prop where
  | property {wire : String} {part : SchemaOrRef} {found : Lookup.Found}
      (member : (wire, part) ∈ (SortedMap.ofList s.properties).toList)
      (asks : part.Property d found) : Inside d s found
  | part {part : SchemaOrRef} {found : Lookup.Found} (member : part ∈ s.allOf)
      (merges : part.Merges d found) : Inside d s found

/-- The finds whose types are asked for right inside a find, unless it is a component that is
entered. -/
inductive Lookup.Found.Asks (d : Document) (found : Lookup.Found) : Lookup.Found → Prop where
  | members {inner : Lookup.Found} (isObject : found.shape = .object)
      (inside : found.schema.Inside d inner) : Asks d found inner
  | merged {part : SchemaOrRef} {inner : Lookup.Found} (isMerged : found.shape = .merged)
      (member : part ∈ found.schema.allOf) (merges : part.Merges d inner) : Asks d found inner
  | part {parts : List SchemaOrRef} {part : SchemaOrRef} {inner : Lookup.Found}
      (isParts : found.shape = .parts parts) (member : part ∈ parts)
      (located : Lookup.schema d part = .ok inner) : Asks d found inner

/-- The wire names that an object schema itself gives to members: the names of its properties, and
those that must be present and mean one of its properties. Whether a name means a member of a part
depends on the run, which notes the members of an object when it is formed (`Event.formed`). -/
inductive Schema.OwnName (s : Schema) : String → Prop where
  | property {wire : String} {part : SchemaOrRef} (member : (wire, part) ∈ s.properties) :
      OwnName s wire
  | required {wire other : String} {part : SchemaOrRef} (member : wire ∈ s.required)
      (property : (other, part) ∈ s.properties)
      (same : Naming.sdkName other = Naming.sdkName wire) : OwnName s wire

section

variable (d : Document) (done : Lookup.Found → Prop) (named : String → Prop)

/-- All that is needed for the members of an object is done. -/
structure Schema.Covered (s : Schema) : Prop where
  names : ∀ wire, s.OwnName wire → named wire
  inside : ∀ found, s.Inside d found → done found

/-- All that is needed for the type of a find is done, unless it is a component that is entered. -/
structure Lookup.Found.Covered (found : Lookup.Found) : Prop where
  names : found.shape = .object → ∀ wire, found.schema.OwnName wire → named wire
  asked : ∀ inner, found.Asks d inner → done inner

variable {d done named} {found : Lookup.Found}

theorem Schema.Covered.imp {s : Schema} {done' : Lookup.Found → Prop} {named' : String → Prop}
    (h : s.Covered d done named) (laterDone : ∀ found, done found → done' found)
    (laterNamed : ∀ wire, named wire → named' wire) : s.Covered d done' named' :=
  ⟨fun wire own => laterNamed wire (h.names wire own),
    fun found inside => laterDone found (h.inside found inside)⟩

namespace Lookup.Found.Covered

/-- What a find needs is told by its shape. -/
theorem of_shape
    (h : match found.shape with
      | .component => True
      | .object => found.schema.Covered d done named
      | .merged => ∀ part ∈ found.schema.allOf, ∀ inner, part.Merges d inner → done inner
      | .parts parts => ∀ part ∈ parts, ∀ inner, Lookup.schema d part = .ok inner → done inner) :
    found.Covered d done named := by
  refine ⟨fun isObject => ?_, fun inner asks => ?_⟩
  · rw [isObject] at h
    exact h.names
  · cases asks with
    | members isObject inside =>
        rw [isObject] at h
        exact h.inside inner inside
    | merged isMerged member merges =>
        rw [isMerged] at h
        exact h _ member inner merges
    | part isParts member located =>
        rw [isParts] at h
        exact h _ member inner located

theorem of_component (shape : found.shape = .component) : found.Covered d done named :=
  .of_shape (by rw [shape]; trivial)

theorem of_object (shape : found.shape = .object) (covered : found.schema.Covered d done named) :
    found.Covered d done named :=
  .of_shape (by rw [shape]; exact covered)

theorem of_merged (shape : found.shape = .merged)
    (merged : ∀ part ∈ found.schema.allOf, ∀ inner, part.Merges d inner → done inner) :
    found.Covered d done named :=
  .of_shape (by rw [shape]; exact merged)

theorem of_parts {parts : List SchemaOrRef} (shape : found.shape = .parts parts)
    (asked : ∀ part ∈ parts, ∀ inner, Lookup.schema d part = .ok inner → done inner) :
    found.Covered d done named :=
  .of_shape (by rw [shape]; exact asked)

end Lookup.Found.Covered

end

/-! ## Enums -/

namespace Infer

theorem enumTyped_of_ofSchema? {typeName : String} {schema : Schema} {candidate : EnumType}
    (h : EnumSearch.ofSchema? typeName schema = some candidate) : schema.EnumTyped := by
  unfold EnumSearch.ofSchema? at h
  split at h
  · rename_i isString
    exact .inl isString
  · rename_i isInteger
    exact .inr isInteger
  · cases h

/-- An enum is found only of a schema of a type that enums are made for. -/
theorem search_enumTyped (task : InferenceTask) (scope : Scope) (schema : Schema) (s : Session) :
    ∀ (bound : Nat) (name : String), Ends (EnumSearch.search task scope schema name bound) s
      (fun found _ => ∀ resolved, found = some resolved → schema.EnumTyped) fun _ _ => True
  | 0, _ => trivial
  | bound + 1, name => by
      unfold EnumSearch.search
      dsimp only
      split
      · exact fun _ isSome => by cases isSome
      · rename_i candidate isEnum
        have typed : schema.EnumTyped := enumTyped_of_ofSchema? isEnum
        simp only [ends_bind, ends_type?]
        cases taken :
            s.package.types.get? (task.token scope.module (Naming.pascalCase name)) with
        | none =>
            simp only [ends_bind, ends_register taken]
            exact fun _ _ => typed
        | some existing =>
            cases existing with
            | object _ => exact search_enumTyped task scope schema s bound _
            | enum existing =>
                dsimp only
                split
                · exact fun _ _ => typed
                · split
                  · exact trivial
                  · exact search_enumTyped task scope schema s bound _

theorem enumType_enumTyped (task : InferenceTask) (scope : Scope) (name : String) (schema : Schema)
    (s : Session) : Ends (enumType task scope name schema) s
      (fun found _ => ∀ resolved, found = some resolved → schema.EnumTyped) fun _ _ => True := by
  simp only [enumType, typeCount, ends_bind, ends_get]
  exact search_enumTyped task scope schema s _ name

end Infer

/-! ## Properties of objects without an `allOf` -/

/-- The keys of a property map are the SDK names of the properties of a schema. -/
def PropertyMap.Exactly (properties : PropertyMap) (schema : Schema) : Prop :=
  ∀ key, properties.contains key = true ↔
    ∃ entry ∈ schema.properties, Naming.sdkName entry.1 = key

/-- The type under a token is an object with exactly the properties that a schema has. -/
def Package.HasExactly (package : Package) (token : String) (schema : Schema) : Prop :=
  ∃ object, package.types.get? token = some (.object object) ∧
    PropertyMap.Exactly object.properties schema

/-- If the schema has no `allOf`, the type is an object with exactly its properties. -/
def Schema.MadeInto (schema : Schema) (type : NamedType) : Prop :=
  schema.allOf = [] → ∃ object, type = .object object ∧ object.properties.Exactly schema

theorem Schema.MadeInto.hasExactly {schema : Schema} {type : NamedType} {s s' : Session}
    {token : String} {resolved : Resolved} (made : schema.MadeInto type)
    (puts : s.Puts type token resolved s') (noParts : schema.allOf = []) :
    s'.package.HasExactly token schema := by
  obtain ⟨object, rfl, exactly⟩ := made noParts
  obtain ⟨registered, there, keys⟩ := puts.keeps
  exact ⟨registered, there, fun key => (keys key).trans (exactly key)⟩

namespace Infer

variable {α β : Type} {task : InferenceTask} {resolve : Resolver} {scope : Scope} {parent : String}
  {s : Session}

/-- A fold that puts one entry for each item into a map puts in no others. -/
theorem foldlM_inserts {f : SortedMap β → α → Infer (SortedMap β)} {key : α → String}
    (step : ∀ m a s, Ends (f m a) s (fun grown _ => ∃ value, grown = m.insert (key a) value)
      fun _ _ => True) (items : List α) :
    ∀ m s, Ends (items.foldlM f m) s (fun grown _ => ∀ k, grown.contains k = true ↔
      (∃ a ∈ items, key a = k) ∨ m.contains k = true) fun _ _ => True := by
  induction items with
  | nil => exact fun m s => by simp [ends_pure]
  | cons a rest ih =>
      intro m s
      rw [List.foldlM_cons]
      refine ends_bind.2 ((step m a s).imp ?_)
      rintro _ s₁ ⟨value, rfl⟩
      refine (ih (m.insert (key a) value) s₁).imp fun grown _ keys k => ?_
      rw [keys k, SortedMap.contains_insert]
      simp only [List.mem_cons, exists_eq_or_imp, eq_comm (a := k)]
      rw [or_left_comm, or_assoc]

theorem addProperty_inserts (m : PropertyMap) (entry : String × SchemaOrRef) (s : Session) :
    Ends (addProperty task resolve scope parent m entry) s
      (fun grown _ => ∃ property, grown = m.insert (Naming.sdkName entry.1) property)
      fun _ _ => True := by
  unfold addProperty
  dsimp only
  generalize Naming.sdkName entry.1 = sdk
  refine .after fun found s₁ => .after fun _ s₂ => .after fun type s₃ => ?_
  exact ⟨_, rfl⟩

/-- The members of an object without an `allOf` are those of its properties. -/
theorem objectMembers_exact {schema : Schema} (noParts : schema.allOf = []) :
    Ends (objectMembers task resolve scope parent schema) s
      (fun members _ => members.properties.Exactly schema) fun _ _ => True := by
  unfold objectMembers
  dsimp only
  refine ends_bind.2 ((foldlM_inserts addProperty_inserts _ ∅ s).imp fun properties s₁ keys => ?_)
  have nothing : mergedMembers task resolve scope parent [] = pure {} := rfl
  rw [noParts, nothing, pure_bind]
  refine .after fun required s₂ => .after fun _ s₃ => ends_pure.2 fun key => ?_
  change properties.contains key = true ↔ _
  rw [keys key]
  constructor
  · rintro (⟨entry, member, same⟩ | none)
    · exact ⟨entry, SortedMap.mem_of_mem_ofList member, same⟩
    · cases none
  · rintro ⟨⟨wire, part⟩, member, same⟩
    obtain ⟨last, listed⟩ := SortedMap.exists_mem_ofList member
    exact .inl ⟨_, listed, same⟩

theorem objectType_exact {schema : Schema} :
    Ends (objectType task resolve scope parent schema) s (fun type _ => schema.MadeInto type)
      fun _ _ => True := by
  by_cases noParts : schema.allOf = []
  · exact ends_bind.2 ((objectMembers_exact noParts).imp fun _ _ exactly _ => ⟨_, rfl, exactly⟩)
  · exact Ends.any.imp fun _ _ _ none => absurd none noParts

end Infer

/-! ## Frames -/

namespace Session

/-- Every type of the first session is in the second one, unchanged. -/
def Keeps (s s' : Session) : Prop :=
  ∀ token type, s.package.types.get? token = some type → s'.package.types.get? token = some type

/-- A result that is called new is a token that had no type before and has one now. -/
def NewSince (s s' : Session) (resolved : Resolved) : Prop :=
  resolved.isNew = true → ∃ token, resolved.type = .named token ∧
    s.package.types.get? token = none ∧ s'.package.types.contains token = true

variable {s s' s'' : Session}

theorem Keeps.free {token : String} (h : s.Keeps s')
    (free : s'.package.types.get? token = none) : s.package.types.get? token = none := by
  cases before : s.package.types.get? token with
  | none => rfl
  | some type =>
      rw [h token type before] at free
      cases free

theorem Keeps.withType {token : String} {type : NamedType} (h : s.Keeps s')
    (free : s'.package.types.get? token = none) : s.Keeps (s'.withType token type) := by
  intro other registered before
  rw [get?_withType]
  split
  · rename_i same
    have taken := h other registered before
    rw [same, free] at taken
    cases taken
  · exact h other registered before

theorem Keeps.dropping {token : String} (h : s.Keeps s')
    (free : s.package.types.get? token = none) : s.Keeps (s'.dropping token) := by
  intro other registered before
  rw [get?_dropping]
  split
  · rename_i same
    rw [same, free] at before
    cases before
  · exact h other registered before

theorem NewSince.of_later {resolved : Resolved} (h : s'.NewSince s'' resolved)
    (later : s.Keeps s') : s.NewSince s'' resolved := by
  intro isNew
  obtain ⟨token, named, free, registered⟩ := h isNew
  exact ⟨token, named, later.free free, registered⟩

theorem NewSince.of_not {resolved : Resolved} (h : resolved.isNew = false) :
    s.NewSince s' resolved := by
  intro isNew
  rw [h] at isNew
  cases isNew

end Session

/-- The course on which registered types stay as they are. -/
def Course.keeping : Course where
  rel := Session.Keeps
  breaks := Session.Keeps
  refl _ _ _ := id
  trans first second token type before := second token type (first token type before)
  breaksOff := id
  breaksLater first second token type before := second token type (first token type before)

/-- The finds whose types may be asked for. All that is looked up in the document is among them. -/
structure Finds (d : Document) where
  allows : Lookup.Found → Prop
  located : ∀ {part found}, Lookup.schema d part = .ok found → allows found
  byName : ∀ {reference found}, Lookup.schemaByName d reference = .ok found → allows found

def Finds.all (d : Document) : Finds d where
  allows _ := True
  located _ := trivial
  byName _ := trivial

def Finds.inside (d : Document) : Finds d where
  allows found := found.LiesIn d
  located := Lookup.schema_liesIn
  byName := Lookup.schemaByName_liesIn

/-- A course that all steps of giving a type stay on, and what is known when they are taken. -/
structure Frame (task : InferenceTask) extends Course, Finds task.document where
  /-- What is known of a find when its type has been given. -/
  done : Lookup.Found → Session → Prop
  /-- What is known of a wire name when it has been recorded. -/
  named : String → Session → Prop
  doneLasts : ∀ {found s s'}, rel s s' → done found s → done found s'
  namedLasts : ∀ {wire s s'}, rel s s' → named wire s → named wire s'
  registers : ∀ {s token} type, s.package.types.get? token = none → rel s (s.withType token type)
  forms : ∀ {s required members},
    (∀ wire ∈ required, Naming.sdkName wire ∈ members → named wire s) →
      rel s (s.noted (.formed required members))
  merges : ∀ s token, rel s (s.noted (.merged token))
  drops : ∀ s token, rel s (s.dropping token)
  records : ∀ s wire, toCourse.Runs (Infer.recordName wire (Naming.sdkName wire)) s fun _ =>
    named wire
  pathParameters : ∀ s pathParameters,
    rel s { s with metadata := { s.metadata with pathParameters } }
  autoNames : ∀ s autoNames, rel s { s with metadata := { s.metadata with autoNames } }
  finishes : ∀ {found s}, found.Covered task.document (done · s) (named · s) → done found s
  refers : ∀ s component token, rel s (s.noted (.referred component token))
  builds : ∀ {s s' component token schema}, allows ⟨some component, schema⟩ →
    rel ((s.noted (.referred component token)).entering token) s' →
      s'.package.types.contains token = true →
        schema.Covered task.document (done · s') (named · s') →
          (schema.allOf = [] → s'.package.HasExactly token schema) →
            rel s (s'.noted (.left token))
  breaksBuilding : ∀ {s s' component token},
    breaks ((s.noted (.referred component token)).entering token) s' → breaks s s'

namespace Frame

variable {task : InferenceTask} (F : Frame task)

/-- The course of the frame on which registered types stay as they are. -/
def course : Course := F.toCourse.both .keeping

/-- The function for the schemas inside stays on the course, and what it is asked for is done. -/
def Serves (resolve : Resolver) : Prop :=
  ∀ scope parent found s, F.allows found → F.course.Runs (resolve scope parent found) s
    fun resolved s' => s.NewSince s' resolved ∧ F.done found s'

variable {F} {α β : Type} {s : Session}

/-- What only writes to the tables beside the package keeps the types. -/
theorem runs_of_writesTables {x : Infer α} {post : α → Session → Prop}
    (writes : Infer.WritesTables x) (h : F.toCourse.Runs x s post) : F.course.Runs x s post := by
  refine ⟨(h.ends.and (writes.ends s)).mono ?_ ?_⟩
  · rintro _ _ ⟨⟨later, holds⟩, ⟨_, rfl⟩⟩
    exact ⟨⟨later, fun _ _ => id⟩, holds⟩
  · rintro _ _ ⟨broken, ⟨⟨_, rfl⟩, -⟩⟩
    exact ⟨broken, fun _ _ => id⟩

theorem recordName_runs (wire : String) :
    F.course.Runs (Infer.recordName wire (Naming.sdkName wire)) s fun _ => F.named wire :=
  runs_of_writesTables (Infer.recordName_writesTables ..) (F.records s wire)

theorem recordPathParameter_runs (wire : String) :
    F.course.Runs (Infer.recordPathParameter wire (Naming.sdkName wire)) s fun _ =>
      F.named wire := by
  have records := fun s => recordName_runs (F := F) (s := s) wire
  generalize Naming.sdkName wire = sdk at records ⊢
  unfold Infer.recordPathParameter
  split
  · rename_i same
    have nothing := records s
    rwa [Infer.recordName, if_pos same] at nothing
  · refine (records s).bind fun _ s₁ _ named => Course.Runs.get.bind fun _ s₂ later₂ _ => ?_
    refine (Course.Runs.reads (Infer.assignName_reads ..)).bind fun table s₃ later₃ _ => ?_
    have later := F.trans later₂.1 later₃.1
    exact ⟨⟨F.pathParameters s₃ table, fun _ _ => id⟩,
      F.namedLasts (F.trans later (F.pathParameters s₃ table)) named⟩

theorem setAutoName_runs {token property : String} :
    F.course.Runs (Infer.setAutoName token property) s fun _ _ => True := by
  unfold Infer.setAutoName
  refine Course.Runs.get.bind fun _ s₁ _ _ => ?_
  split
  · exact ⟨⟨F.autoNames s₁ _, fun _ _ => id⟩, trivial⟩
  · exact .throw

/-! ## Registering and taking -/

theorem puts_runs {type : NamedType} {token : String} {resolved : Resolved} {s' : Session}
    (h : s.Puts type token resolved s') : F.course.rel s s' ∧ s.NewSince s' resolved := by
  cases h with
  | new free =>
      refine ⟨⟨F.registers type free, Session.Keeps.withType (fun _ _ => id) free⟩, fun _ => ?_⟩
      refine ⟨token, rfl, free, (SortedMap.contains_iff ..).2 ⟨type, ?_⟩⟩
      simp [Session.get?_withType]
  | found taken _ => exact ⟨F.course.refl s, .of_not rfl⟩

theorem registerGenerated_runs {scope : Scope} {name : String} {type : NamedType} :
    F.course.Runs (Infer.registerGenerated task scope name type) s fun resolved s' =>
      s.NewSince s' resolved := by
  refine ⟨(Infer.registerGenerated_ends task scope name type s).mono ?_ ?_⟩
  · rintro resolved s' ⟨token, puts⟩
    exact puts_runs puts
  · rintro e s' ⟨rfl, -⟩
    exact F.course.breaks_refl _

/-- A type that is taken and dropped again was registered by the step that it is taken from. -/
theorem take_runs {x : Infer Resolved} {known : Session → Prop}
    (lasts : ∀ {s s'}, F.rel s s' → known s → known s')
    (runs : F.course.Runs x s fun resolved s' => s.NewSince s' resolved ∧ known s') :
    F.course.Runs (x >>= Infer.takeObject) s fun _ => known := by
  refine ⟨Infer.ends_bind.2 (runs.ends.imp fun resolved s₁ ⟨⟨later, keeps⟩, new, holds⟩ => ?_)⟩
  rw [Infer.ends_takeObject]
  cases named : resolved.type.token? with
  | none => exact ⟨⟨later, keeps⟩, holds⟩
  | some token =>
      have merged := F.merges s₁ token
      dsimp only
      split
      · rename_i isNew
        -- What is called new was registered by `x` itself, so `s` loses nothing when it is dropped.
        obtain ⟨registered, isToken, free, -⟩ := new isNew
        obtain rfl : registered = token := by
          rw [isToken] at named
          exact Option.some.inj named
        have dropped := F.trans merged (F.drops (s₁.noted (.merged registered)) registered)
        have kept : s.Keeps (s₁.noted (.merged registered)) := keeps
        exact ⟨⟨F.trans later dropped, kept.dropping free⟩, lasts dropped holds⟩
      · exact ⟨⟨F.trans later merged, keeps⟩, lasts merged holds⟩

section

variable {resolve : Resolver} (serves : F.Serves resolve) {scope : Scope} {parent : String}

include serves

/-! ## Members of objects -/

theorem mergePart_runs {members : Members} {part : SchemaOrRef} :
    F.course.Runs (Infer.mergePart task resolve scope parent members part) s fun _ s' =>
      ∀ found, part.Merges task.document found → F.done found s' := by
  unfold Infer.mergePart
  refine Course.Runs.find.bind fun found s₁ _ ⟨_, located⟩ => ?_
  have only : ∀ {other}, part.Merges task.document other → other = found :=
    fun merges => Except.ok.inj (merges.located.symm.trans located)
  split
  · rename_i skipped
    refine .pure fun other merges => ?_
    obtain rfl := only merges
    rw [merges.counts] at skipped
    cases skipped
  · rw [← bind_assoc]
    refine (take_runs F.doneLasts (serves _ _ _ _ (F.located located))).bind
      fun object s₂ _ done => ?_
    have all : ∀ other, part.Merges task.document other → F.done other s₂ := by
      intro other merges
      obtain rfl := only merges
      exact done
    cases object with
    | none => exact .pure all
    | some object => exact .pure all

theorem mergedMembers_runs {parts : List SchemaOrRef} :
    F.course.Runs (Infer.mergedMembers task resolve scope parent parts) s fun _ s' =>
      ∀ part ∈ parts, ∀ found, part.Merges task.document found → F.done found s' := by
  unfold Infer.mergedMembers
  refine .foldlM (fun part s s' later done found merges => ?_) fun part _ members s => ?_
  · exact F.doneLasts later.1 (done found merges)
  · exact mergePart_runs serves

theorem propertyTypeOf_runs {mapName typeName : String} {part : SchemaOrRef} {holder : Lookup.Found}
    (located : Lookup.schema task.document part = .ok holder) :
    F.course.Runs (Infer.propertyTypeOf task resolve scope mapName typeName holder) s fun _ s' =>
      ∀ found, part.Property task.document found → F.done found s' := by
  unfold Infer.propertyTypeOf
  split
  · rename_i values isMap
    refine Course.Runs.find.bind fun found s₁ _ ⟨_, valuesLocated⟩ => ?_
    refine (serves _ _ _ _ (F.located valuesLocated)).bind fun resolved s₂ _ ⟨_, done⟩ => ?_
    refine .pure fun other asks => ?_
    cases asks with
    | plain here noMap =>
        obtain rfl := Except.ok.inj (here.symm.trans located)
        rw [isMap] at noMap
        cases noMap
    | values here isMap' there =>
        obtain rfl := Except.ok.inj (here.symm.trans located)
        obtain rfl := Option.some.inj (isMap.symm.trans isMap')
        obtain rfl := Except.ok.inj (there.symm.trans valuesLocated)
        exact done
  · rename_i noMap
    refine (serves _ _ _ _ (F.located located)).bind fun resolved s₁ _ ⟨_, done⟩ => ?_
    refine .pure fun other asks => ?_
    cases asks with
    | plain here _ =>
        obtain rfl := Except.ok.inj (here.symm.trans located)
        exact done
    | values here isMap _ =>
        obtain rfl := Except.ok.inj (here.symm.trans located)
        rw [isMap] at noMap
        cases noMap

variable (F) in
/-- A property has been added, with all that is needed for it. -/
structure Added (entry : String × SchemaOrRef) (properties : PropertyMap) (s : Session) : Prop where
  present : properties.contains (Naming.sdkName entry.1) = true
  named : F.named entry.1 s
  done : ∀ found, entry.2.Property task.document found → F.done found s

theorem addProperty_runs {properties : PropertyMap} {entry : String × SchemaOrRef} :
    F.course.Runs (Infer.addProperty task resolve scope parent properties entry) s fun grown s' =>
      F.Added entry grown s' ∧ ∀ other, F.Added other properties s → F.Added other grown s' := by
  obtain ⟨wire, part⟩ := entry
  unfold Infer.addProperty
  refine Course.Runs.find.bind fun found s₁ later₁ ⟨_, located⟩ => ?_
  refine (recordName_runs wire).bind fun _ s₂ later₂ named => ?_
  refine (propertyTypeOf_runs serves located).bind fun type s₃ later₃ done => ?_
  refine .pure ⟨⟨?_, F.namedLasts later₃.1 named, done⟩, fun other added => ?_⟩
  · exact (SortedMap.contains_insert ..).2 (.inl rfl)
  · have later := F.trans later₁.1 (F.trans later₂.1 later₃.1)
    refine ⟨(SortedMap.contains_insert ..).2 (.inr added.present),
      F.namedLasts later added.named, fun found asks => F.doneLasts later (added.done found asks)⟩

omit serves in
theorem addRequired_runs {properties : PropertyMap} {required : SortedSet} {wire : String} :
    F.course.Runs (Infer.addRequired properties required wire) s fun _ s' =>
      properties.contains (Naming.sdkName wire) = true → F.named wire s' := by
  unfold Infer.addRequired
  dsimp only
  split
  · refine (recordName_runs wire).bind fun _ s₁ _ named => ?_
    exact .pure fun _ => named
  · rename_i absent
    exact .pure fun present => absurd present absent

omit serves in
theorem requiredNames_runs {properties : PropertyMap} {wires : List String} {required : SortedSet} :
    F.course.Runs (wires.foldlM (Infer.addRequired properties) required) s fun _ s' =>
      ∀ wire ∈ wires, properties.contains (Naming.sdkName wire) = true → F.named wire s' := by
  refine .foldlM (fun wire s s' later named present => ?_) fun wire _ required s => ?_
  · exact F.namedLasts later.1 (named present)
  · exact addRequired_runs

omit serves in
/-- An object is formed when all names have been recorded that must be present and mean a member. -/
theorem formed_runs {members : Members} {wires : List String} :
    F.course.Runs (do
        let required ← wires.foldlM (Infer.addRequired members.properties) members.required
        Infer.note (.formed wires members.properties.keys)
        pure (⟨members.properties, required⟩ : Members)) s
      fun _ s' => ∀ wire ∈ wires,
        members.properties.contains (Naming.sdkName wire) = true → F.named wire s' := by
  refine requiredNames_runs.bind fun required s₁ _ named => ?_
  have forms := F.forms fun wire member present =>
    named wire member ((SortedMap.mem_keys_iff ..).1 present)
  have formed : F.course.Runs (Infer.note (.formed wires members.properties.keys)) s₁
      fun _ _ => True := ⟨⟨forms, fun _ _ => id⟩, trivial⟩
  refine formed.bind fun _ s₂ later₂ _ => .pure fun wire member present => ?_
  exact F.namedLasts later₂.1 (named wire member present)

/-- The members of an object are made with all that is needed for them. -/
theorem objectMembers_runs {schema : Schema} :
    F.course.Runs (Infer.objectMembers task resolve scope parent schema) s fun _ s' =>
      schema.Covered task.document (F.done · s') (F.named · s') := by
  unfold Infer.objectMembers
  dsimp only
  refine (Course.Runs.foldlM_forall fun entry _ properties s => addProperty_runs serves).bind
    fun properties s₁ _ ⟨added, _⟩ => ?_
  refine (mergedMembers_runs serves).bind fun merged s₂ later₂ mergedDone => ?_
  refine formed_runs.imp fun _ s₃ later₃ requiredNamed => ⟨fun wire own => ?_, ?_⟩
  · cases own with
    | property member =>
        obtain ⟨part, listed⟩ := SortedMap.exists_mem_ofList member
        exact F.namedLasts (F.trans later₂.1 later₃.1) (added _ listed).named
    | required member property same =>
        -- The name is recorded only if its SDK name is a key of the members, as the property's is.
        obtain ⟨part, listed⟩ := SortedMap.exists_mem_ofList property
        refine requiredNamed wire member ((SortedMap.contains_union ..).2 (.inr ?_))
        rw [← same]
        exact (added _ listed).present
  · rintro found (⟨member, asks⟩ | ⟨member, merges⟩)
    · exact F.doneLasts (F.trans later₂.1 later₃.1) ((added _ member).done found asks)
    · exact F.doneLasts later₃.1 (mergedDone _ member found merges)

theorem objectType_runs {schema : Schema} :
    F.course.Runs (Infer.objectType task resolve scope parent schema) s fun type s' =>
      schema.Covered task.document (F.done · s') (F.named · s') ∧ schema.MadeInto type := by
  refine Course.Runs.and ?_ Infer.objectType_exact
  exact (objectMembers_runs serves).bind fun _ _ _ covered => .pure covered

/-! ## Schemas without members -/

variable (F) in
/-- The finds that a list of schemas leads to are done. -/
def PartsDone (parts : List SchemaOrRef) (s : Session) : Prop :=
  ∀ part ∈ parts, ∀ found, Lookup.schema task.document part = .ok found → F.done found s

theorem part_runs {part : SchemaOrRef} :
    F.course.Runs (Infer.find task part >>= resolve scope parent) s fun resolved s' =>
      s.NewSince s' resolved ∧ F.PartsDone [part] s' := by
  refine Course.Runs.find.bind fun found s₁ later₁ ⟨same, located⟩ => ?_
  subst same
  refine (serves _ _ _ _ (F.located located)).imp fun resolved s₂ _ ⟨new, done⟩ => ⟨new, ?_⟩
  intro part member other located'
  obtain rfl := List.mem_singleton.1 member
  obtain rfl := Except.ok.inj (located.symm.trans located')
  exact done

theorem variantTypes_runs {parts : List SchemaOrRef} :
    F.course.Runs (Infer.variantTypes task resolve scope parent parts) s fun _ =>
      F.PartsDone parts := by
  unfold Infer.variantTypes
  refine .mapM (fun part s s' later done found located => ?_) fun part _ s => ?_
  · exact F.doneLasts later.1 (done found located)
  · rw [← bind_assoc]
    refine (part_runs serves).bind fun resolved s₁ _ ⟨_, done⟩ => .pure ?_
    exact done part List.mem_cons_self

theorem unionType_runs {schema : Schema} :
    F.course.Runs (Infer.unionType task resolve scope parent schema) s fun resolved s' =>
      s.NewSince s' resolved ∧ F.PartsDone schema.oneOf s' :=
  (variantTypes_runs serves).bind fun _ _ _ done => .pure ⟨.of_not rfl, done⟩

theorem mapType_runs {schema : Schema} :
    F.course.Runs (Infer.mapType task resolve scope parent schema) s fun _ =>
      F.PartsDone schema.valueSchemas := by
  unfold Infer.mapType
  split
  · rename_i values isMap
    have parts : schema.valueSchemas = [values] := by simp [Schema.valueSchemas, isMap]
    rw [parts, ← bind_assoc]
    exact (part_runs serves).bind fun _ _ _ done => .pure done.2
  · rename_i noMap
    have parts : schema.valueSchemas = [] := by
      unfold Schema.valueSchemas
      split
      · rename_i isMap
        exact (noMap _ isMap).elim
      · rfl
    rw [parts]
    exact .pure (by simp [PartsDone])

theorem arrayType_runs {schema : Schema} :
    F.course.Runs (Infer.arrayType task resolve scope parent schema) s fun _ =>
      F.PartsDone schema.items.toList := by
  unfold Infer.arrayType
  split
  · rename_i items isItems
    rw [isItems, ← bind_assoc]
    exact (part_runs serves).bind fun _ _ _ done => .pure done.2
  · rename_i none
    rw [none]
    exact .pure (by simp [PartsDone])

theorem declaredType_runs {schema : Schema} (type : SchemaType) :
    F.course.Runs (Infer.declaredType task resolve scope parent schema type) s fun _ =>
      F.PartsDone (schema.declaredParts type) := by
  cases type with
  | object => exact mapType_runs serves
  | array => exact arrayType_runs serves
  | null => exact .throw
  | integer | string | boolean | number => exact .pure (by simp [PartsDone, Schema.declaredParts])

theorem unnamedType_runs {schema : Schema} :
    F.course.Runs (Infer.unnamedType task resolve scope parent schema) s fun resolved s' =>
      s.NewSince s' resolved ∧ F.PartsDone schema.unnamedParts s' := by
  unfold Infer.unnamedType
  split
  · rename_i first second rest alternatives
    have parts : schema.unnamedParts = first :: second :: rest := by
      simp [Schema.unnamedParts, alternatives]
    rw [parts]
    exact (variantTypes_runs serves).bind fun _ _ _ done => .pure ⟨.of_not rfl, done⟩
  · rename_i type typed noAlternatives
    have parts : schema.unnamedParts = schema.declaredParts type := by
      unfold Schema.unnamedParts
      split
      · rename_i alternatives
        exact (noAlternatives _ _ _ alternatives).elim
      · rename_i typed' _
        rw [Option.some.inj (typed.symm.trans typed')]
      · rename_i untyped
        cases typed.symm.trans untyped
      · rename_i untyped
        cases typed.symm.trans untyped
    rw [parts]
    exact (declaredType_runs serves _).bind fun _ _ _ done => .pure ⟨.of_not rfl, done⟩
  · rename_i only alternatives untyped
    have parts : schema.unnamedParts = [only] := by
      simp [Schema.unnamedParts, alternatives, untyped]
    rw [parts]
    exact part_runs serves
  · exact .throw

/-! ## Enums -/

omit serves in
theorem enumType_runs {schema : Schema} :
    F.course.Runs (Infer.enumType task scope parent schema) s fun found s' =>
      ∀ resolved, found = some resolved → s.NewSince s' resolved ∧ schema.EnumTyped := by
  have both := (Infer.enumType_ends task scope parent schema s).and
    (Infer.enumType_enumTyped task scope parent schema s)
  refine ⟨both.mono (fun found s' ⟨ends, typed⟩ => ?_) ?_⟩
  · rcases ends with ⟨rfl, rfl⟩ | ⟨resolved, rfl, ⟨token, enum, puts⟩ | ⟨_, _, _, rfl, rfl⟩⟩
    · exact ⟨F.course.refl _, by simp⟩
    · obtain ⟨later, new⟩ := puts_runs puts
      refine ⟨later, ?_⟩
      rintro _ ⟨⟩
      exact ⟨new, typed _ rfl⟩
    · refine ⟨F.course.refl _, ?_⟩
      rintro _ ⟨⟩
      exact ⟨.of_not rfl, typed _ rfl⟩
  · rintro e s' ⟨rfl, -⟩
    exact F.course.breaks_refl _

omit serves in
/-- Where an enum is found, enums are made for the schema. -/
theorem enumOrNone_runs {schema : Schema} :
    F.course.Runs (Infer.enumOrNone task scope parent schema) s fun found s' =>
      ∀ resolved, found = some resolved → s.NewSince s' resolved ∧ schema.makesEnum = true := by
  unfold Infer.enumOrNone
  split
  · exact .pure (by simp)
  · rename_i hasEnum
    refine ⟨Infer.ends_tryCatch.2 ?_⟩
    have kept : Infer.Ends (Infer.enumType task scope parent schema) s (fun _ _ => True)
        fun _ s' => s' = s :=
      (Infer.enumType_ends task scope parent schema s).imp fun _ _ _ => trivial
    refine ((enumType_runs (F := F)).ends.and kept).mono (fun found s' ⟨⟨later, made⟩, _⟩ => ?_) ?_
    · refine ⟨later, fun resolved isSome => ?_⟩
      obtain ⟨new, typed⟩ := made resolved isSome
      exact ⟨new, Schema.makesEnum_of hasEnum typed⟩
    · rintro e s' ⟨-, rfl⟩
      split
      · exact ⟨F.course.refl _, by simp⟩
      · exact F.course.breaks_refl _

/-! ## Schemas -/

theorem inlineType_runs {found : Lookup.Found} (inline : found.shape = found.schema.inlineShape) :
    F.course.Runs (Infer.inlineType task resolve scope parent found.schema) s fun resolved s' =>
      s.NewSince s' resolved ∧ found.Covered task.document (F.done · s') (F.named · s') := by
  unfold Infer.inlineType
  unfold Schema.inlineShape at inline
  split
  · rename_i properties
    rw [if_pos properties] at inline
    refine (objectType_runs serves).bind fun type s₁ later₁ ⟨covered, _⟩ => ?_
    refine registerGenerated_runs.imp fun resolved s₂ later₂ new => ⟨new.of_later later₁.2, ?_⟩
    exact .of_object inline
      (covered.imp (fun _ => F.doneLasts later₂.1) fun _ => F.namedLasts later₂.1)
  · rename_i properties
    rw [if_neg properties] at inline
    split
    · rename_i oneOf
      rw [if_pos oneOf] at inline
      exact (unionType_runs serves).imp fun _ _ _ ⟨new, done⟩ => ⟨new, .of_parts inline done⟩
    · rename_i oneOf
      rw [if_neg oneOf] at inline
      split
      · rename_i allOf
        rw [if_pos allOf] at inline
        refine (mergedMembers_runs serves).bind fun members s₁ later₁ merged => ?_
        refine registerGenerated_runs.imp fun resolved s₂ later₂ new => ⟨new.of_later later₁.2, ?_⟩
        exact .of_merged inline fun part member inner merges =>
          F.doneLasts later₂.1 (merged part member inner merges)
      · rename_i allOf
        rw [if_neg allOf] at inline
        refine enumOrNone_runs.bind fun enum s₁ later₁ made => ?_
        cases enum with
        | some resolved =>
            obtain ⟨new, makesEnum⟩ := made resolved rfl
            rw [if_pos makesEnum] at inline
            exact .pure ⟨new, .of_parts inline (by simp)⟩
        | none =>
            refine (unnamedType_runs serves).imp fun resolved s₂ _ ⟨new, done⟩ =>
              ⟨new.of_later later₁.2, ?_⟩
            split at inline
            · exact .of_parts inline (by simp)
            · exact .of_parts inline done

theorem enterComponent_runs {component : String} {schema : Schema}
    (allowed : F.allows ⟨some component, schema⟩) :
    F.course.Runs (Infer.enterComponent task resolve scope component schema) s fun resolved s' =>
      s.NewSince s' resolved := by
  obtain ⟨token, isToken⟩ :
      ∃ token, task.token scope.module (Naming.pascalCase component) = token := ⟨_, rfl⟩
  refine ⟨(Infer.ends_enterComponent isToken).2 ?_⟩
  split
  · exact ⟨⟨F.refers .., fun _ _ => id⟩, .of_not rfl⟩
  · rw [Infer.ends_buildComponent isToken]
    -- The members are made while the mark is on; `F.builds` tells what the whole comes to.
    refine (objectType_runs serves).ends.mono (fun type s₁ ⟨later₁, covered, made⟩ => ?_) ?_
    · have kept : s.Keeps s₁ := later₁.2
      refine (Infer.registerComponent_ends token type s₁).mono (fun resolved s₂ puts => ?_) ?_
      · obtain ⟨later₂, new⟩ := puts_runs puts
        have covered₂ := covered.imp (fun _ => F.doneLasts later₂.1) fun _ => F.namedLasts later₂.1
        obtain ⟨registered, there, -⟩ := puts.registered
        have built := F.builds allowed (F.trans later₁.1 later₂.1)
          ((SortedMap.contains_iff ..).2 ⟨registered, there⟩) covered₂ (made.hasExactly puts)
        exact ⟨⟨built, fun other type before => later₂.2 other type (kept other type before)⟩,
          new.of_later kept⟩
      · rintro e s₂ ⟨rfl, -⟩
        exact ⟨F.breaksBuilding (F.breaksOff later₁.1), kept⟩
    · rintro e s₁ ⟨broken, kept⟩
      exact ⟨F.breaksBuilding broken, kept⟩

theorem componentType_runs {component : String} {found : Lookup.Found}
    (named : found.name = some component) (allowed : F.allows found)
    (shape : found.shape = found.schema.componentShape) :
    F.course.Runs (Infer.componentType task resolve scope parent component found.schema) s
      fun resolved s' => s.NewSince s' resolved ∧
        found.Covered task.document (F.done · s') (F.named · s') := by
  have enters (isComponent : found.shape = .component) :
      F.course.Runs (Infer.enterComponent task resolve scope component found.schema) s
        fun resolved s' => s.NewSince s' resolved ∧
          found.Covered task.document (F.done · s') (F.named · s') := by
    refine (enterComponent_runs serves ?_).imp fun _ _ _ new => ⟨new, .of_component isComponent⟩
    rwa [← named]
  unfold Infer.componentType
  unfold Schema.componentShape at shape
  dsimp only
  split
  · rename_i noMembers
    rw [if_pos noMembers] at shape
    split
    · rename_i oneOf
      rw [if_pos oneOf] at shape
      exact (unionType_runs serves).imp fun _ _ _ ⟨new, done⟩ => ⟨new, .of_parts shape done⟩
    · rename_i oneOf
      rw [if_neg oneOf] at shape
      split
      · rename_i unnamed
        rw [if_pos unnamed] at shape
        exact (unnamedType_runs serves).imp fun _ _ _ ⟨new, done⟩ => ⟨new, .of_parts shape done⟩
      · rename_i entered
        rw [if_neg entered] at shape
        exact enters shape
  · rename_i members
    rw [if_neg members] at shape
    exact enters shape

/-- Giving a find its type stays on the course, and asks for all that it has to ask for. -/
theorem typeOf_runs {found : Lookup.Found} (allowed : F.allows found) :
    F.course.Runs (Infer.typeOf task resolve scope parent found) s fun resolved s' =>
      s.NewSince s' resolved ∧ F.done found s' := by
  have covers : F.course.Runs (Infer.typeOf task resolve scope parent found) s fun resolved s' =>
      s.NewSince s' resolved ∧ found.Covered task.document (F.done · s') (F.named · s') := by
    unfold Infer.typeOf
    split
    · rename_i component named
      split
      · rename_i inline
        refine inlineType_runs serves ?_
        simp only [Lookup.Found.shape, named, if_pos inline]
      · rename_i notInline
        refine componentType_runs serves named allowed ?_
        simp only [Lookup.Found.shape, named, if_neg notInline]
    · rename_i unnamed
      refine inlineType_runs serves ?_
      simp only [Lookup.Found.shape, unnamed]
  exact covers.imp fun _ _ _ ⟨new, covered⟩ => ⟨new, F.finishes covered⟩

end

theorem resolver_serves (F : Frame task) (depth : Nat) : F.Serves (Infer.resolver task depth) := by
  induction depth with
  | zero => exact fun _ _ _ _ _ => .throw
  | succ depth ih => exact fun _ _ _ _ allowed => typeOf_runs ih allowed

theorem propertyType_serves (F : Frame task) : F.Serves (Infer.propertyType task) :=
  fun _ _ _ _ allowed => resolver_serves F _ _ _ _ _ allowed

end Frame

end ResourceInference
