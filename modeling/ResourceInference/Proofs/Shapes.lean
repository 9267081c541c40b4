import ResourceInference.Proofs.Bodies
import ResourceInference.Proofs.Outcomes

/-!
# Shapes of what is made

Object types, resources and functions carry lists of names beside their properties. The names that
must be present are listed in strictly ascending order, and each is the name of a property
(`PropertyMap.Lists`); what can be set on a resource is also shown, as long as no path parameters
have been added to it (`ResourceSpec.Shaped`).

Required names are collected by other loops than properties, so this is an invariant of those loops:
of the members of an object (`Members.Shaped`), of a resource under construction
(`ResourceDraft.Shaped`), and of the table of types, since a merge takes its members from there
(`Session.Shaped`). That the names of the request that must be set can be set needs more of the
first loop than the shape of what it makes: it takes in every property that is not read-only
(`ResourceDraft.Takes`).
-/

set_option autoImplicit false

namespace ResourceInference

/-! ## Shapes -/

/-- The names are in strictly ascending order, and the properties have each of them. -/
structure PropertyMap.Lists (properties : PropertyMap) (names : List String) : Prop where
  ascending : names.Pairwise (· < ·)
  present : ∀ name ∈ names, properties.contains name = true

theorem PropertyMap.Lists.of_keys {properties : PropertyMap} {names : SortedSet}
    (present : ∀ name, names.contains name = true → properties.contains name = true) :
    PropertyMap.Lists properties names.keys :=
  ⟨names.pairwise_keys, fun name member => present name ((names.mem_keys_iff name).1 member)⟩

/-- The names that must be present are names of properties, in strictly ascending order. -/
def ObjectType.Shaped (o : ObjectType) : Prop := PropertyMap.Lists o.properties o.required

/-- The type is shaped, if it is an object type. -/
def NamedType.Shaped (type : NamedType) : Prop := ∀ o, type.object? = some o → o.Shaped

/-- The object types among the inputs and the result of a function are shaped. -/
structure FunctionSpec.Shaped (f : FunctionSpec) : Prop where
  inputs : ∀ o, f.inputs = some o → o.Shaped
  result : ∀ o, f.result = some (.object o) → o.Shaped

/-- The names that are always shown, or that must be set, are names of properties that are shown, or
that can be set, and both are in strictly ascending order. What can be set is also shown. -/
structure ResourceSpec.Shaped (r : ResourceSpec) : Prop where
  required : PropertyMap.Lists r.properties r.required
  requiredInputs : PropertyMap.Lists r.inputProperties r.requiredInputs
  shown : ∀ name, r.inputProperties.contains name = true → r.properties.contains name = true

/-- All registered types are shaped. -/
def Session.Shaped (s : Session) : Prop :=
  ∀ token type, s.package.types.get? token = some type → type.Shaped

namespace Session.Shaped

variable {s s' : Session}

theorem of_types (h : s.Shaped) (same : s'.package.types = s.package.types) : s'.Shaped := by
  unfold Shaped
  rw [same]
  exact h

theorem tables (changed : s.OnlyTables s') (h : s.Shaped) : s'.Shaped := by
  obtain ⟨_, rfl⟩ := changed
  exact h

theorem withType {type : NamedType} (h : s.Shaped) (token : String) (shaped : type.Shaped) :
    (s.withType token type).Shaped := by
  intro other held registered
  rw [Session.get?_withType] at registered
  split at registered
  · cases registered
    exact shaped
  · exact h other held registered

theorem dropping (h : s.Shaped) (token : String) : (s.dropping token).Shaped := by
  intro other held registered
  rw [Session.get?_dropping] at registered
  split at registered
  · cases registered
  · exact h other held registered

theorem moving {source : String} {type : NamedType} (h : s.Shaped)
    (registered : s.package.types.get? source = some type) (target : String) :
    (s.moving source target type).Shaped := by
  intro other held found
  rw [Session.get?_moving] at found
  split at found
  · cases found
    exact h source _ registered
  · split at found
    · cases found
    · exact h other held found

theorem puts {type : NamedType} {token : String} {resolved : Resolved} (h : s.Shaped)
    (shaped : type.Shaped) (registers : s.Puts type token resolved s') : s'.Shaped := by
  cases registers with
  | new _ => exact h.withType token shaped
  | found _ _ => exact h

end Session.Shaped

/-! ## Members of objects -/

/-- The names that must be present are names of properties. -/
def Members.Shaped (m : Members) : Prop :=
  ∀ name, m.required.contains name = true → m.properties.contains name = true

namespace Members.Shaped

theorem empty : Members.Shaped {} := fun _ present => by cases present

theorem extend {m other : Members} (h : m.Shaped) (h' : other.Shaped) :
    (m.extend other).Shaped := by
  intro name required
  refine (SortedMap.contains_union ..).2 ?_
  exact ((SortedMap.contains_union ..).1 required).imp (h' name) (h name)

theorem ofObject {o : ObjectType} (h : o.Shaped) : (Members.ofObject o).Shaped := by
  intro name required
  exact h.present name ((SortedSet.contains_ofList ..).1 required)

theorem toObject {m : Members} (h : m.Shaped) (description : Option String) :
    (m.toObject description).Shaped := .of_keys h

end Members.Shaped

theorem NamedType.shaped_enum (e : EnumType) : (NamedType.enum e).Shaped := by
  intro o isObject
  cases isObject

theorem NamedType.shaped_object {o : ObjectType} (h : o.Shaped) : (NamedType.object o).Shaped := by
  intro o' same
  cases same
  exact h

namespace Infer

/-- The step keeps the registered types shaped, and gives what `post` says. -/
abbrev Shapes {α : Type} (x : Infer α) (post : α → Prop) : Prop := Upholds Session.Shaped x post

variable {task : InferenceTask} {scope : Scope} {parent : String}

theorem shapes_of_writesTables {α : Type} {x : Infer α} (writes : WritesTables x) :
    Shapes x fun _ => True := .of_writesTables writes .tables

theorem note_shapes (event : Event) : Shapes (note event) fun _ => True :=
  ⟨fun _ h => ⟨h, trivial⟩⟩

theorem registerGenerated_shapes {name : String} {type : NamedType} (shaped : type.Shaped) :
    Shapes (registerGenerated task scope name type) fun _ => True := by
  refine ⟨fun s h => (registerGenerated_ends task scope name type s).mono ?_ fun _ _ _ => trivial⟩
  intro resolved s' ⟨token, registers⟩
  exact ⟨h.puts shaped registers, trivial⟩

theorem registerComponent_shapes {token : String} {type : NamedType} (shaped : type.Shaped) :
    Shapes (registerComponent token type) fun _ => True := by
  refine ⟨fun s h => (registerComponent_ends token type s).mono ?_ fun _ _ _ => trivial⟩
  intro resolved s' registers
  exact ⟨h.puts shaped registers, trivial⟩

/-- The object type that is taken for a part of an `allOf` comes from the table of types. -/
theorem takeObject_shapes (resolved : Resolved) :
    Shapes (takeObject resolved) fun object => ∀ o, object = some o → o.Shaped := by
  refine ⟨fun s h => ends_takeObject.2 ?_⟩
  cases resolved.type.token? with
  | none => exact ⟨h, by simp⟩
  | some token =>
      have taken : ∀ o, (s.package.types.get? token).bind NamedType.object? = some o →
          o.Shaped := by
        intro o isTaken
        obtain ⟨type, registered, isObject⟩ := Option.bind_eq_some_iff.1 isTaken
        exact h token type registered o isObject
      have noted : (s.noted (.merged token)).Shaped := h
      dsimp only
      split
      · exact ⟨noted.dropping token, taken⟩
      · exact ⟨noted, taken⟩

/-! ## Types of schemas -/

section

variable {resolve : Resolver}
  (inside : ∀ scope parent found, Shapes (resolve scope parent found) fun _ => True)

include inside

theorem mergePart_shapes {members : Members} {part : SchemaOrRef} (h : members.Shaped) :
    Shapes (mergePart task resolve scope parent members part) Members.Shaped := by
  unfold mergePart
  refine Upholds.find.bind fun found _ => ?_
  split
  · exact .pure h
  · refine (inside scope parent found).bind fun resolved _ => ?_
    refine (takeObject_shapes resolved).bind fun object taken => ?_
    cases object with
    | none => exact .pure h
    | some object => exact .pure (h.extend (.ofObject (taken object rfl)))

theorem mergedMembers_shapes {parts : List SchemaOrRef} :
    Shapes (mergedMembers task resolve scope parent parts) Members.Shaped :=
  .foldlM (fun _ _ _ h => mergePart_shapes inside h) .empty

theorem propertyTypeOf_shapes {mapName typeName : String} {found : Lookup.Found} :
    Shapes (propertyTypeOf task resolve scope mapName typeName found) fun _ => True := by
  unfold propertyTypeOf
  split
  · refine Upholds.find.bind fun inner _ => ?_
    exact (inside scope mapName inner).bind fun _ _ => .pure trivial
  · exact (inside scope typeName found).bind fun _ _ => .pure trivial

theorem addProperty_shapes {properties : PropertyMap} {entry : String × SchemaOrRef} :
    Shapes (addProperty task resolve scope parent properties entry) fun _ => True := by
  unfold addProperty
  refine Upholds.find.bind fun found _ => ?_
  refine (shapes_of_writesTables (recordName_writesTables ..)).bind fun _ _ => ?_
  exact (propertyTypeOf_shapes inside).bind fun _ _ => .pure trivial

omit inside in
theorem addRequired_shapes {properties : PropertyMap} {required : SortedSet} {wire : String}
    (h : Members.Shaped ⟨properties, required⟩) :
    Shapes (addRequired properties required wire) fun grown =>
      Members.Shaped ⟨properties, grown⟩ := by
  unfold addRequired
  dsimp only
  split
  · rename_i present
    refine (shapes_of_writesTables (recordName_writesTables ..)).bind fun _ _ => .pure ?_
    intro name required
    rcases (SortedMap.contains_insert ..).1 required with rfl | before
    · exact present
    · exact h name before
  · exact .pure h

theorem objectMembers_shapes {schema : Schema} :
    Shapes (objectMembers task resolve scope parent schema) Members.Shaped := by
  unfold objectMembers
  dsimp only
  have declared : Shapes ((SortedMap.ofList schema.properties).toList.foldlM
      (addProperty task resolve scope parent) ∅) fun _ => True :=
    .foldlM (fun _ _ _ _ => addProperty_shapes inside) trivial
  refine declared.bind fun properties _ => ?_
  refine (mergedMembers_shapes inside).bind fun merged h => ?_
  have both : (Members.extend ⟨properties, ∅⟩ merged).Shaped :=
    Members.Shaped.extend (fun _ present => by cases present) h
  generalize Members.extend ⟨properties, ∅⟩ merged = members at both
  have required : Shapes (schema.required.foldlM (addRequired members.properties)
      members.required) fun required => Members.Shaped ⟨members.properties, required⟩ :=
    .foldlM (fun _ _ _ h => addRequired_shapes h) both
  exact required.bind fun required h => (note_shapes _).bind fun _ _ => .pure h

theorem objectType_shapes {schema : Schema} :
    Shapes (objectType task resolve scope parent schema) NamedType.Shaped :=
  (objectMembers_shapes inside).bind fun _ h => .pure (NamedType.shaped_object (h.toObject _))

theorem variantTypes_shapes {parts : List SchemaOrRef} :
    Shapes (variantTypes task resolve scope parent parts) fun _ => True := by
  have each : Shapes (variantTypes task resolve scope parent parts) fun types =>
      ∀ type ∈ types, True := by
    refine .mapM fun part _ => Upholds.find.bind fun found _ => ?_
    exact (inside scope parent found).bind fun _ _ => .pure trivial
  exact each.imp fun _ _ => trivial

theorem unionType_shapes {schema : Schema} :
    Shapes (unionType task resolve scope parent schema) fun _ => True :=
  (variantTypes_shapes inside).bind fun _ _ => .pure trivial

theorem declaredType_shapes {schema : Schema} (type : SchemaType) :
    Shapes (declaredType task resolve scope parent schema type) fun _ => True := by
  cases type with
  | object =>
      simp only [declaredType, mapType]
      split
      · refine Upholds.find.bind fun found _ => ?_
        exact (inside scope parent found).bind fun _ _ => .pure trivial
      · exact .pure trivial
  | array =>
      simp only [declaredType, arrayType]
      split
      · refine Upholds.find.bind fun found _ => ?_
        exact (inside scope _ found).bind fun _ _ => .pure trivial
      · exact .pure trivial
  | null => exact .throw
  | integer | string | boolean | number => exact .pure trivial

theorem unnamedType_shapes {schema : Schema} :
    Shapes (unnamedType task resolve scope parent schema) fun _ => True := by
  unfold unnamedType
  split
  · exact (variantTypes_shapes inside).bind fun _ _ => .pure trivial
  · exact (declaredType_shapes inside _).bind fun _ _ => .pure trivial
  · exact Upholds.find.bind fun found _ => inside scope parent found
  · exact .throw

omit inside in
theorem enumOrNone_shapes {schema : Schema} :
    Shapes (enumOrNone task scope parent schema) fun _ => True := by
  unfold enumOrNone
  split
  · exact .pure trivial
  · refine ⟨fun s h => ends_tryCatch.2 ((enumType_ends task scope parent schema s).mono ?_ ?_)⟩
    · rintro found s' (⟨-, rfl⟩ | ⟨resolved, -, ⟨token, enum, registers⟩ | ⟨_, _, -, -, rfl⟩⟩)
      · exact ⟨h, trivial⟩
      · exact ⟨h.puts (NamedType.shaped_enum enum) registers, trivial⟩
      · exact ⟨h, trivial⟩
    · rintro e s' rfl
      split
      · exact ⟨h, trivial⟩
      · exact trivial

theorem inlineType_shapes {schema : Schema} :
    Shapes (inlineType task resolve scope parent schema) fun _ => True := by
  unfold inlineType
  split
  · exact (objectType_shapes inside).bind fun _ h => registerGenerated_shapes h
  · split
    · exact unionType_shapes inside
    · split
      · refine (mergedMembers_shapes inside).bind fun members h => ?_
        exact registerGenerated_shapes (NamedType.shaped_object (h.toObject _))
      · refine enumOrNone_shapes.bind fun found _ => ?_
        cases found with
        | some resolved => exact .pure trivial
        | none => exact unnamedType_shapes inside

/-- Marks and the journal have no part in the shape of types. -/
theorem enterComponent_shapes {component : String} {schema : Schema} :
    Shapes (enterComponent task resolve scope component schema) fun _ => True := by
  generalize named : task.token scope.module (Naming.pascalCase component) = token
  refine ⟨fun s h => (ends_enterComponent named).2 ?_⟩
  split
  · exact ⟨h, trivial⟩
  · rw [ends_buildComponent named]
    have entered : ((s.noted (.referred component token)).entering token).Shaped := h
    refine ((objectType_shapes inside).ends _ entered).imp fun type s₁ ⟨h₁, shaped⟩ => ?_
    exact (registerComponent_shapes shaped).ends s₁ h₁

theorem typeOf_shapes (scope : Scope) (parent : String) (found : Lookup.Found) :
    Shapes (typeOf task resolve scope parent found) fun _ => True := by
  unfold typeOf componentType
  split
  · split
    · exact inlineType_shapes inside
    · dsimp only
      split
      · split
        · exact unionType_shapes inside
        · split
          · exact unnamedType_shapes inside
          · exact enterComponent_shapes inside
      · exact enterComponent_shapes inside
  · exact inlineType_shapes inside

end

/-- Giving a schema its type keeps the registered types shaped: by induction on the depth. -/
theorem resolver_shapes (depth : Nat) : ∀ scope parent found,
    Shapes (resolver task depth scope parent found) fun _ => True := by
  induction depth with
  | zero => exact fun _ _ _ => .throw
  | succ depth ih => exact typeOf_shapes ih

theorem propertyType_shapes (scope : Scope) (parent : String) (found : Lookup.Found) :
    Shapes (propertyType task scope parent found) fun _ => True :=
  resolver_shapes _ scope parent found

end Infer

end ResourceInference
