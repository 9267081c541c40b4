import ResourceInference.Proofs.Ends

/-!
# What single functions do to a session

Each function that reads or changes the table of types, the marks or the journal is described once,
by the session it leaves behind. Functions that register a type if none is there have one
description in common (`Session.Puts`), and so have those that write to no more than the tables
beside the package (`Infer.WritesTables`).
-/

set_option autoImplicit false

namespace ResourceInference

/-- The error says that inference would not have come to an end. -/
def InferenceError.IsEndless : InferenceError → Prop
  | .endlessSchema _ => True
  | .endlessEnum _ => True
  | _ => False

/-- The error says that two enums want one token. -/
def InferenceError.IsDuplicateEnum : InferenceError → Prop
  | .duplicateEnum _ _ _ => True
  | _ => False

/-- The error is one of those that only giving a type to a schema may end in. -/
def InferenceError.OfSchemas : InferenceError → Prop
  | .endlessSchema _ => True
  | .endlessEnum _ => True
  | .duplicateEnum _ _ _ => True
  | _ => False

theorem InferenceError.IsEndless.ofSchemas {e : InferenceError} (h : e.IsEndless) :
    e.OfSchemas := by
  cases e <;> trivial

theorem InferenceError.IsDuplicateEnum.ofSchemas {e : InferenceError} (h : e.IsDuplicateEnum) :
    e.OfSchemas := by
  cases e <;> trivial

namespace Session

/-- The session with a type under a token. -/
def withType (s : Session) (token : String) (type : NamedType) : Session :=
  { s with package := { s.package with types := s.package.types.insert token type } }

theorem get?_withType (s : Session) (token other : String) (type : NamedType) :
    (s.withType token type).package.types.get? other =
      if other = token then some type else s.package.types.get? other :=
  SortedMap.get?_insert ..

/-- The session with an event written down. -/
def noted (s : Session) (event : Event) : Session := { s with journal := event :: s.journal }

/-- The session in which a component is under construction. -/
def entering (s : Session) (token : String) : Session :=
  { s with visited := s.visited.add token, journal := .entered token :: s.journal }

/-- The session without the type and the mark of a token. -/
def dropping (s : Session) (token : String) : Session :=
  { s with
    package := { s.package with types := s.package.types.erase token }
    visited := s.visited.erase token
    journal := .dropped token :: s.journal }

theorem get?_dropping (s : Session) (token other : String) :
    (s.dropping token).package.types.get? other =
      if other = token then none else s.package.types.get? other :=
  SortedMap.get?_erase ..

/-- The session in which the type of a token has moved to another one. -/
def moving (s : Session) (source target : String) (type : NamedType) : Session :=
  { s with
    package := { s.package with types := (s.package.types.erase source).insert target type }
    visited := s.visited.erase source
    journal := .moved source target :: s.journal }

theorem get?_moving (s : Session) (source target other : String) (type : NamedType) :
    (s.moving source target type).package.types.get? other =
      if other = target then some type
      else if other = source then none else s.package.types.get? other := by
  simp only [moving, SortedMap.get?_insert, SortedMap.get?_erase]

/-- The session with a resource under a token. -/
def withResource (s : Session) (token : String) (resource : ResourceSpec) : Session :=
  { s with
    package := { s.package with resources := s.package.resources.insert token resource } }

theorem get?_withResource (s : Session) (token other : String) (resource : ResourceSpec) :
    (s.withResource token resource).package.resources.get? other =
      if other = token then some resource else s.package.resources.get? other :=
  SortedMap.get?_insert ..

/-- The session with a function under a token. -/
def withFunction (s : Session) (token : String) (function : FunctionSpec) : Session :=
  { s with
    package := { s.package with functions := s.package.functions.insert token function } }

theorem get?_withFunction (s : Session) (token other : String) (function : FunctionSpec) :
    (s.withFunction token function).package.functions.get? other =
      if other = token then some function else s.package.functions.get? other :=
  SortedMap.get?_insert ..

/-- The second session differs from the first one in the tables beside the package only. -/
def OnlyTables (s s' : Session) : Prop := ∃ metadata, s' = { s with metadata }

theorem OnlyTables.refl (s : Session) : OnlyTables s s := ⟨s.metadata, rfl⟩

theorem OnlyTables.trans {s s' s'' : Session} (first : OnlyTables s s')
    (second : OnlyTables s' s'') : OnlyTables s s'' := by
  obtain ⟨_, rfl⟩ := first
  obtain ⟨metadata, rfl⟩ := second
  exact ⟨metadata, rfl⟩

/-- A type has moved to another token, or only lost its mark, or nothing has changed. -/
inductive Moves (s : Session) : Session → Prop where
  | stays : Moves s s
  | unmarked (source : String) : Moves s { s with visited := s.visited.erase source }
  | moved {source : String} (target : String) {type : NamedType}
      (registered : s.package.types.get? source = some type) :
      Moves s (s.moving source target type)

/-- A type is renamed as what a function of this name lists: it keeps its token, or is moved from
there to the target that the name gives; if nothing is registered under its token, only the mark is
lost. -/
inductive Renames (s : Session) (name : String) : TypeSpec → TypeSpec → Session → Prop where
  | stays {type : TypeSpec} (noTarget : type.token?.bind (listTypeTarget? name) = none) :
      Renames s name type type s
  | unmarked {source target : String} (isTarget : listTypeTarget? name source = some target)
      (free : s.package.types.get? source = none) :
      Renames s name (.named source) (.named target) { s with visited := s.visited.erase source }
  | moved {source target : String} {type : NamedType}
      (isTarget : listTypeTarget? name source = some target)
      (registered : s.package.types.get? source = some type) :
      Renames s name (.named source) (.named target) (s.moving source target type)

/-- A type is registered under a token that was free, or found there. -/
inductive Puts (s : Session) (type : NamedType) (token : String) : Resolved → Session → Prop where
  | new (free : s.package.types.get? token = none) :
      Puts s type token ⟨.named token, true⟩ (s.withType token type)
  | found {existing : NamedType} (taken : s.package.types.get? token = some existing)
      (agrees : existing.same type = true) : Puts s type token ⟨.named token, false⟩ s

theorem Puts.type_eq {s s' : Session} {type : NamedType} {token : String} {resolved : Resolved}
    (h : s.Puts type token resolved s') : resolved.type = .named token := by
  cases h <;> rfl

/-- The type that is registered is the one that was to be put, or agrees with it. -/
theorem Puts.registered {s s' : Session} {type : NamedType} {token : String}
    {resolved : Resolved} (h : s.Puts type token resolved s') :
    ∃ registered, s'.package.types.get? token = some registered ∧
      (registered = type ∨ registered.same type = true) := by
  cases h with
  | new _ => exact ⟨type, by simp [get?_withType], .inl rfl⟩
  | found taken agrees => exact ⟨_, taken, .inr agrees⟩

end Session

/-! ## Single assignment -/

section

variable {κ : Type} {table given : κ → Option String} {key : κ} {value : String}

/-- A key that has a value already is not given another one. -/
theorem held_iff_of_taken (taken : table key = some value) (other : κ) (held : String) :
    table other = some held ↔ other = key ∧ held = value ∨ table other = some held := by
  constructor
  · exact .inr
  · rintro (⟨rfl, rfl⟩ | before)
    · exact taken
    · exact before

/-- A free key that is given a value has it, and the table has nothing new beside it. -/
theorem held_iff_of_free [DecidableEq κ] (free : table key = none)
    (gives : ∀ other, given other = if other = key then some value else table other) (other : κ)
    (held : String) :
    given other = some held ↔ other = key ∧ held = value ∨ table other = some held := by
  rw [gives]
  split
  · rename_i same
    subst same
    simp [free, eq_comm]
  · rename_i ne
    simp [ne]

end

/-! ## Properties of registered objects -/

theorem PropertySpec.map_fst_of_sameEntries {as bs : List (String × PropertySpec)}
    (h : sameEntries as bs = true) : as.map (·.1) = bs.map (·.1) := by
  induction as generalizing bs with
  | nil => cases bs with
    | nil => rfl
    | cons _ _ => cases h
  | cons a as ih => cases bs with
    | nil => cases h
    | cons b bs =>
        simp only [sameEntries, Bool.and_eq_true, decide_eq_true_eq] at h
        rw [List.map_cons, List.map_cons, h.1.1, ih h.2]

theorem SortedMap.contains_iff_mem_map {α : Type} (m : SortedMap α) (key : String) :
    m.contains key = true ↔ key ∈ m.toList.map (·.1) := by
  simp only [contains_iff, ← mem_toList_iff, List.mem_map, Prod.exists, exists_and_right,
    exists_eq_right]

/-- A registered object has the properties of the one that was to be registered, and no others. -/
theorem Session.Puts.keeps {s s' : Session} {object : ObjectType} {token : String}
    {resolved : Resolved} (h : s.Puts (.object object) token resolved s') :
    ∃ registered, s'.package.types.get? token = some (.object registered) ∧
      ∀ key, registered.properties.contains key = true ↔ object.properties.contains key = true := by
  obtain ⟨registered, found, rfl | agrees⟩ := h.registered
  · exact ⟨object, found, fun _ => Iff.rfl⟩
  · cases registered with
    | enum _ => cases agrees
    | object registered =>
        have same : registered.same object = true := agrees
        simp only [ObjectType.same, Bool.and_eq_true] at same
        have keys := PropertySpec.map_fst_of_sameEntries same.1.2
        refine ⟨registered, found, fun key => ?_⟩
        rw [SortedMap.contains_iff_mem_map, keys, SortedMap.contains_iff_mem_map]

/-- The names that a search for an enum tries, from the one that it starts with. -/
inductive EnumSearch.Tries (resource : String) : String → String → Prop where
  | here {name : String} : Tries resource name name
  | suffixed {name tried : String} (later : Tries resource (name ++ "Enum") tried) :
      Tries resource name tried
  | qualified {name tried : String} (later : Tries resource (resource ++ name) tried) :
      Tries resource name tried

namespace Infer

variable {s : Session} {fail : InferenceError → Session → Prop}

/-! ## Types, marks and the journal -/

@[simp]
theorem ends_type? {token : String} {post : Option NamedType → Session → Prop} :
    Ends (type? token) s post fail ↔ post (s.package.types.get? token) s := Iff.rfl

@[simp]
theorem ends_isVisited {token : String} {post : Bool → Session → Prop} :
    Ends (isVisited token) s post fail ↔ post (s.visited.contains token) s := Iff.rfl

@[simp]
theorem ends_note {event : Event} {post : Unit → Session → Prop} :
    Ends (note event) s post fail ↔ post () (s.noted event) := Iff.rfl

theorem ends_register {token : String} {type : NamedType} {post : Bool → Session → Prop}
    (free : s.package.types.get? token = none) :
    Ends (register token type) s post fail ↔ post true (s.withType token type) := by
  have absent : s.package.types.contains token = false := by
    rwa [← SortedMap.get?_eq_none_iff]
  simp only [register, ends_bind, ends_get, absent]
  exact Iff.rfl

theorem ends_register_of_taken {token : String} {type existing : NamedType}
    {post : Bool → Session → Prop} (taken : s.package.types.get? token = some existing) :
    Ends (register token type) s post fail ↔ post false s := by
  have present : s.package.types.contains token = true :=
    (SortedMap.contains_iff ..).2 ⟨existing, taken⟩
  simp only [register, ends_bind, ends_get, present]
  exact Iff.rfl

theorem ends_removeType {token : String} {post : Unit → Session → Prop} :
    Ends (removeType token) s post fail ↔ post () (s.dropping token) := by
  simp only [removeType, ends_bind]
  exact Iff.rfl

theorem ends_moveType {source target : String} {type : NamedType} {post : Unit → Session → Prop}
    (registered : s.package.types.get? source = some type) :
    Ends (moveType source target) s post fail ↔ post () (s.moving source target type) := by
  have unmarked : ∀ t, Ends (unmarkVisited source) s t fail ↔
      t () { s with visited := s.visited.erase source } := fun _ => Iff.rfl
  simp only [moveType, ends_bind, unmarked, ends_type?, registered]
  exact Iff.rfl

theorem ends_moveType_of_none {source target : String} {post : Unit → Session → Prop}
    (free : s.package.types.get? source = none) :
    Ends (moveType source target) s post fail ↔
      post () { s with visited := s.visited.erase source } := by
  have unmarked : ∀ t, Ends (unmarkVisited source) s t fail ↔
      t () { s with visited := s.visited.erase source } := fun _ => Iff.rfl
  simp only [moveType, ends_bind, unmarked, ends_type?, free]
  exact Iff.rfl

@[simp]
theorem ends_putResource {token : String} {resource : ResourceSpec}
    {post : Unit → Session → Prop} :
    Ends (putResource token resource) s post fail ↔ post () (s.withResource token resource) :=
  Iff.rfl

@[simp]
theorem ends_putFunction {token : String} {function : FunctionSpec}
    {post : Unit → Session → Prop} :
    Ends (putFunction token function) s post fail ↔ post () (s.withFunction token function) :=
  Iff.rfl

/-! ## Registering -/

theorem registerComponent_ends (token : String) (type : NamedType) (s : Session) :
    Ends (registerComponent token type) s (s.Puts type token)
      fun e s' => s' = s ∧ e = .typeConflict token := by
  simp only [registerComponent, ends_bind, ends_type?]
  cases taken : s.package.types.get? token with
  | none =>
      simp only [ends_bind, ends_register taken]
      exact .new taken
  | some existing =>
      dsimp only
      split
      · rename_i agrees
        exact .found taken agrees
      · exact ⟨rfl, rfl⟩

/-- A type is registered under its name, or under the name with the resource in front of it. -/
theorem registerGenerated_puts (task : InferenceTask) (scope : Scope) (name : String)
    (type : NamedType) (s : Session) :
    Ends (registerGenerated task scope name type) s
      (fun resolved s' => ∃ full, (full = name ∨ full = scope.resource ++ name) ∧
        s.Puts type (task.token scope.module full) resolved s')
      fun e s' => s' = s ∧ ∃ token, e = .typeConflict token := by
  simp only [registerGenerated, ends_bind, ends_type?]
  cases taken : s.package.types.get? (task.token scope.module name) with
  | none =>
      simp only [ends_bind, ends_register taken]
      exact ⟨name, .inl rfl, .new taken⟩
  | some existing =>
      dsimp only
      split
      · rename_i agrees
        exact ⟨name, .inl rfl, .found taken agrees⟩
      · simp only [ends_bind, ends_type?]
        cases qualifiedTaken :
            s.package.types.get? (task.token scope.module (scope.resource ++ name)) with
        | none =>
            simp only [ends_bind, ends_register qualifiedTaken]
            exact ⟨_, .inr rfl, .new qualifiedTaken⟩
        | some existing =>
            dsimp only
            split
            · rename_i agrees
              exact ⟨_, .inr rfl, .found qualifiedTaken agrees⟩
            · exact ⟨rfl, _, rfl⟩

theorem registerGenerated_ends (task : InferenceTask) (scope : Scope) (name : String)
    (type : NamedType) (s : Session) :
    Ends (registerGenerated task scope name type) s
      (fun resolved s' => ∃ token, s.Puts type token resolved s')
      fun e s' => s' = s ∧ ∃ token, e = .typeConflict token :=
  (registerGenerated_puts task scope name type s).imp fun _ _ ⟨_, _, puts⟩ => ⟨_, puts⟩

/-- A search for an enum registers it or finds it, under the type name of a name that it tries, or
leaves the session alone. -/
theorem search_puts (task : InferenceTask) (scope : Scope) (schema : Schema) (s : Session) :
    ∀ (bound : Nat) (name : String), Ends (EnumSearch.search task scope schema name bound) s
      (fun found s' => (found = none ∧ s' = s) ∨
        ∃ resolved tried, found = some resolved ∧ EnumSearch.Tries scope.resource name tried ∧
          ((∃ enum, s.Puts (.enum enum) (task.token scope.module (Naming.pascalCase tried))
              resolved s') ∨
            ∃ enum, s.package.types.get? (task.token scope.module (Naming.pascalCase tried)) =
                some (.enum enum) ∧
              resolved = ⟨.named (task.token scope.module (Naming.pascalCase tried)), false⟩ ∧
                s' = s))
      fun _ s' => s' = s
  | 0, _ => rfl
  | bound + 1, name => by
      unfold EnumSearch.search
      dsimp only
      split
      · exact .inl ⟨rfl, rfl⟩
      · rename_i candidate _
        simp only [ends_bind, ends_type?]
        cases taken :
            s.package.types.get? (task.token scope.module (Naming.pascalCase name)) with
        | none =>
            simp only [ends_bind, ends_register taken]
            exact .inr ⟨_, name, rfl, .here, .inl ⟨_, .new taken⟩⟩
        | some existing =>
            cases existing with
            | object _ =>
                refine (search_puts task scope schema s bound _).imp fun found s' ends => ?_
                refine ends.imp_right ?_
                rintro ⟨resolved, tried, isSome, later, rest⟩
                exact ⟨resolved, tried, isSome, .suffixed later, rest⟩
            | enum existing =>
                dsimp only
                split
                · exact .inr ⟨_, name, rfl, .here, .inr ⟨_, taken, rfl, rfl⟩⟩
                · split
                  · exact rfl
                  · refine (search_puts task scope schema s bound _).imp fun found s' ends => ?_
                    refine ends.imp_right ?_
                    rintro ⟨resolved, tried, isSome, later, rest⟩
                    exact ⟨resolved, tried, isSome, .qualified later, rest⟩

theorem enumType_puts (task : InferenceTask) (scope : Scope) (name : String) (schema : Schema)
    (s : Session) : Ends (enumType task scope name schema) s
      (fun found s' => (found = none ∧ s' = s) ∨
        ∃ resolved tried, found = some resolved ∧ EnumSearch.Tries scope.resource name tried ∧
          ((∃ enum, s.Puts (.enum enum) (task.token scope.module (Naming.pascalCase tried))
              resolved s') ∨
            ∃ enum, s.package.types.get? (task.token scope.module (Naming.pascalCase tried)) =
                some (.enum enum) ∧
              resolved = ⟨.named (task.token scope.module (Naming.pascalCase tried)), false⟩ ∧
                s' = s))
      fun _ s' => s' = s := by
  simp only [enumType, typeCount, ends_bind, ends_get]
  exact search_puts task scope schema s _ name

/-- Giving a schema its enum registers it, finds it, or leaves the session alone. -/
theorem enumType_ends (task : InferenceTask) (scope : Scope) (name : String) (schema : Schema)
    (s : Session) : Ends (enumType task scope name schema) s
      (fun found s' => (found = none ∧ s' = s) ∨
        ∃ resolved, found = some resolved ∧
          ((∃ token enum, s.Puts (.enum enum) token resolved s') ∨
            ∃ token enum, s.package.types.get? token = some (.enum enum) ∧
              resolved = ⟨.named token, false⟩ ∧ s' = s))
      fun _ s' => s' = s := by
  refine (enumType_puts task scope name schema s).imp fun found s' ends => ends.imp_right ?_
  rintro ⟨resolved, tried, isSome, -, puts | taken⟩
  · exact ⟨resolved, isSome, .inl ⟨_, puts⟩⟩
  · exact ⟨resolved, isSome, .inr ⟨_, taken⟩⟩

/-! ## Types of lists -/

/-- The type of a list is moved from its own token to the one that the name of the function gives,
if it is named so. -/
theorem renameListType_renames (name : String) (type : TypeSpec) (s : Session) :
    Ends (renameListType name type) s (fun renamed s' => s.Renames name type renamed s')
      fun _ _ => False := by
  unfold renameListType
  dsimp only
  split
  · rename_i source target isMove
    obtain ⟨_, named, isMapped⟩ := Option.bind_eq_some_iff.1 isMove
    obtain ⟨_, isTarget, same⟩ := Option.map_eq_some_iff.1 isMapped
    cases same
    obtain rfl := TypeSpec.token?_eq_some.1 named
    refine ends_bind.2 ?_
    cases registered : s.package.types.get? source with
    | some moved => exact (ends_moveType registered).2 (.moved isTarget registered)
    | none => exact (ends_moveType_of_none registered).2 (.unmarked isTarget registered)
  · rename_i unmoved
    refine .stays ?_
    cases named : type.token? with
    | none => rfl
    | some source => simpa [named] using unmoved

theorem renameListType_ends (name : String) (type : TypeSpec) (s : Session) :
    Ends (renameListType name type) s (fun _ s' => s.Moves s') fun _ _ => False := by
  refine (renameListType_renames name type s).imp fun renamed s' renames => ?_
  cases renames with
  | stays => exact .stays
  | unmarked => exact .unmarked _
  | moved _ registered => exact .moved _ registered

/-! ## Parts of an `allOf` -/

/-- What taking the object type of a resolved part leaves behind. -/
theorem ends_takeObject {resolved : Resolved} {post : Option ObjectType → Session → Prop} :
    Ends (takeObject resolved) s post fail ↔
      match resolved.type.token? with
      | none => post none s
      | some token =>
        post ((s.package.types.get? token).bind NamedType.object?)
          (if resolved.isNew then (s.noted (.merged token)).dropping token
            else s.noted (.merged token)) := by
  simp only [takeObject]
  cases resolved.type.token? with
  | none => exact Iff.rfl
  | some token =>
      simp only [ends_bind, ends_note, ends_type?]
      split
      · rw [ends_bind, ends_removeType]
        exact Iff.rfl
      · exact Iff.rfl

/-! ## Components -/

/-- Building a component makes its object type while it is under construction, and registers it. -/
theorem ends_buildComponent {task : InferenceTask} {resolve : Resolver} {scope : Scope}
    {name token : String} {schema : Schema} {post : Resolved → Session → Prop}
    (named : task.token scope.module name = token) :
    Ends (buildComponent task resolve scope name schema) s post fail ↔
      Ends (objectType task resolve scope name schema) (s.entering token)
        (fun type s' => Ends (registerComponent token type) s'
          (fun resolved s' => post resolved (s'.noted (.left token))) fail) fail := by
  have marked : ∀ token {t : Unit → Session → Prop},
      Ends (markVisited token) s t fail ↔ t () { s with visited := s.visited.add token } :=
    fun _ _ => Iff.rfl
  simp only [buildComponent, ends_bind, marked, ends_note, ends_pure, named]
  exact Iff.rfl

/-- A reference to a component is answered at once if its token is marked. -/
theorem ends_enterComponent {task : InferenceTask} {resolve : Resolver} {scope : Scope}
    {component token : String} {schema : Schema} {post : Resolved → Session → Prop}
    (named : task.token scope.module (Naming.pascalCase component) = token) :
    Ends (enterComponent task resolve scope component schema) s post fail ↔
      if s.visited.contains token then
        post ⟨.named token, false⟩ (s.noted (.referred component token))
      else Ends (buildComponent task resolve scope (Naming.pascalCase component) schema)
        (s.noted (.referred component token)) post fail := by
  simp only [enterComponent, ends_bind, ends_note, ends_isVisited, named]
  by_cases visited : s.visited.contains token = true
  · rw [if_pos visited, if_pos (show (s.noted _).visited.contains token = true from visited)]
    exact Iff.rfl
  · rw [if_neg visited, if_neg (show ¬ (s.noted _).visited.contains token = true from visited)]

/-! ## Tables beside the package -/

/-- The step writes to the tables beside the package at most, and ends. -/
structure WritesTables {α : Type} (x : Infer α) : Prop where
  ends : ∀ s, Ends x s (fun _ s' => s.OnlyTables s') fun e s' => s.OnlyTables s' ∧ ¬ e.OfSchemas

namespace WritesTables

variable {α β : Type}

theorem pure (a : α) : WritesTables (pure a : Infer α) := ⟨fun s => .refl s⟩

theorem throw {e : InferenceError} (ends : ¬ e.OfSchemas) :
    WritesTables (throw e : Infer α) := ⟨fun s => ⟨.refl s, ends⟩⟩

theorem get : WritesTables (get : Infer Session) := ⟨fun s => .refl s⟩

theorem modifyMetadata (f : Metadata → Metadata) : WritesTables (modifyMetadata f) :=
  ⟨fun s => ⟨f s.metadata, rfl⟩⟩

theorem bind {x : Infer α} {f : α → Infer β} (hx : WritesTables x)
    (hf : ∀ a, WritesTables (f a)) : WritesTables (x >>= f) := by
  refine ⟨fun s => ?_⟩
  rw [ends_bind]
  refine (hx.ends s).imp fun a s₁ first => ?_
  exact ((hf a).ends s₁).mono (fun _ _ => first.trans) fun _ _ h => ⟨first.trans h.1, h.2⟩

theorem map {x : Infer α} (f : α → β) (hx : WritesTables x) : WritesTables (f <$> x) := by
  rw [map_eq_pure_bind]
  exact hx.bind fun a => .pure (f a)

theorem foldlM {f : β → α → Infer β} (step : ∀ b a, WritesTables (f b a)) :
    ∀ (items : List α) (b : β), WritesTables (items.foldlM f b)
  | [], b => .pure b
  | a :: rest, b => by
      rw [List.foldlM_cons]
      exact (step b a).bind fun b' => foldlM step rest b'

theorem forM {f : α → Infer Unit} (step : ∀ a, WritesTables (f a)) :
    ∀ items : List α, WritesTables (items.forM f)
  | [] => .pure ()
  | a :: rest => (step a).bind fun _ => forM step rest

theorem ofLookup (result : Except LookupError α) : WritesTables (ofLookup result) := by
  cases result with
  | ok a => exact .pure a
  | error e => exact .throw id

end WritesTables

theorem assignName_writesTables (table : SortedMap String) (key value : String) :
    WritesTables (assignName table key value) := by
  unfold assignName
  split
  · exact .pure _
  · exact .throw id

theorem recordName_writesTables (wire sdk : String) : WritesTables (recordName wire sdk) := by
  unfold recordName
  split
  · exact .pure _
  · refine WritesTables.get.bind fun s => (assignName_writesTables ..).bind fun _ => ?_
    refine (WritesTables.modifyMetadata _).bind fun _ => WritesTables.get.bind fun s => ?_
    exact (assignName_writesTables ..).bind fun _ => .modifyMetadata _

theorem recordPathParameter_writesTables (wire sdk : String) :
    WritesTables (recordPathParameter wire sdk) := by
  unfold recordPathParameter
  split
  · exact .pure _
  · refine (recordName_writesTables ..).bind fun _ => WritesTables.get.bind fun s => ?_
    exact (assignName_writesTables ..).bind fun _ => .modifyMetadata _

theorem seat_writesTables (token : String) (slot : CrudSlot) (path : String) :
    WritesTables (seat token slot path) := by
  unfold seat
  refine WritesTables.get.bind fun s => ?_
  split
  · exact .modifyMetadata _
  · exact .throw id

theorem setAutoName_writesTables (token property : String) :
    WritesTables (setAutoName token property) := by
  unfold setAutoName
  refine WritesTables.get.bind fun s => ?_
  split
  · exact .modifyMetadata _
  · exact .throw id

theorem addModule_writesTables (module : String) : WritesTables (addModule module) :=
  .modifyMetadata _

theorem find_writesTables (task : InferenceTask) (schema : SchemaOrRef) :
    WritesTables (find task schema) := .ofLookup _

theorem addRequired_writesTables (properties : PropertyMap) (required : SortedSet)
    (wire : String) : WritesTables (addRequired properties required wire) := by
  unfold addRequired
  dsimp only
  split
  · exact (recordName_writesTables ..).bind fun _ => .pure _
  · exact .pure _

theorem pathParameters_writesTables (task : InferenceTask) (item : PathItem)
    (operation : Operation) : WritesTables (pathParameters task item operation) := by
  have each : ∀ properties entry, WritesTables (addPathParameter task properties entry) := by
    intro properties entry
    refine (WritesTables.ofLookup _).bind fun parameter => ?_
    split
    · exact (recordPathParameter_writesTables ..).bind fun _ => .pure _
    · exact .pure _
  exact (WritesTables.foldlM each _ _).bind fun _ => .pure _

/-! ## Operations that only fill tables -/

theorem operationId_writesTables (method : Method) (path : String) (operation : Operation) :
    WritesTables (operationId method path operation) := by
  unfold operationId
  split
  · split
    · exact .throw id
    · exact .pure _
  · exact .throw id

theorem requestSchema_writesTables (task : InferenceTask) (method : Method) (path : String)
    (operation : Operation) : WritesTables (requestSchema task method path operation) := by
  have optional : WritesTables (requestSchema? task operation) := by
    unfold requestSchema?
    split
    · exact .pure _
    · refine (WritesTables.ofLookup _).bind fun body => ?_
      split
      · exact (find_writesTables ..).map _
      · exact .pure _
  refine optional.bind fun found => ?_
  cases found with
  | some found => exact .pure found
  | none => exact .throw id

theorem responseContent?_writesTables (task : InferenceTask) (operation : Operation)
    (status : String) : WritesTables (responseContent? task operation status) := by
  unfold responseContent?
  split
  · exact .pure _
  · exact (WritesTables.ofLookup _).bind fun _ => .pure _

theorem returnedSchema?_writesTables (task : InferenceTask) (path : String)
    (operation : Operation) : WritesTables (returnedSchema? task path operation) := by
  refine (responseContent?_writesTables task operation "200").bind fun content => ?_
  cases content with
  | none => exact .pure _
  | some media =>
      dsimp only
      split
      · exact (find_writesTables ..).map _
      · exact .throw id

theorem createdSchema?_writesTables (task : InferenceTask) (operation : Operation) :
    WritesTables (createdSchema? task operation) := by
  unfold createdSchema?
  split
  · exact .pure _
  · refine (responseContent?_writesTables ..).bind fun media => ?_
    split
    · exact (find_writesTables ..).map _
    · exact .pure _

theorem discriminatorTarget_writesTables (task : InferenceTask) (path reference : String) :
    WritesTables (discriminatorTarget task path reference) := by
  unfold discriminatorTarget
  split
  · exact .pure _
  · exact .throw id
  · exact .throw id

theorem branchAnswer_writesTables (task : InferenceTask) (ctx : PathContext)
    (response : Option Schema) (value : String) :
    WritesTables (branchAnswer task ctx response value) := by
  unfold branchAnswer
  split
  · exact (discriminatorTarget_writesTables ..).bind fun _ => .pure _
  · exact .pure _

theorem extractChange_writesTables (task : InferenceTask) (ctx : PathContext) (method : Method)
    (slot : CrudSlot) (operation : Operation) :
    WritesTables (extractChange task ctx method slot operation) := by
  unfold extractChange
  refine (operationId_writesTables ..).bind fun id => ?_
  refine (requestSchema_writesTables ..).bind fun request => ?_
  split
  · exact seat_writesTables ..
  · refine WritesTables.forM (fun name => ?_) _
    exact (discriminatorTarget_writesTables ..).bind fun _ => seat_writesTables ..

theorem extractDelete_writesTables (task : InferenceTask) (ctx : PathContext)
    (operation : Operation) : WritesTables (extractDelete task ctx operation) := by
  unfold extractDelete
  split
  · exact extractChange_writesTables ..
  · exact (operationId_writesTables ..).bind fun _ => seat_writesTables ..

theorem normalizedPath_writesTables (task : InferenceTask) (path : String) (item : PathItem) :
    WritesTables (normalizedPath task path item) := by
  unfold normalizedPath
  split
  · split
    · exact .pure _
    · exact .throw id
  · exact .pure _

/-! ## Look-ups -/

theorem ends_find {task : InferenceTask} {schema : SchemaOrRef}
    {post : Lookup.Found → Session → Prop} :
    Ends (find task schema) s post fail ↔
      (∀ found, Lookup.schema task.document schema = .ok found → post found s) ∧
        ∀ e, Lookup.schema task.document schema = .error e → fail (.lookup e) s :=
  ends_ofLookup

theorem ends_find_of_ok {task : InferenceTask} {schema : SchemaOrRef} {found : Lookup.Found}
    {post : Lookup.Found → Session → Prop}
    (located : Lookup.schema task.document schema = .ok found) :
    Ends (find task schema) s post fail ↔ post found s := by
  simp [ends_find, located]

end Infer

end ResourceInference
