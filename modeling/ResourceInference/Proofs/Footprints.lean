import ResourceInference.Proofs.Coverage
import ResourceInference.Proofs.Titles

/-!
# Which part of the tables a step writes to

An `Area` says which tokens and modules may be written under. A session is within an area of an
earlier one if all else is as it was there (`Session.Within`); that is a course, with failing steps
held to the same as the others (`Course.within`), so whatever is put together from steps within an
area is within it.

Giving a schema its type writes under tokens of one module, and nothing but the names of types is to
be told of them. `TypeNames` says which names these are: it holds those that types may be named
after, and is closed under what is done to names on the way (`TypeNames.behind`, `.before`,
`.cased`), so no step needs to be looked at twice. The resolver stays within every area that these
names lie in, and a named type that it gives has one of them (`TypeNames.propertyType_serves`).
-/

set_option autoImplicit false

namespace ResourceInference

/-! ## Areas -/

/-- Tokens of types, tokens of resources, functions and slots, tokens with the property that may get
a generated name under them, and modules. -/
structure Area where
  types : String → Prop
  entries : String → Prop
  autoNames : String → String → Prop
  modules : String → Prop

namespace SortedMap

variable {α : Type} {m m' m'' : SortedMap α}

/-- The maps have the same values under all keys outside. -/
def ChangesIn (inside : String → Prop) (m m' : SortedMap α) : Prop :=
  ∀ key, inside key ∨ m'.get? key = m.get? key

/-- The second map has what the first one has, and more under keys that were free. -/
def GrowsBy (added : String → α → Prop) (m m' : SortedMap α) : Prop :=
  ∀ key, m'.get? key = m.get? key ∨
    ∃ value, m.get? key = none ∧ m'.get? key = some value ∧ added key value

theorem ChangesIn.refl {inside : String → Prop} : m.ChangesIn inside m :=
  fun _ => .inr rfl

theorem ChangesIn.trans {inside : String → Prop} (first : m.ChangesIn inside m')
    (second : m'.ChangesIn inside m'') : m.ChangesIn inside m'' := by
  intro key
  rcases first key with isInside | same
  · exact .inl isInside
  · exact (second key).imp_right (·.trans same)

theorem ChangesIn.insert {inside : String → Prop} {key : String} {value : α} (h : inside key) :
    m.ChangesIn inside (m.insert key value) := by
  intro other
  rw [get?_insert]
  split
  · rename_i same
    exact .inl (same ▸ h)
  · exact .inr rfl

theorem ChangesIn.erase {inside : String → Prop} {key : String} (h : inside key) :
    m.ChangesIn inside (m.erase key) := by
  intro other
  rw [get?_erase]
  split
  · rename_i same
    exact .inl (same ▸ h)
  · exact .inr rfl

theorem GrowsBy.refl {added : String → α → Prop} : m.GrowsBy added m :=
  fun _ => .inl rfl

theorem GrowsBy.trans {added : String → α → Prop} (first : m.GrowsBy added m')
    (second : m'.GrowsBy added m'') : m.GrowsBy added m'' := by
  intro key
  rcases second key with same | ⟨value, free, held, isAdded⟩
  · rw [same]
    exact first key
  · rcases first key with same' | ⟨earlier, _, held', _⟩
    · exact .inr ⟨value, same' ▸ free, held, isAdded⟩
    · cases held'.symm.trans free

theorem GrowsBy.insert {added : String → α → Prop} {key : String} {value : α}
    (free : m.get? key = none) (h : added key value) : m.GrowsBy added (m.insert key value) := by
  intro other
  rw [get?_insert]
  split
  · rename_i same
    subst same
    exact .inr ⟨value, free, rfl, h⟩
  · exact .inl rfl

end SortedMap

namespace Session

/-- The second session differs from the first one within the area only, as far as the package and
the tables under tokens and modules go. -/
structure Within (A : Area) (s s' : Session) : Prop where
  types : s.package.types.ChangesIn A.types s'.package.types
  resources : s.package.resources.ChangesIn A.entries s'.package.resources
  functions : s.package.functions.ChangesIn A.entries s'.package.functions
  crud : s.metadata.crud.ChangesIn A.entries s'.metadata.crud
  autoNames : s.metadata.autoNames.GrowsBy A.autoNames s'.metadata.autoNames
  modules : s.metadata.moduleNamespaces.GrowsBy (fun module _ => A.modules module)
    s'.metadata.moduleNamespaces

namespace Within

variable {A : Area} {s s' s'' : Session}

theorem refl (s : Session) : s.Within A s where
  types := .refl
  resources := .refl
  functions := .refl
  crud := .refl
  autoNames := .refl
  modules := .refl

theorem trans (first : s.Within A s') (second : s'.Within A s'') : s.Within A s'' where
  types := first.types.trans second.types
  resources := first.resources.trans second.resources
  functions := first.functions.trans second.functions
  crud := first.crud.trans second.crud
  autoNames := first.autoNames.trans second.autoNames
  modules := first.modules.trans second.modules

/-- Marks and the journal lie in every area. -/
theorem of_beside (package : s'.package = s.package) (metadata : s'.metadata = s.metadata) :
    s.Within A s' := by
  constructor <;> simp only [package, metadata] <;> exact .refl

/-- The tables of names lie in every area. -/
theorem of_names (package : s'.package = s.package) (wireNames sdkNames pathParameters)
    (metadata : s'.metadata = { s.metadata with wireNames, sdkNames, pathParameters }) :
    s.Within A s' := by
  constructor <;> simp only [package, metadata] <;> exact .refl

theorem of_types (inside : s.package.types.ChangesIn A.types s'.package.types)
    (package : s'.package = { s.package with types := s'.package.types })
    (metadata : s'.metadata = s.metadata) : s.Within A s' where
  types := inside
  resources := by rw [package]; exact .refl
  functions := by rw [package]; exact .refl
  crud := by rw [metadata]; exact .refl
  autoNames := by rw [metadata]; exact .refl
  modules := by rw [metadata]; exact .refl

theorem withType {token : String} (inside : A.types token) (s : Session) (type : NamedType) :
    s.Within A (s.withType token type) := .of_types (.insert inside) rfl rfl

theorem dropping {token : String} (inside : A.types token) (s : Session) :
    s.Within A (s.dropping token) := .of_types (.erase inside) rfl rfl

theorem moving {source target : String} (inside : A.types source) (inside' : A.types target)
    (s : Session) (type : NamedType) : s.Within A (s.moving source target type) :=
  .of_types ((SortedMap.ChangesIn.erase inside).trans (.insert inside')) rfl rfl

theorem withResource {token : String} (inside : A.entries token) (s : Session)
    (resource : ResourceSpec) : s.Within A (s.withResource token resource) :=
  { refl s with resources := .insert inside }

theorem withFunction {token : String} (inside : A.entries token) (s : Session)
    (function : FunctionSpec) : s.Within A (s.withFunction token function) :=
  { refl s with functions := .insert inside }

theorem puts {type : NamedType} {token : String} {resolved : Resolved} (inside : A.types token)
    (h : s.Puts type token resolved s') : s.Within A s' := by
  cases h with
  | new _ => exact .withType inside s type
  | found _ _ => exact .refl s

end Within

end Session

/-- The course on which nothing is written outside an area, not even by a step that fails. -/
def Course.within (A : Area) : Course where
  rel := Session.Within A
  breaks := Session.Within A
  refl := .refl
  trans := .trans
  breaksOff := id
  breaksLater := .trans

namespace Infer

variable {A : Area} {s : Session} {α β : Type}

/-! ## Tables beside the package -/

theorem modifyMetadata_within {f : Metadata → Metadata}
    (written : s.Within A { s with metadata := f s.metadata }) :
    (Course.within A).Runs (modifyMetadata f) s fun _ _ => True := ⟨⟨written, trivial⟩⟩

theorem recordName_within (wire sdk : String) :
    (Course.within A).Runs (recordName wire sdk) s fun _ _ => True := by
  unfold recordName
  split
  · exact .pure trivial
  · refine Course.Runs.get.bind fun _ s₁ _ _ => ?_
    refine (Course.Runs.reads (assignName_reads ..)).bind fun wireNames s₂ _ _ => ?_
    refine (modifyMetadata_within (.of_names rfl _ _ _ rfl)).bind fun _ s₃ _ _ => ?_
    refine Course.Runs.get.bind fun _ s₄ _ _ => ?_
    refine (Course.Runs.reads (assignName_reads ..)).bind fun sdkNames s₅ _ _ => ?_
    exact modifyMetadata_within (.of_names rfl _ _ _ rfl)

theorem recordPathParameter_within (wire sdk : String) :
    (Course.within A).Runs (recordPathParameter wire sdk) s fun _ _ => True := by
  unfold recordPathParameter
  split
  · exact .pure trivial
  · refine (recordName_within wire sdk).bind fun _ s₁ _ _ => ?_
    refine Course.Runs.get.bind fun _ s₂ _ _ => ?_
    refine (Course.Runs.reads (assignName_reads ..)).bind fun pathParameters s₃ _ _ => ?_
    exact modifyMetadata_within (.of_names rfl _ _ _ rfl)

theorem addRequired_within {properties : PropertyMap} {required : SortedSet} {wire : String} :
    (Course.within A).Runs (addRequired properties required wire) s fun _ _ => True := by
  unfold addRequired
  dsimp only
  split
  · exact (recordName_within ..).bind fun _ _ _ _ => .pure trivial
  · exact .pure trivial

theorem seat_within {token : String} (inside : A.entries token) (slot : CrudSlot) (path : String) :
    (Course.within A).Runs (seat token slot path) s fun _ _ => True := by
  unfold seat
  refine Course.Runs.get.bind fun _ s₁ _ _ => ?_
  split
  · exact modifyMetadata_within { Session.Within.refl s₁ with crud := .insert inside }
  · exact .throw

theorem setAutoName_within {token property : String} (inside : A.autoNames token property) :
    (Course.within A).Runs (setAutoName token property) s fun _ _ => True := by
  unfold setAutoName
  refine Course.Runs.get.bind fun now s₁ _ same => ?_
  subst same
  cases given : assign now.metadata.autoNames token property with
  | error existing => exact .throw
  | ok autoNames =>
      have grown : now.metadata.autoNames.GrowsBy A.autoNames autoNames := by
        unfold assign at given
        split at given
        · split at given
          · cases given
            exact .refl
          · cases given
        · rename_i free
          cases given
          exact .insert free inside
      exact modifyMetadata_within { Session.Within.refl now with autoNames := grown }

theorem addModule_within {module : String} (inside : A.modules module) :
    (Course.within A).Runs (addModule module) s fun _ _ => True := by
  refine modifyMetadata_within ?_
  split
  · exact .refl s
  · rename_i absent
    have free := (SortedMap.get?_eq_none_iff ..).2 (Bool.eq_false_iff.2 absent)
    exact { Session.Within.refl s with modules := .insert free inside }

/-! ## Rows of steps -/

theorem bind_within {x : Infer α} {f : α → Infer β} {post : β → Session → Prop}
    (first : (Course.within A).Runs x s fun _ _ => True)
    (rest : ∀ a s', (Course.within A).Runs (f a) s' post) :
    (Course.within A).Runs (x >>= f) s post :=
  first.bind fun a s' _ _ => rest a s'

theorem foldlM_within {f : β → α → Infer β} {items : List α}
    (step : ∀ a ∈ items, ∀ b s, (Course.within A).Runs (f b a) s fun _ _ => True) {b : β} :
    (Course.within A).Runs (items.foldlM f b) s fun _ _ => True :=
  (Course.Runs.foldlM (fun _ _ _ _ => id) step).imp fun _ _ _ _ => trivial

theorem forM_within {f : α → Infer Unit} {items : List α}
    (step : ∀ a ∈ items, ∀ s, (Course.within A).Runs (f a) s fun _ _ => True) :
    (Course.within A).Runs (items.forM f) s fun _ _ => True :=
  (Course.Runs.forM (fun _ _ _ _ => id) step).imp fun _ _ _ _ => trivial

theorem mapM_within {f : α → Infer β} {items : List α} {made : β → Prop}
    (step : ∀ a ∈ items, ∀ s, (Course.within A).Runs (f a) s fun b _ => made b) :
    ∀ {s}, (Course.within A).Runs (items.mapM f) s fun bs _ => ∀ b ∈ bs, made b := by
  induction items with
  | nil => exact .pure (by simp)
  | cons a rest ih =>
      intro s
      rw [List.mapM_cons]
      refine (step a List.mem_cons_self s).bind fun b s₁ _ made₁ => ?_
      refine (ih fun a member => step a (List.mem_cons_of_mem _ member)).bind
        fun bs s₂ _ made₂ => .pure ?_
      exact List.forall_mem_cons.2 ⟨made₁, made₂⟩

theorem optionForM_within {f : α → Infer Unit} {item : Option α}
    (step : ∀ a, item = some a → (Course.within A).Runs (f a) s fun _ _ => True) :
    (Course.within A).Runs (item.forM f) s fun _ _ => True :=
  (Course.Runs.optionForM step).imp fun _ _ _ _ => trivial

end Infer

/-! ## Names of types -/

/-- All that giving a schema its type asks for is met, and where its properties are maps, types may
be named after their SDK names. -/
structure Schema.Opens (d : Document) (meets : Lookup.Found → Prop) (fits : String → Prop)
    (schema : Schema) : Prop where
  inside : ∀ {inner}, Calls d schema inner → meets inner
  values : ∀ {wire part holder values}, (wire, part) ∈ schema.properties →
    Lookup.schema d part = .ok holder → holder.schema.mapValues? = some values →
      fits (Naming.sdkName wire)

/-- The finds whose types may be asked for in a module, and the names that types may be named after
there. The tokens of the names lie in the area. -/
structure TypeNames (task : InferenceTask) (module : String) (A : Area) where
  meets : Lookup.Found → Prop
  fits : String → Prop
  lies : ∀ {name}, fits name → A.types (task.token module name)
  behind : ∀ {name suffix}, fits name → IsPlain suffix → fits (name ++ suffix)
  before : ∀ {start name}, IsPlain start → fits name → fits (start ++ name)
  cased : ∀ {name}, fits name → fits (Naming.pascalCase name)
  component : ∀ {found component}, meets found → found.name = some component →
    fits (Naming.pascalCase component)
  opens : ∀ {found}, meets found → found.schema.Opens task.document meets fits

namespace TypeNames

variable {task : InferenceTask} {module resource : String} {A : Area}
  (N : TypeNames task module A)

/-- If the type is a named one, its token is that of a fitting name. -/
def Names (type : TypeSpec) : Prop :=
  ∀ token, type.token? = some token → ∃ name, N.fits name ∧ token = task.token module name

/-- The function for the schemas inside stays within the area, and gives named types fitting
names. -/
def Serves (resolve : Resolver) : Prop :=
  ∀ resource parent found s, IsPlain resource → N.fits parent → N.meets found →
    (Course.within A).Runs (resolve ⟨module, resource⟩ parent found) s fun resolved _ =>
      N.Names resolved.type

variable {N} {s : Session} {parent name : String}

theorem Names.of_unnamed {type : TypeSpec} (unnamed : type.token? = none) : N.Names type := by
  intro token named
  cases unnamed.symm.trans named

theorem Names.of_fits (fits : N.fits name) {type : TypeSpec}
    (same : type = .named (task.token module name)) : N.Names type := by
  subst same
  rintro token ⟨⟩
  exact ⟨name, fits, rfl⟩

theorem Names.lies {type : TypeSpec} (h : N.Names type) {token : String}
    (named : type.token? = some token) : A.types token := by
  obtain ⟨name, fits, rfl⟩ := h token named
  exact N.lies fits

/-- A type that is made in place is registered under a fitting name. -/
theorem registerGenerated_runs (plain : IsPlain resource) (fits : N.fits name) {type : NamedType} :
    (Course.within A).Runs (Infer.registerGenerated task ⟨module, resource⟩ name type) s
      fun resolved _ => N.Names resolved.type := by
  refine ⟨(Infer.registerGenerated_puts ..).mono ?_ ?_⟩
  · rintro resolved s' ⟨full, isFull, puts⟩
    have fits : N.fits full := by
      rcases isFull with rfl | rfl
      · exact fits
      · exact N.before plain fits
    exact ⟨.puts (N.lies fits) puts, .of_fits fits puts.type_eq⟩
  · rintro e s' ⟨rfl, -⟩
    exact .refl _

/-- Taking an object type drops at most the type that was given. -/
theorem takeObject_runs {resolved : Resolved} (named : N.Names resolved.type) :
    (Course.within A).Runs (Infer.takeObject resolved) s fun _ _ => True := by
  refine ⟨Infer.ends_takeObject.2 ?_⟩
  cases isToken : resolved.type.token? with
  | none => exact ⟨.refl s, trivial⟩
  | some token =>
      have noted : s.Within A (s.noted (.merged token)) := .of_beside rfl rfl
      refine ⟨?_, trivial⟩
      split
      · exact noted.trans (.dropping (named.lies isToken) _)
      · exact noted

section

variable {resolve : Resolver} (serves : N.Serves resolve) (plain : IsPlain resource)

include serves plain

/-! ## Members of objects -/

theorem mergePart_runs (fits : N.fits parent) {members : Members} {part : SchemaOrRef}
    (meets : ∀ {found}, part.Merges task.document found → N.meets found) :
    (Course.within A).Runs (Infer.mergePart task resolve ⟨module, resource⟩ parent members part) s
      fun _ _ => True := by
  unfold Infer.mergePart
  refine Course.Runs.find.bind fun found s₁ _ ⟨_, located⟩ => ?_
  split
  · exact .pure trivial
  · rename_i counts
    have met := meets ⟨located, Bool.eq_false_iff.2 counts⟩
    refine (serves _ _ _ _ plain fits met).bind fun resolved s₂ _ named => ?_
    refine (takeObject_runs named).bind fun object s₃ _ _ => ?_
    cases object with
    | none => exact .pure trivial
    | some object => exact .pure trivial

theorem mergedMembers_runs (fits : N.fits parent) {parts : List SchemaOrRef}
    (meets : ∀ part ∈ parts, ∀ {found}, part.Merges task.document found → N.meets found) :
    (Course.within A).Runs
      (Infer.mergedMembers task resolve ⟨module, resource⟩ parent parts) s fun _ _ => True :=
  Infer.foldlM_within fun part member _ _ => mergePart_runs serves plain fits (meets part member)

/-- A property is named after `mapName` if it is a map, and else after `typeName`. -/
theorem propertyTypeOf_runs {mapName typeName : String} {found : Lookup.Found}
    (values : ∀ {values}, found.schema.mapValues? = some values → N.fits mapName ∧
      ∀ {inner}, Lookup.schema task.document values = .ok inner → N.meets inner)
    (whole : found.schema.mapValues? = none → N.fits typeName ∧ N.meets found) :
    (Course.within A).Runs
      (Infer.propertyTypeOf task resolve ⟨module, resource⟩ mapName typeName found) s
        fun _ _ => True := by
  unfold Infer.propertyTypeOf
  split
  · rename_i isMap
    refine Course.Runs.find.bind fun inner s₁ _ ⟨_, located⟩ => ?_
    refine (serves _ _ _ _ plain (values isMap).1 ((values isMap).2 located)).bind
      fun _ _ _ _ => .pure trivial
  · rename_i noMap
    obtain ⟨fits, meets⟩ := whole noMap
    exact (serves _ _ _ _ plain fits meets).bind fun _ _ _ _ => .pure trivial

variable {found : Lookup.Found} (meets : N.meets found) (fits : N.fits parent)

include meets fits

theorem addProperty_runs {properties : PropertyMap} {entry : String × SchemaOrRef}
    (member : entry ∈ found.schema.properties) :
    (Course.within A).Runs
      (Infer.addProperty task resolve ⟨module, resource⟩ parent properties entry) s
        fun _ _ => True := by
  obtain ⟨wire, part⟩ := entry
  have opens := N.opens meets
  unfold Infer.addProperty
  refine Course.Runs.find.bind fun holder s₁ _ ⟨_, located⟩ => ?_
  refine (Infer.recordName_within ..).bind fun _ s₂ _ _ => ?_
  refine Course.Runs.bind (propertyTypeOf_runs serves plain (fun isMap => ?_) fun noMap => ?_)
    fun _ _ _ _ => .pure trivial
  · exact ⟨opens.values member located isMap,
      fun there => opens.inside (.values member located isMap there)⟩
  · exact ⟨N.behind fits (Naming.isPlain_pascalCase wire),
      opens.inside (.property member located noMap)⟩

theorem objectMembers_runs :
    (Course.within A).Runs
      (Infer.objectMembers task resolve ⟨module, resource⟩ parent found.schema) s
        fun _ _ => True := by
  unfold Infer.objectMembers
  have declared : ∀ {s}, (Course.within A).Runs
      ((SortedMap.ofList found.schema.properties).toList.foldlM
        (Infer.addProperty task resolve ⟨module, resource⟩ parent) ∅) s fun _ _ => True :=
    Infer.foldlM_within fun entry member _ _ =>
      addProperty_runs serves plain meets fits (SortedMap.mem_of_mem_ofList member)
  refine declared.bind fun properties s₁ _ _ => ?_
  refine (mergedMembers_runs serves plain fits fun part member _ merges =>
    (N.opens meets).inside (.part (Schema.mem_parts_of_allOf member) merges.located)).bind
      fun merged s₂ _ _ => ?_
  refine (Infer.foldlM_within fun wire _ _ _ => Infer.addRequired_within).bind
    fun required s₃ _ _ => ?_
  have formed : (Course.within A).Runs (Infer.note (.formed found.schema.required
      (Members.extend ⟨properties, ∅⟩ merged).properties.keys)) s₃ fun _ _ => True :=
    ⟨⟨.of_beside rfl rfl, trivial⟩⟩
  exact formed.bind fun _ _ _ _ => .pure trivial

theorem objectType_runs :
    (Course.within A).Runs
      (Infer.objectType task resolve ⟨module, resource⟩ parent found.schema) s fun _ _ => True :=
  (objectMembers_runs serves plain meets fits).bind fun _ _ _ _ => .pure trivial

/-! ## Unions and scalars -/

theorem variantTypes_runs {parts : List SchemaOrRef}
    (among : ∀ part ∈ parts, part ∈ found.schema.parts) :
    (Course.within A).Runs
      (Infer.variantTypes task resolve ⟨module, resource⟩ parent parts) s fun _ _ => True := by
  have each : ∀ part ∈ parts, ∀ s, (Course.within A).Runs (do
      let resolved ← resolve ⟨module, resource⟩ parent (← Infer.find task part)
      pure resolved.type) s fun _ _ => True := by
    intro part member s
    refine Course.Runs.find.bind fun inner s₁ _ ⟨_, located⟩ => ?_
    have met := (N.opens meets).inside (.part (among part member) located)
    exact (serves _ _ _ _ plain fits met).bind fun _ _ _ _ => .pure trivial
  exact (Infer.mapM_within each).imp fun _ _ _ _ => trivial

theorem unionType_runs :
    (Course.within A).Runs
      (Infer.unionType task resolve ⟨module, resource⟩ parent found.schema) s
        fun resolved _ => N.Names resolved.type :=
  (variantTypes_runs serves plain meets fits fun _ => Schema.mem_parts_of_oneOf).bind
    fun _ _ _ _ => .pure (.of_unnamed rfl)

theorem mapType_runs :
    (Course.within A).Runs
      (Infer.mapType task resolve ⟨module, resource⟩ parent found.schema) s
        fun type _ => type.token? = none := by
  unfold Infer.mapType
  split
  · rename_i isMap
    refine Course.Runs.find.bind fun inner s₁ _ ⟨_, located⟩ => ?_
    have met := (N.opens meets).inside
      (.part (Schema.mem_parts_of_additionalProperties isMap) located)
    exact (serves _ _ _ _ plain fits met).bind fun _ _ _ _ => .pure rfl
  · exact .pure rfl

theorem arrayType_runs :
    (Course.within A).Runs
      (Infer.arrayType task resolve ⟨module, resource⟩ parent found.schema) s
        fun type _ => type.token? = none := by
  unfold Infer.arrayType
  split
  · rename_i isItems
    refine Course.Runs.find.bind fun inner s₁ _ ⟨_, located⟩ => ?_
    have met := (N.opens meets).inside (.part (Schema.mem_parts_of_items isItems) located)
    exact (serves _ _ _ _ plain (N.behind fits (by decide)) met).bind fun _ _ _ _ => .pure rfl
  · exact .pure rfl

theorem declaredType_runs (type : SchemaType) :
    (Course.within A).Runs
      (Infer.declaredType task resolve ⟨module, resource⟩ parent found.schema type) s
        fun type _ => type.token? = none := by
  cases type with
  | object => exact mapType_runs serves plain meets fits
  | array => exact arrayType_runs serves plain meets fits
  | null => exact .throw
  | integer | string | boolean | number => exact .pure rfl

theorem unnamedType_runs :
    (Course.within A).Runs
      (Infer.unnamedType task resolve ⟨module, resource⟩ parent found.schema) s
        fun resolved _ => N.Names resolved.type := by
  unfold Infer.unnamedType
  split
  · rename_i first second rest alternatives
    have among : ∀ part ∈ first :: second :: rest, part ∈ found.schema.parts :=
      fun part member => Schema.mem_parts_of_anyOf (alternatives ▸ member)
    exact (variantTypes_runs serves plain meets fits among).bind
      fun _ _ _ _ => .pure (.of_unnamed rfl)
  · exact (declaredType_runs serves plain meets fits _).bind
      fun _ _ _ unnamed => .pure (.of_unnamed unnamed)
  · rename_i only alternatives _
    refine Course.Runs.find.bind fun inner s₁ _ ⟨_, located⟩ => ?_
    have member : only ∈ found.schema.parts := Schema.mem_parts_of_anyOf (by simp [alternatives])
    exact serves _ _ _ _ plain fits ((N.opens meets).inside (.part member located))
  · exact .throw

/-! ## Enums -/

omit serves plain meets fits in
/-- A search for an enum tries fitting names only. -/
theorem fits_of_tries (plain : IsPlain resource) {tried : String}
    (tries : EnumSearch.Tries resource name tried) (fits : N.fits name) : N.fits tried := by
  induction tries with
  | here => exact fits
  | suffixed _ ih => exact ih (N.behind fits (by decide))
  | qualified _ ih => exact ih (N.before plain fits)

omit serves meets in
theorem enumOrNone_runs {schema : Schema} :
    (Course.within A).Runs (Infer.enumOrNone task ⟨module, resource⟩ parent schema) s
      fun enum _ => ∀ resolved, enum = some resolved → N.Names resolved.type := by
  unfold Infer.enumOrNone
  split
  · exact .pure (by simp)
  · refine ⟨Infer.ends_tryCatch.2 ?_⟩
    refine (Infer.enumType_puts task ⟨module, resource⟩ parent schema s).mono ?_ ?_
    · rintro _ s' (⟨rfl, rfl⟩ | ⟨resolved, tried, rfl, tries, puts | ⟨_, _, rfl, rfl⟩⟩)
      · exact ⟨.refl _, by simp⟩
      · obtain ⟨enum, puts⟩ := puts
        have fitsType := N.cased (fits_of_tries plain tries fits)
        refine ⟨.puts (N.lies fitsType) puts, ?_⟩
        rintro _ ⟨⟩
        exact .of_fits fitsType puts.type_eq
      · refine ⟨.refl _, ?_⟩
        rintro _ ⟨⟩
        exact .of_fits (N.cased (fits_of_tries plain tries fits)) rfl
    · rintro e s' rfl
      split
      · exact ⟨.refl _, by simp⟩
      · exact .refl s'

/-! ## Schemas -/

theorem inlineType_runs :
    (Course.within A).Runs
      (Infer.inlineType task resolve ⟨module, resource⟩ parent found.schema) s
        fun resolved _ => N.Names resolved.type := by
  unfold Infer.inlineType
  split
  · have fitsName : N.fits (parent ++ "Properties") := N.behind fits (by decide)
    exact (objectType_runs serves plain meets fitsName).bind
      fun _ _ _ _ => registerGenerated_runs plain fitsName
  · split
    · exact unionType_runs serves plain meets fits
    · split
      · refine (mergedMembers_runs serves plain fits fun part member _ merges => ?_).bind
          fun _ _ _ _ => registerGenerated_runs plain (N.cased fits)
        exact (N.opens meets).inside (.part (Schema.mem_parts_of_allOf member) merges.located)
      · refine (enumOrNone_runs plain fits).bind fun enum s₁ _ named => ?_
        cases enum with
        | none => exact unnamedType_runs serves plain meets fits
        | some resolved => exact .pure (named resolved rfl)

omit fits in
theorem enterComponent_runs {component : String} (named : found.name = some component) :
    (Course.within A).Runs
      (Infer.enterComponent task resolve ⟨module, resource⟩ component found.schema) s
        fun resolved _ => N.Names resolved.type := by
  have fits := N.component meets named
  obtain ⟨token, isToken⟩ : ∃ token,
    task.token (Scope.mk module resource).module (Naming.pascalCase component) = token := ⟨_, rfl⟩
  have lies : A.types token := isToken ▸ N.lies fits
  refine ⟨(Infer.ends_enterComponent isToken).2 ?_⟩
  split
  · exact ⟨.of_beside rfl rfl, .of_fits fits (by rw [← isToken])⟩
  · have entering : s.Within A ((s.noted (.referred component token)).entering token) :=
      .of_beside rfl rfl
    refine (Infer.ends_buildComponent isToken).2 ?_
    refine (objectType_runs serves plain meets fits).ends.mono ?_ fun _ _ => entering.trans
    rintro type s₁ ⟨later₁, -⟩
    refine (Infer.registerComponent_ends token type s₁).mono (fun resolved s₂ puts => ?_) ?_
    · have leaving : s₂.Within A (s₂.noted (.left token)) := .of_beside rfl rfl
      refine ⟨(entering.trans later₁).trans ((Session.Within.puts lies puts).trans leaving), ?_⟩
      exact .of_fits fits (by rw [puts.type_eq, ← isToken])
    · rintro e s₂ ⟨rfl, -⟩
      exact entering.trans later₁

/-- Giving a find its type stays within the area, and a named type has a fitting name. -/
theorem typeOf_runs :
    (Course.within A).Runs (Infer.typeOf task resolve ⟨module, resource⟩ parent found) s
      fun resolved _ => N.Names resolved.type := by
  unfold Infer.typeOf Infer.componentType
  split
  · rename_i component named
    have fitsName := N.component meets named
    split
    · exact inlineType_runs serves plain meets fits
    · dsimp only
      split
      · split
        · exact unionType_runs serves plain meets fitsName
        · split
          · exact unnamedType_runs serves plain meets fits
          · exact enterComponent_runs serves plain meets named
      · exact enterComponent_runs serves plain meets named
  · exact inlineType_runs serves plain meets fits

end

theorem resolver_serves (N : TypeNames task module A) (depth : Nat) :
    N.Serves (Infer.resolver task depth) := by
  induction depth with
  | zero => exact fun _ _ _ _ _ _ _ => .throw
  | succ depth ih => exact fun _ _ _ _ plain fits meets => typeOf_runs ih plain meets fits

theorem propertyType_serves (N : TypeNames task module A) : N.Serves (Infer.propertyType task) :=
  fun _ _ _ _ plain fits meets => resolver_serves N _ _ _ _ _ plain fits meets

end TypeNames

end ResourceInference
