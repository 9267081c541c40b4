import ResourceInference.Inference.Extraction
import ResourceInference.Proofs.ExcludedOperations

/-!
# Arranged documents

A document with the properties of all its schemas in ascending order of their names
(`Document.arranged`): two documents that differ only in the order of properties are the same when
they are arranged. Where a schema describes a map, its first property stands for all of them, so a
finer arrangement keeps it in front.

Arranging swaps neighbours with different names and no others (`Swaps`), so it keeps whatever does
not depend on the order of entries with different names: the map of the entries, the look-up of a
name, and the size. What references lead to is arranged along (`Lookup.schema_arranged`).
-/

set_option autoImplicit false

namespace ResourceInference

variable {α β : Type}

/-- Options with the same image are both absent, or both there with the same image. -/
theorem cases_of_map_eq {f : α → β} {x y : Option α} (h : x.map f = y.map f) :
    (x = none ∧ y = none) ∨ ∃ a b, x = some a ∧ y = some b ∧ f a = f b := by
  cases x <;> cases y
  · exact .inl ⟨rfl, rfl⟩
  · cases h
  · cases h
  · exact .inr ⟨_, _, rfl, rfl, Option.some.inj h⟩

/-! ## Swaps -/

/-- One list comes from another one by swapping neighbours, the first of which is free to move
behind the second. -/
inductive Swaps (free : α → α → Prop) : List α → List α → Prop where
  | refl (items : List α) : Swaps free items items
  | swap {a b : α} (allowed : free a b) (rest : List α) :
      Swaps free (a :: b :: rest) (b :: a :: rest)
  | cons (a : α) {items items' : List α} (h : Swaps free items items') :
      Swaps free (a :: items) (a :: items')
  | trans {items items' items'' : List α} (first : Swaps free items items')
      (second : Swaps free items' items'') : Swaps free items items''

namespace Swaps

variable {free : α → α → Prop} {items items' : List α}

theorem perm (h : Swaps free items items') : items.Perm items' := by
  induction h with
  | refl items => exact .refl items
  | swap _ rest => exact .swap _ _ rest
  | cons a _ ih => exact ih.cons a
  | trans _ _ first second => exact first.trans second

theorem mono {weaker : α → α → Prop} (h : Swaps free items items')
    (imp : ∀ a b, free a b → weaker a b) : Swaps weaker items items' := by
  induction h with
  | refl items => exact .refl items
  | swap allowed rest => exact .swap (imp _ _ allowed) rest
  | cons a _ ih => exact ih.cons a
  | trans _ _ first second => exact first.trans second

/-- A fold in which free neighbours may be taken in either order. -/
theorem foldl {f : β → α → β} (commutes : ∀ a b x, free a b → f (f x a) b = f (f x b) a)
    (h : Swaps free items items') : ∀ x, items.foldl f x = items'.foldl f x := by
  induction h with
  | refl items => exact fun _ => rfl
  | swap allowed rest =>
    intro x
    rw [List.foldl_cons, List.foldl_cons, commutes _ _ x allowed]
    rfl
  | cons a _ ih => exact fun x => ih (f x a)
  | trans _ _ first second => exact fun x => (first x).trans (second x)

/-- Swaps of images are images of swaps. -/
theorem exists_of_map {f : β → α} {sources : List β} (h : Swaps free (sources.map f) items') :
    ∃ sources', Swaps (fun a b => free (f a) (f b)) sources sources' ∧ sources'.map f = items' := by
  generalize made : sources.map f = items at h
  induction h generalizing sources with
  | refl items => exact ⟨sources, .refl sources, made⟩
  | swap allowed rest =>
    match sources, made with
    | a :: b :: rest, made =>
      cases made
      exact ⟨b :: a :: rest, .swap (a := a) (b := b) allowed rest, rfl⟩
  | cons a _ ih =>
    match sources, made with
    | a :: rest, made =>
      cases made
      obtain ⟨rest', swapped, rfl⟩ := ih rfl
      exact ⟨a :: rest', .cons a swapped, rfl⟩
  | trans _ _ first second =>
    obtain ⟨between, swapped, reached⟩ := first made
    obtain ⟨sources', swapped', reached'⟩ := second reached
    exact ⟨sources', swapped.trans swapped', reached'⟩

end Swaps

/-- Two entries have different keys. -/
def KeysApart (a b : String × α) : Prop := a.1 ≠ b.1

theorem lookup_swaps {entries entries' : List (String × α)} (h : Swaps KeysApart entries entries')
    (key : String) : entries.lookup key = entries'.lookup key := by
  induction h with
  | refl => rfl
  | @swap a b apart rest =>
    obtain ⟨name, _⟩ := a
    obtain ⟨other, _⟩ := b
    have different : name ≠ other := apart
    by_cases same : key = name
    · subst same
      have later : (key == other) = false := by simpa using different
      simp [List.lookup_cons, later]
    · have later : (key == name) = false := by simpa using same
      simp [List.lookup_cons, later]
  | cons entry _ ih =>
    obtain ⟨name, _⟩ := entry
    simp only [List.lookup_cons, ih]
  | trans _ _ first second => exact first.trans second

theorem SortedMap.insert_insert_of_ne (m : SortedMap α) {key other : String} (ne : key ≠ other)
    (value value' : α) :
    (m.insert key value).insert other value' = (m.insert other value').insert key value := by
  apply SortedMap.ext_get?
  intro name
  simp only [SortedMap.get?_insert]
  by_cases same : name = other
  · simp [same, Ne.symm ne]
  · simp [same]

theorem SortedMap.ofList_swaps {entries entries' : List (String × α)}
    (h : Swaps KeysApart entries entries') : ofList entries = ofList entries' :=
  h.foldl (fun _ _ m apart => m.insert_insert_of_ne apart _ _) empty

/-! ## Arranging entries -/

/-- Put an entry in front of the first entry with the same or a later key. -/
def placeEntry (entry : String × α) : List (String × α) → List (String × α)
  | [] => [entry]
  | first :: rest =>
    if first.1 < entry.1 then first :: placeEntry entry rest else entry :: first :: rest

theorem swaps_placeEntry (entry : String × α) (entries : List (String × α)) :
    Swaps KeysApart (entry :: entries) (placeEntry entry entries) := by
  induction entries with
  | nil => exact .refl _
  | cons first rest ih =>
    unfold placeEntry
    split
    · rename_i before
      have apart : KeysApart entry first := fun same => String.lt_irrefl _ (same ▸ before)
      exact (Swaps.swap apart rest).trans (.cons first ih)
    · exact .refl _

/-- Whether a schema leaves undeclared properties open, so that its first property stands for all
if it describes a map. -/
def AdditionalProperties.isOpen : Option (AdditionalProperties α) → Bool
  | some (.allowed b) => b
  | _ => false

mutual

/-- The schema with the properties of all schemas in it in ascending order of their names. On
demand the first property of an open schema stays in front. -/
def Schema.arranged (keep : Bool) : Schema → Schema
  | ⟨type, format, title, description, default, properties, required, additional, items, allOf,
      oneOf, anyOf, discriminator, enum, readOnly, writeOnly, extensions⟩ =>
    { type, format, title, description, default, required, discriminator, enum, readOnly,
      writeOnly, extensions
      properties := arrangedProperties keep (keep && AdditionalProperties.isOpen additional)
        properties
      additionalProperties := arrangedAdditional keep additional
      items := arrangedOptional keep items
      allOf := arrangedList keep allOf
      oneOf := arrangedList keep oneOf
      anyOf := arrangedList keep anyOf }

/-- A schema or a reference, arranged. -/
def arrangedPart (keep : Bool) : SchemaOrRef → SchemaOrRef
  | .ref path => .ref path
  | .item s => .item (s.arranged keep)

/-- Properties, arranged, and in ascending order of their names. -/
def arrangedFields (keep : Bool) : List (String × SchemaOrRef) → List (String × SchemaOrRef)
  | [] => []
  | (name, part) :: rest => placeEntry (name, arrangedPart keep part) (arrangedFields keep rest)

/-- Properties, arranged, and in ascending order of their names. On demand the first one stays in
front. -/
def arrangedProperties (keep first : Bool) :
    List (String × SchemaOrRef) → List (String × SchemaOrRef)
  | [] => []
  | (name, part) :: rest =>
    if first then (name, arrangedPart keep part) :: arrangedFields keep rest
    else placeEntry (name, arrangedPart keep part) (arrangedFields keep rest)

/-- The schemas of a list, arranged. -/
def arrangedList (keep : Bool) : List SchemaOrRef → List SchemaOrRef
  | [] => []
  | part :: rest => arrangedPart keep part :: arrangedList keep rest

/-- A schema that may be absent, arranged. -/
def arrangedOptional (keep : Bool) : Option SchemaOrRef → Option SchemaOrRef
  | none => none
  | some part => some (arrangedPart keep part)

/-- What is said of undeclared properties, arranged. -/
def arrangedAdditional (keep : Bool) :
    Option (AdditionalProperties Schema) → Option (AdditionalProperties Schema)
  | none => none
  | some (.allowed b) => some (.allowed b)
  | some (.schema part) => some (.schema (arrangedPart keep part))

end

/-! ## What an arrangement keeps -/

section

variable (keep : Bool)

theorem arrangedList_eq (parts : List SchemaOrRef) :
    arrangedList keep parts = parts.map (arrangedPart keep) := by
  induction parts with
  | nil => rfl
  | cons part rest ih => rw [arrangedList, ih, List.map_cons]

theorem arrangedOptional_eq (part : Option SchemaOrRef) :
    arrangedOptional keep part = part.map (arrangedPart keep) := by
  cases part <;> rfl

/-- Arranging properties arranges each of them and swaps them until they are in order. -/
theorem swaps_arrangedFields (properties : List (String × SchemaOrRef)) :
    Swaps KeysApart (properties.map (SortedMap.onValue (arrangedPart keep)))
      (arrangedFields keep properties) := by
  induction properties with
  | nil => exact .refl []
  | cons property rest ih => exact (Swaps.cons _ ih).trans (swaps_placeEntry _ _)

theorem swaps_arrangedProperties (first : Bool) (properties : List (String × SchemaOrRef)) :
    Swaps KeysApart (properties.map (SortedMap.onValue (arrangedPart keep)))
      (arrangedProperties keep first properties) := by
  cases properties with
  | nil => exact .refl []
  | cons property rest =>
    have behind := Swaps.cons (SortedMap.onValue (arrangedPart keep) property)
      (swaps_arrangedFields keep rest)
    cases first with
    | true => exact behind
    | false => exact behind.trans (swaps_placeEntry _ _)

end

/-! ### Sizes -/

theorem sizeOfFields_perm {properties properties' : List (String × SchemaOrRef)}
    (h : properties.Perm properties') : sizeOfFields properties = sizeOfFields properties' := by
  induction h with
  | nil => rfl
  | cons property _ ih => simp only [sizeOfFields, ih]
  | swap property other rest =>
    simp only [sizeOfFields]
    omega
  | trans _ _ first second => exact first.trans second

mutual

theorem Schema.size_arranged (keep : Bool) : ∀ s : Schema, (s.arranged keep).size = s.size
  | ⟨_, _, _, _, _, properties, _, additional, items, allOf, oneOf, anyOf, _, _, _, _, _⟩ => by
    have fields := (sizeOfFields_perm (swaps_arrangedProperties keep
      (keep && AdditionalProperties.isOpen additional) properties).perm).symm
    simp only [Schema.arranged, Schema.size, fields, size_map_arrangedPart keep properties,
      size_arrangedAdditional keep additional, size_arrangedOptional keep items,
      size_arrangedList keep allOf, size_arrangedList keep oneOf, size_arrangedList keep anyOf]

theorem size_arrangedPart (keep : Bool) : ∀ part : SchemaOrRef,
    sizeOfRef (arrangedPart keep part) = sizeOfRef part
  | .ref _ => rfl
  | .item s => s.size_arranged keep

theorem size_map_arrangedPart (keep : Bool) : ∀ properties : List (String × SchemaOrRef),
    sizeOfFields (properties.map (SortedMap.onValue (arrangedPart keep))) = sizeOfFields properties
  | [] => rfl
  | (_, part) :: rest => by
    simp only [List.map_cons, SortedMap.onValue, sizeOfFields, size_arrangedPart keep part,
      size_map_arrangedPart keep rest]

theorem size_arrangedList (keep : Bool) : ∀ parts : List SchemaOrRef,
    sizeOfList (arrangedList keep parts) = sizeOfList parts
  | [] => rfl
  | part :: rest => by
    simp only [arrangedList, sizeOfList, size_arrangedPart keep part, size_arrangedList keep rest]

theorem size_arrangedOptional (keep : Bool) : ∀ part : Option SchemaOrRef,
    sizeOfOptional (arrangedOptional keep part) = sizeOfOptional part
  | none => rfl
  | some part => size_arrangedPart keep part

theorem size_arrangedAdditional (keep : Bool) : ∀ a : Option (AdditionalProperties Schema),
    sizeOfAdditional (arrangedAdditional keep a) = sizeOfAdditional a
  | none => rfl
  | some (.allowed _) => rfl
  | some (.schema part) => size_arrangedPart keep part

end

/-! ## Schemas that are alike -/

/-- The schemas differ only in the order of properties, and open schemas in them have the same
first property. -/
def Schema.Like (s s' : Schema) : Prop := s.arranged true = s'.arranged true

/-- Both are the same reference, or schemas that differ only in the order of properties. -/
def PartsLike (part part' : SchemaOrRef) : Prop := arrangedPart true part = arrangedPart true part'

namespace Schema

/-- The schema without the schemas in it. -/
def bare (s : Schema) : Schema :=
  { s with
    properties := [], additionalProperties := none, items := none, allOf := [], oneOf := []
    anyOf := [] }

variable (keep : Bool) (s : Schema)

theorem arranged_properties : (s.arranged keep).properties = arrangedProperties keep
    (keep && AdditionalProperties.isOpen s.additionalProperties) s.properties := by
  cases s
  rfl

theorem arranged_additional :
    (s.arranged keep).additionalProperties = arrangedAdditional keep s.additionalProperties := by
  cases s
  rfl

theorem arranged_items : (s.arranged keep).items = s.items.map (arrangedPart keep) := by
  cases s
  exact arrangedOptional_eq ..

theorem arranged_allOf : (s.arranged keep).allOf = s.allOf.map (arrangedPart keep) := by
  cases s
  exact arrangedList_eq ..

theorem arranged_oneOf : (s.arranged keep).oneOf = s.oneOf.map (arrangedPart keep) := by
  cases s
  exact arrangedList_eq ..

theorem arranged_anyOf : (s.arranged keep).anyOf = s.anyOf.map (arrangedPart keep) := by
  cases s
  exact arrangedList_eq ..

theorem arranged_bare : (s.arranged keep).bare = s.bare := by
  cases s
  rfl

end Schema

theorem Schema.mapValues?_eq (s : Schema) : s.mapValues? =
    if AdditionalProperties.isOpen s.additionalProperties then s.properties.head?.map (·.2)
    else none := by
  unfold Schema.mapValues? AdditionalProperties.isOpen
  rcases s.additionalProperties with _ | (_ | _) | _ <;> rfl

namespace Schema.Like

variable {s s' : Schema} (like : s.Like s')

include like

theorem bare : s.bare = s'.bare := by
  rw [← s.arranged_bare true, ← s'.arranged_bare true, show s.arranged true = _ from like]

theorem type : s.type = s'.type := (congrArg Schema.type like.bare :)

theorem title : s.title = s'.title := (congrArg Schema.title like.bare :)

theorem description : s.description = s'.description := (congrArg Schema.description like.bare :)

theorem default : s.default = s'.default := (congrArg Schema.default like.bare :)

theorem required : s.required = s'.required := (congrArg Schema.required like.bare :)

theorem discriminator : s.discriminator = s'.discriminator :=
  (congrArg Schema.discriminator like.bare :)

theorem enum : s.enum = s'.enum := (congrArg Schema.enum like.bare :)

theorem readOnly : s.readOnly = s'.readOnly := (congrArg Schema.readOnly like.bare :)

theorem extensions : s.extensions = s'.extensions := (congrArg Schema.extensions like.bare :)

theorem allOf : s.allOf.map (arrangedPart true) = s'.allOf.map (arrangedPart true) := by
  rw [← arranged_allOf, ← arranged_allOf, show s.arranged true = _ from like]

theorem oneOf : s.oneOf.map (arrangedPart true) = s'.oneOf.map (arrangedPart true) := by
  rw [← arranged_oneOf, ← arranged_oneOf, show s.arranged true = _ from like]

theorem anyOf : s.anyOf.map (arrangedPart true) = s'.anyOf.map (arrangedPart true) := by
  rw [← arranged_anyOf, ← arranged_anyOf, show s.arranged true = _ from like]

theorem items : s.items.map (arrangedPart true) = s'.items.map (arrangedPart true) := by
  rw [← arranged_items, ← arranged_items, show s.arranged true = _ from like]

theorem additional : arrangedAdditional true s.additionalProperties =
    arrangedAdditional true s'.additionalProperties := by
  rw [← arranged_additional, ← arranged_additional, show s.arranged true = _ from like]

theorem size : s.size = s'.size := by
  rw [← s.size_arranged true, ← s'.size_arranged true, show s.arranged true = _ from like]

/-! ### What inference asks of a schema -/

theorem hasType (type : SchemaType) : s.hasType type = s'.hasType type := by
  rw [Schema.hasType, Schema.hasType, like.type]

theorem primaryType? : s.primaryType? = s'.primaryType? := by
  rw [Schema.primaryType?, Schema.primaryType?, like.type]

theorem isSecret : s.isSecret = s'.isSecret := by
  rw [Schema.isSecret, Schema.isSecret, like.extensions]

theorem scalarDefault? : s.scalarDefault? = s'.scalarDefault? := by
  rw [Schema.scalarDefault?, Schema.scalarDefault?, like.hasType, like.default]

theorem isOpen : AdditionalProperties.isOpen s.additionalProperties =
    AdditionalProperties.isOpen s'.additionalProperties := by
  have kept : ∀ a : Option (AdditionalProperties Schema),
      AdditionalProperties.isOpen (arrangedAdditional true a) = AdditionalProperties.isOpen a := by
    rintro (_ | (_ | _)) <;> rfl
  rw [← kept s.additionalProperties, ← kept s'.additionalProperties, like.additional]

theorem hasValueSchema : s.hasValueSchema = s'.hasValueSchema := by
  have additional := like.additional
  unfold Schema.hasValueSchema
  generalize s.additionalProperties = a at additional
  generalize s'.additionalProperties = a' at additional
  rcases a with _ | (_ | _) <;> rcases a' with _ | (_ | _) <;> first | rfl | cases additional

theorem arrangedProperties_eq :
    arrangedProperties true (AdditionalProperties.isOpen s.additionalProperties) s.properties =
      arrangedProperties true (AdditionalProperties.isOpen s.additionalProperties)
        s'.properties := by
  have properties := congrArg Schema.properties like
  rw [arranged_properties, arranged_properties, ← like.isOpen] at properties
  exact properties

/-- In ascending order of their names the properties are alike. -/
theorem declared :
    (SortedMap.ofList s.properties).toList.map (SortedMap.onValue (arrangedPart true)) =
      (SortedMap.ofList s'.properties).toList.map (SortedMap.onValue (arrangedPart true)) := by
  have ordered := fun properties => SortedMap.ofList_swaps (swaps_arrangedProperties true
    (AdditionalProperties.isOpen s.additionalProperties) properties)
  have same := (ordered s.properties).trans
    ((congrArg SortedMap.ofList like.arrangedProperties_eq).trans (ordered s'.properties).symm)
  have changed := fun properties : List (String × SchemaOrRef) =>
    SortedMap.toList_ofList_map (fun _ => arrangedPart true) properties
  exact (changed s.properties).symm.trans ((congrArg SortedMap.toList same).trans
    (changed s'.properties))

/-- The properties of a name are alike. -/
theorem lookup (name : String) : (s.properties.lookup name).map (arrangedPart true) =
    (s'.properties.lookup name).map (arrangedPart true) := by
  have ordered := fun properties => lookup_swaps (swaps_arrangedProperties true
    (AdditionalProperties.isOpen s.additionalProperties) properties) name
  have changed := fun properties : List (String × SchemaOrRef) =>
    lookup_map_entries (fun _ => arrangedPart true) properties name
  have same := (ordered s.properties).trans
    ((congrArg (List.lookup name) like.arrangedProperties_eq).trans (ordered s'.properties).symm)
  exact (changed s.properties).symm.trans (same.trans (changed s'.properties))

theorem isEmpty_properties : s.properties.isEmpty = s'.properties.isEmpty := by
  have lengths := fun properties : List (String × SchemaOrRef) =>
    (swaps_arrangedProperties true (AdditionalProperties.isOpen s.additionalProperties)
      properties).perm.length_eq
  have same := (lengths s.properties).trans
    ((congrArg List.length like.arrangedProperties_eq).trans (lengths s'.properties).symm)
  simp only [List.length_map] at same
  rw [Bool.eq_iff_iff, List.isEmpty_iff_length_eq_zero, List.isEmpty_iff_length_eq_zero, same]

theorem isEmpty_allOf : s.allOf.isEmpty = s'.allOf.isEmpty := by
  simpa using congrArg List.isEmpty like.allOf

theorem isEmpty_oneOf : s.oneOf.isEmpty = s'.oneOf.isEmpty := by
  simpa using congrArg List.isEmpty like.oneOf

theorem isObjectLike : s.isObjectLike = s'.isObjectLike := by
  rw [Schema.isObjectLike, Schema.isObjectLike, like.hasType, like.isEmpty_properties,
    like.isEmpty_allOf]

/-- The values of a map are alike: the first property of an open schema stays in front. -/
theorem mapValues? :
    s.mapValues?.map (arrangedPart true) = s'.mapValues?.map (arrangedPart true) := by
  have front : ∀ properties : List (String × SchemaOrRef),
      (properties.head?.map (·.2)).map (arrangedPart true) =
        (arrangedProperties true true properties).head?.map (·.2) := by
    rintro (_ | _) <;> rfl
  have properties := like.arrangedProperties_eq
  rw [s.mapValues?_eq, s'.mapValues?_eq, ← like.isOpen]
  cases isOpen : AdditionalProperties.isOpen s.additionalProperties with
  | false => rfl
  | true =>
    rw [isOpen] at properties
    rw [if_pos rfl, if_pos rfl, front, front, properties]

end Schema.Like

/-! ## Documents -/

/-- Every value of a table, arranged. -/
def arrangedTable (arrange : α → α) (table : List (String × α)) : List (String × α) :=
  table.map (SortedMap.onValue arrange)

/-- A component, arranged, or a reference. -/
def RefOr.arranged (arrange : α → α) : RefOr α → RefOr α
  | .ref path => .ref path
  | .item component => .item (arrange component)

section

variable (keep : Bool)

/-- The content of a body, arranged. -/
def MediaType.arranged (media : MediaType) : MediaType := ⟨media.schema.map (arrangedPart keep)⟩

/-- A request body, arranged. -/
def RequestBody.arranged (body : RequestBody) : RequestBody :=
  { body with content := arrangedTable (MediaType.arranged keep) body.content }

/-- A response, arranged. -/
def Response.arranged (response : Response) : Response :=
  { response with content := arrangedTable (MediaType.arranged keep) response.content }

/-- An operation with its bodies arranged. -/
def Operation.arranged (operation : Operation) : Operation :=
  { operation with
    requestBody := operation.requestBody.map (RefOr.arranged (RequestBody.arranged keep))
    responses := arrangedTable (RefOr.arranged (Response.arranged keep)) operation.responses }

/-- A path with its operations arranged. -/
def PathItem.arranged (item : PathItem) : PathItem :=
  { item with
    get := item.get.map (Operation.arranged keep)
    post := item.post.map (Operation.arranged keep)
    put := item.put.map (Operation.arranged keep)
    delete := item.delete.map (Operation.arranged keep)
    patch := item.patch.map (Operation.arranged keep) }

/-- The component tables with schemas and bodies arranged. -/
def Components.arranged (components : Components) : Components :=
  { components with
    schemas := arrangedTable (arrangedPart keep) components.schemas
    requestBodies := arrangedTable (RefOr.arranged (RequestBody.arranged keep))
      components.requestBodies
    responses := arrangedTable (RefOr.arranged (Response.arranged keep)) components.responses }

/-- The document with the properties of all schemas in ascending order of their names: those of
components and those in requests and responses. On demand the first property of an open schema
stays in front. -/
def Document.arranged (d : Document) : Document :=
  { d with
    paths := arrangedTable (PathItem.arranged keep) d.paths
    components := d.components.map (Components.arranged keep) }

end

theorem lookup_arrangedTable (arrange : α → α) (table : List (String × α)) (key : String) :
    (arrangedTable arrange table).lookup key = (table.lookup key).map arrange :=
  lookup_map_entries (fun _ => arrange) table key

theorem Document.tables_arranged (keep : Bool) (d : Document) :
    (d.arranged keep).tables = d.tables.arranged keep := by
  unfold Document.tables Document.arranged
  cases d.components <;> rfl

/-! ### Following references -/

namespace Lookup

variable (keep : Bool) (d : Document)

/-- What was found, arranged. -/
def Found.arranged (found : Found) : Found := ⟨found.name, found.schema.arranged keep⟩

theorem follow_arranged (bound : Nat) : ∀ (name : String) (seen : List String),
    follow (d.arranged keep) name seen bound =
      (follow d name seen bound).map (Schema.arranged keep) := by
  induction bound with
  | zero => exact fun _ _ => rfl
  | succ bound ih =>
    intro name seen
    have held : (d.arranged keep).schema? name = (d.schema? name).map (arrangedPart keep) := by
      rw [Document.schema?, d.tables_arranged keep]
      exact lookup_arrangedTable ..
    rw [follow, follow, held]
    split
    · rfl
    · cases d.schema? name with
      | none => rfl
      | some part =>
        cases part with
        | item s => rfl
        | ref path =>
          simp only [Option.map_some, arrangedPart]
          cases targetName "schemas" path with
          | error e => rfl
          | ok target => exact ih target _

theorem component_arranged (name : String) : component (d.arranged keep) name =
    (component d name).map (Schema.arranged keep) := by
  have length : (d.arranged keep).tables.schemas.length = d.tables.schemas.length := by
    rw [d.tables_arranged keep]
    exact List.length_map _
  rw [component, component, length, follow_arranged]

theorem schema_arranged (part : SchemaOrRef) : schema (d.arranged keep) (arrangedPart keep part) =
    (schema d part).map (Found.arranged keep) := by
  cases part with
  | item s => rfl
  | ref path =>
    simp only [arrangedPart, schema, component_arranged]
    cases targetName "schemas" path with
    | error e => rfl
    | ok name =>
      change (do return ⟨some name, ← (component d name).map (Schema.arranged keep)⟩) =
        Except.map (Found.arranged keep) (do return ⟨some name, ← component d name⟩)
      cases component d name <;> rfl

theorem schemaByName_arranged (reference : String) : schemaByName (d.arranged keep) reference =
    (schemaByName d reference).map (Found.arranged keep) := by
  rw [schemaByName, schemaByName, component_arranged]
  cases component d (schemaName reference) <;> rfl

theorem parameter_arranged : parameter (d.arranged keep) = parameter d := by
  rw [parameter, parameter, d.tables_arranged keep]
  rfl

/-- A component that is found directly is arranged along with its table. -/
theorem direct_arranged (kind : String) (table : List (String × RefOr α)) (arrange : α → α)
    (r : RefOr α) : direct kind (arrangedTable (RefOr.arranged arrange) table)
      (r.arranged arrange) = (direct kind table r).map arrange := by
  cases r with
  | item component => rfl
  | ref path =>
    have held : ∀ name, ((arrangedTable (RefOr.arranged arrange) table).lookup name).bind
        RefOr.item? = ((table.lookup name).bind RefOr.item?).map arrange := by
      intro name
      rw [lookup_arrangedTable]
      rcases table.lookup name with _ | (_ | _) <;> rfl
    simp only [RefOr.arranged, direct, held]
    cases targetName kind path with
    | error e => rfl
    | ok name =>
      simp only [bind, Except.bind]
      cases (table.lookup name).bind RefOr.item? <;> rfl

theorem requestBody_arranged (r : RefOr RequestBody) :
    requestBody (d.arranged keep) (r.arranged (RequestBody.arranged keep)) =
      (requestBody d r).map (RequestBody.arranged keep) := by
  rw [requestBody, requestBody, d.tables_arranged keep]
  exact direct_arranged ..

theorem response_arranged (r : RefOr Response) :
    response (d.arranged keep) (r.arranged (Response.arranged keep)) =
      (response d r).map (Response.arranged keep) := by
  rw [response, response, d.tables_arranged keep]
  exact direct_arranged ..

end Lookup

end ResourceInference
