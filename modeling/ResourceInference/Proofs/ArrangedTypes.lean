import ResourceInference.Proofs.Arrangement
import ResourceInference.Proofs.Courses

/-!
# Types in arranged documents

Two documents that are the same when they are arranged are compared step by step
(`Infer.Alike`): from any session, both steps fail, or both give results that are alike and leave
the same session. Errors are not compared, since some of them show a schema.

A schema is given the same type in both documents (`propertyType_alike`): properties are taken in
the order of their names, and of the order of the document only the first property of an open
schema is read.
-/

set_option autoImplicit false

namespace ResourceInference

variable {α β γ δ : Type}

namespace Infer

/-- From every session both steps fail, or both give results that are alike and leave the same
session. -/
structure Alike (rel : α → β → Prop) (x : Infer α) (y : Infer β) : Prop where
  outcomes : ∀ s, (∃ a b t, x.run.run s = (.ok a, t) ∧ y.run.run s = (.ok b, t) ∧ rel a b) ∨
    ∃ e t e' t', x.run.run s = (.error e, t) ∧ y.run.run s = (.error e', t')

namespace Alike

variable {rel : α → β → Prop} {rel' : γ → δ → Prop}

/-! ## Putting steps together -/

theorem refl (x : Infer α) : Alike Eq x x := by
  constructor
  intro s
  rcases x.run.run s with ⟨e | a, t⟩
  · exact .inr ⟨e, t, e, t, rfl, rfl⟩
  · exact .inl ⟨a, a, t, rfl, rfl, rfl⟩

theorem of_eq {x y : Infer α} (h : x = y) : Alike Eq x y := h ▸ refl x

theorem pure {a : α} {b : β} (h : rel a b) : Alike rel (pure a) (pure b) :=
  ⟨fun s => .inl ⟨a, b, s, rfl, rfl, h⟩⟩

theorem throw (e e' : InferenceError) : Alike rel (throw e : Infer α) (throw e' : Infer β) :=
  ⟨fun s => .inr ⟨e, s, e', s, rfl, rfl⟩⟩

theorem mono {weaker : α → β → Prop} {x : Infer α} {y : Infer β} (h : Alike rel x y)
    (imp : ∀ a b, rel a b → weaker a b) : Alike weaker x y := by
  constructor
  intro s
  rcases h.outcomes s with ⟨a, b, t, left, right, related⟩ | failed
  · exact .inl ⟨a, b, t, left, right, imp a b related⟩
  · exact .inr failed

theorem bind {x : Infer α} {y : Infer β} {f : α → Infer γ} {g : β → Infer δ}
    (first : Alike rel x y) (rest : ∀ a b, rel a b → Alike rel' (f a) (g b)) :
    Alike rel' (x >>= f) (y >>= g) := by
  constructor
  intro s
  rw [run_bind, run_bind]
  rcases first.outcomes s with ⟨a, b, t, left, right, related⟩ | ⟨e, t, e', t', left, right⟩
  · rw [left, right]
    exact (rest a b related).outcomes t
  · rw [left, right]
    exact .inr ⟨e, t, e', t', rfl, rfl⟩

theorem bind_same {x y : Infer α} {f : α → Infer γ} {g : α → Infer δ} (first : Alike Eq x y)
    (rest : ∀ a, Alike rel' (f a) (g a)) : Alike rel' (x >>= f) (y >>= g) := by
  apply first.bind
  rintro a _ rfl
  exact rest a

/-- Where the first step only looks things up, the rest may rely on what it yields. -/
theorem bind_reads {x : Infer α} {y : Infer β} {f : α → Infer γ} {g : β → Infer δ}
    (first : Alike rel x y) (hx : Reads x) (hy : Reads y)
    (rest : ∀ a b, rel a b → x.Yields a → y.Yields b → Alike rel' (f a) (g b)) :
    Alike rel' (x >>= f) (y >>= g) := by
  obtain ⟨result, ran⟩ := hx
  obtain ⟨result', ran'⟩ := hy
  constructor
  intro s
  rw [run_bind, run_bind]
  rcases first.outcomes s with ⟨a, b, t, left, right, related⟩ | ⟨e, t, e', t', left, right⟩
  · cases (ran s).symm.trans left
    cases (ran' s).symm.trans right
    rw [left, right]
    exact (rest a b related ran ran').outcomes s
  · rw [left, right]
    exact .inr ⟨e, t, e', t', rfl, rfl⟩

theorem trans {x y z : Infer α} (first : Alike Eq x y) (second : Alike Eq y z) : Alike Eq x z := by
  constructor
  intro s
  rcases first.outcomes s with ⟨a, _, t, left, middle, rfl⟩ | ⟨e, t, e', t', left, middle⟩
  · rcases second.outcomes s with ⟨_, b, t', middle', right, rfl⟩ | ⟨_, _, e', _, middle', right⟩
    · cases middle.symm.trans middle'
      exact .inl ⟨a, a, t, left, right, rfl⟩
    · cases middle.symm.trans middle'
  · rcases second.outcomes s with ⟨_, b, t', middle', right, rfl⟩ | ⟨_, _, e', t', middle', right⟩
    · cases middle.symm.trans middle'
    · exact .inr ⟨e, t, e', t', left, right⟩

theorem symm {x y : Infer α} (h : Alike Eq x y) : Alike Eq y x := by
  constructor
  intro s
  rcases h.outcomes s with ⟨a, _, t, left, right, rfl⟩ | ⟨e, t, e', t', left, right⟩
  · exact .inl ⟨a, a, t, right, left, rfl⟩
  · exact .inr ⟨e', t', e, t, right, left⟩

theorem ite {c c' : Bool} (same : c = c') {x x' : Infer α} {y y' : Infer β} (yes : Alike rel x y)
    (no : Alike rel x' y') : Alike rel (if c then x else x') (if c' then y else y') := by
  subst same
  cases c
  · exact no
  · exact yes

/-- Folds over lists whose items are alike. -/
theorem foldlM (image : α → γ) {f g : β → α → Infer β}
    (step : ∀ b a a', image a = image a' → Alike Eq (f b a) (g b a')) :
    ∀ {items items' : List α}, items.map image = items'.map image →
      ∀ b, Alike Eq (items.foldlM f b) (items'.foldlM g b) := by
  intro items
  induction items with
  | nil =>
    intro items' same b
    obtain rfl := List.map_eq_nil_iff.1 same.symm
    exact .pure rfl
  | cons a rest ih =>
    intro items' same b
    cases items' with
    | nil => cases same
    | cons a' rest' =>
      obtain ⟨first, behind⟩ := List.cons.inj same
      rw [List.foldlM_cons, List.foldlM_cons]
      exact (step b a a' first).bind_same fun b => ih behind b

theorem mapM (image : α → γ) {f g : α → Infer β} {items items' : List α}
    (step : ∀ a ∈ items, ∀ a' ∈ items', image a = image a' → Alike Eq (f a) (g a'))
    (same : items.map image = items'.map image) : Alike Eq (items.mapM f) (items'.mapM g) := by
  induction items generalizing items' with
  | nil =>
    obtain rfl := List.map_eq_nil_iff.1 same.symm
    exact .pure rfl
  | cons a rest ih =>
    cases items' with
    | nil => cases same
    | cons a' rest' =>
      obtain ⟨first, behind⟩ := List.cons.inj same
      rw [List.mapM_cons, List.mapM_cons]
      apply (step a List.mem_cons_self a' List.mem_cons_self first).bind_same
      intro b
      refine (ih ?_ behind).bind_same fun bs => .pure rfl
      exact fun c member c' member' =>
        step c (List.mem_cons_of_mem _ member) c' (List.mem_cons_of_mem _ member')

theorem forM (image : α → γ) {f g : α → Infer Unit} {items items' : List α}
    (step : ∀ a ∈ items, ∀ a' ∈ items', image a = image a' → Alike Eq (f a) (g a'))
    (same : items.map image = items'.map image) : Alike Eq (items.forM f) (items'.forM g) := by
  induction items generalizing items' with
  | nil =>
    obtain rfl := List.map_eq_nil_iff.1 same.symm
    exact .pure rfl
  | cons a rest ih =>
    cases items' with
    | nil => cases same
    | cons a' rest' =>
      obtain ⟨first, behind⟩ := List.cons.inj same
      apply (step a List.mem_cons_self a' List.mem_cons_self first).bind_same
      intro _
      refine ih ?_ behind
      exact fun c member c' member' =>
        step c (List.mem_cons_of_mem _ member) c' (List.mem_cons_of_mem _ member')

theorem optionForM (image : α → γ) {f g : α → Infer Unit}
    (step : ∀ a a', image a = image a' → Alike Eq (f a) (g a')) {item item' : Option α}
    (same : item.map image = item'.map image) : Alike Eq (item.forM f) (item'.forM g) := by
  obtain ⟨rfl, rfl⟩ | ⟨a, a', rfl, rfl, image⟩ := cases_of_map_eq same
  · exact .pure rfl
  · exact step a a' image

end Alike

end Infer

/-! ## Tasks that are alike -/

/-- The same options, and documents that are the same when they are arranged: they differ only in
the order of properties, and open schemas in them have the same first property. -/
structure InferenceTask.Like (task task' : InferenceTask) : Prop where
  options : task.options = task'.options
  document : task.document.arranged true = task'.document.arranged true

namespace Lookup.Found

/-- The same name, and schemas that are alike. -/
structure Like (found found' : Found) : Prop where
  name : found.name = found'.name
  schema : found.schema.Like found'.schema

theorem like_of_arranged {found found' : Found} (h : found.arranged true = found'.arranged true) :
    found.Like found' :=
  ⟨(congrArg Found.name h :), (congrArg Found.schema h :)⟩

end Lookup.Found

namespace Infer

/-- Look-ups of components that are the same when they are arranged. -/
theorem alike_ofLookup {arrange : α → α} {result result' : Except LookupError α}
    (same : result.map arrange = result'.map arrange) :
    Alike (fun a b => arrange a = arrange b) (ofLookup result) (ofLookup result') := by
  cases result with
  | error e =>
    cases result' with
    | error e' => exact .throw _ _
    | ok b => cases same
  | ok a =>
    cases result' with
    | error e => cases same
    | ok b => exact .pure (Except.ok.inj same)

variable {task task' : InferenceTask} (like : task.Like task')

include like

theorem token_like : task.token = task'.token := by
  funext module name
  rw [InferenceTask.token, InferenceTask.token, like.options]

theorem find_alike {part part' : SchemaOrRef} (same : PartsLike part part') :
    Alike Lookup.Found.Like (find task part) (find task' part') := by
  have found : (Lookup.schema task.document part).map (Lookup.Found.arranged true) =
      (Lookup.schema task'.document part').map (Lookup.Found.arranged true) := by
    rw [← Lookup.schema_arranged, ← Lookup.schema_arranged, like.document,
      show arrangedPart true part = _ from same]
  exact (alike_ofLookup found).mono fun _ _ => Lookup.Found.like_of_arranged

theorem registerGenerated_alike (scope : Scope) (name : String) (type : NamedType) :
    Alike Eq (registerGenerated task scope name type)
      (registerGenerated task' scope name type) := by
  apply Alike.of_eq
  simp only [registerGenerated, token_like like]

/-- An enum is made of keywords that hold no schemas. -/
theorem enumOrNone_alike (scope : Scope) (parent : String) {s s' : Schema} (same : s.Like s') :
    Alike Eq (enumOrNone task scope parent s) (enumOrNone task' scope parent s') := by
  have candidates : ∀ name, EnumSearch.ofSchema? name s = EnumSearch.ofSchema? name s' := by
    intro name
    rw [EnumSearch.ofSchema?, EnumSearch.ofSchema?, same.primaryType?, same.description, same.enum]
  have searches : ∀ bound name, EnumSearch.search task scope s name bound =
      EnumSearch.search task' scope s' name bound := by
    intro bound
    induction bound with
    | zero => exact fun _ => rfl
    | succ bound ih => simp only [EnumSearch.search, candidates, token_like like, ih, implies_true]
  apply Alike.of_eq
  simp only [enumOrNone, enumType, searches, same.enum, like.options]

/-! ## Types of schemas -/

section

variable {x y : Resolver} (inside : ∀ scope parent found found',
    Lookup.Found.Like found found' → Alike Eq (x scope parent found) (y scope parent found'))
  (scope : Scope) (parent : String)

include inside

theorem mergePart_alike (members : Members) {part part' : SchemaOrRef}
    (same : PartsLike part part') : Alike Eq (mergePart task x scope parent members part)
      (mergePart task' y scope parent members part') := by
  unfold mergePart
  apply (find_alike like same).bind
  intro found found' alike
  apply Alike.ite
  · rw [alike.name, alike.schema.isObjectLike]
  · exact .pure rfl
  · apply (inside scope parent found found' alike).bind_same
    intro resolved
    apply (Alike.refl (takeObject resolved)).bind_same
    intro object
    exact .refl _

theorem mergedMembers_alike {parts parts' : List SchemaOrRef}
    (same : parts.map (arrangedPart true) = parts'.map (arrangedPart true)) :
    Alike Eq (mergedMembers task x scope parent parts)
      (mergedMembers task' y scope parent parts') :=
  .foldlM _ (fun members _ _ => mergePart_alike like inside scope parent members) same {}

omit parent in
theorem propertyTypeOf_alike (mapName typeName : String) {found found' : Lookup.Found}
    (alike : found.Like found') :
    Alike Eq (propertyTypeOf task x scope mapName typeName found)
      (propertyTypeOf task' y scope mapName typeName found') := by
  unfold propertyTypeOf
  obtain ⟨left, right⟩ | ⟨values, values', left, right, same⟩ :=
    cases_of_map_eq alike.schema.mapValues?
  · rw [left, right]
    apply (inside scope typeName found found' alike).bind_same
    exact fun resolved => .pure rfl
  · rw [left, right]
    apply (find_alike like same).bind
    intro inner inner' alikeInner
    apply (inside scope mapName inner inner' alikeInner).bind_same
    exact fun resolved => .pure rfl

theorem addProperty_alike (properties : PropertyMap) {entry entry' : String × SchemaOrRef}
    (same : SortedMap.onValue (arrangedPart true) entry =
      SortedMap.onValue (arrangedPart true) entry') :
    Alike Eq (addProperty task x scope parent properties entry)
      (addProperty task' y scope parent properties entry') := by
  obtain ⟨wire, part⟩ := entry
  obtain ⟨wire', part'⟩ := entry'
  obtain ⟨rfl, samePart⟩ := Prod.mk.inj same
  unfold addProperty
  apply (find_alike like samePart).bind
  intro found found' alike
  apply (Alike.refl (recordName _ _)).bind_same
  intro _
  apply (propertyTypeOf_alike like inside scope _ _ alike).bind_same
  intro type
  apply Alike.pure
  rw [PropertySpec.ofSchema, PropertySpec.ofSchema, alike.schema.description,
    alike.schema.scalarDefault?, alike.schema.isSecret]

theorem objectMembers_alike {s s' : Schema} (same : s.Like s') :
    Alike Eq (objectMembers task x scope parent s) (objectMembers task' y scope parent s') := by
  unfold objectMembers
  apply (Alike.foldlM _
    (fun properties _ _ => addProperty_alike like inside scope parent properties)
    same.declared ∅).bind_same
  intro properties
  apply (mergedMembers_alike like inside scope parent same.allOf).bind_same
  intro merged
  rw [same.required]
  exact .refl _

theorem objectType_alike {s s' : Schema} (same : s.Like s') :
    Alike Eq (objectType task x scope parent s) (objectType task' y scope parent s') := by
  apply (objectMembers_alike like inside scope parent same).bind_same
  intro members
  rw [same.description]
  exact .pure rfl

theorem variantTypes_alike {parts parts' : List SchemaOrRef}
    (same : parts.map (arrangedPart true) = parts'.map (arrangedPart true)) :
    Alike Eq (variantTypes task x scope parent parts)
      (variantTypes task' y scope parent parts') := by
  apply Alike.mapM _ ?_ same
  intro part _ part' _ samePart
  apply (find_alike like samePart).bind
  intro found found' alike
  apply (inside scope parent found found' alike).bind_same
  exact fun resolved => .pure rfl

theorem unionType_alike {s s' : Schema} (same : s.Like s') :
    Alike Eq (unionType task x scope parent s) (unionType task' y scope parent s') := by
  apply (variantTypes_alike like inside scope parent same.oneOf).bind_same
  intro variants
  rw [same.discriminator]
  exact .pure rfl

theorem mapType_alike {s s' : Schema} (same : s.Like s') :
    Alike Eq (mapType task x scope parent s) (mapType task' y scope parent s') := by
  have additional := same.additional
  unfold mapType
  generalize s.additionalProperties = a at additional
  generalize s'.additionalProperties = a' at additional
  rcases a with _ | (_ | part) <;> rcases a' with _ | (_ | part') <;>
    first | exact .pure rfl | cases additional | skip
  have samePart : PartsLike part part' := by
    injection additional with additional
    injection additional
  apply (find_alike like samePart).bind
  intro found found' alike
  apply (inside scope parent found found' alike).bind_same
  exact fun resolved => .pure rfl

theorem arrayType_alike {s s' : Schema} (same : s.Like s') :
    Alike Eq (arrayType task x scope parent s) (arrayType task' y scope parent s') := by
  unfold arrayType
  obtain ⟨left, right⟩ | ⟨items, items', left, right, alike⟩ := cases_of_map_eq same.items
  · rw [left, right]
    exact .pure rfl
  · rw [left, right]
    apply (find_alike like alike).bind
    intro found found' alike
    apply (inside scope _ found found' alike).bind_same
    exact fun resolved => .pure rfl

theorem declaredType_alike {s s' : Schema} (same : s.Like s') (type : SchemaType) :
    Alike Eq (declaredType task x scope parent s type)
      (declaredType task' y scope parent s' type) := by
  cases type with
  | object => exact mapType_alike like inside scope parent same
  | array => exact arrayType_alike like inside scope parent same
  | null => exact .throw ..
  | string | number | integer | boolean => exact .pure rfl

theorem unnamedType_alike {s s' : Schema} (same : s.Like s') :
    Alike Eq (unnamedType task x scope parent s) (unnamedType task' y scope parent s') := by
  have anyOf := same.anyOf
  unfold unnamedType
  rw [same.primaryType?]
  have declared : ∀ type, Alike Eq
      (do return ⟨← declaredType task x scope parent s type, false⟩)
      (do return (⟨← declaredType task' y scope parent s' type, false⟩ : Resolved)) := by
    intro type
    apply (declaredType_alike like inside scope parent same type).bind_same
    exact fun _ => .pure rfl
  generalize s.anyOf = parts at anyOf
  generalize s'.anyOf = parts' at anyOf
  rcases parts with _ | ⟨first, _ | ⟨second, rest⟩⟩ <;>
    rcases parts' with _ | ⟨first', _ | ⟨second', rest'⟩⟩ <;>
    first | (simp at anyOf; done) | skip
  · cases s'.primaryType? with
    | none => exact .throw ..
    | some type => exact declared type
  · cases s'.primaryType? with
    | none =>
      apply (find_alike like (List.cons.inj anyOf).1).bind
      exact fun found found' alike => inside scope parent found found' alike
    | some type => exact declared type
  · apply (variantTypes_alike like inside scope parent anyOf).bind_same
    exact fun variants => .pure rfl

theorem inlineType_alike {s s' : Schema} (same : s.Like s') :
    Alike Eq (inlineType task x scope parent s) (inlineType task' y scope parent s') := by
  unfold inlineType
  apply Alike.ite (congrArg _ same.isEmpty_properties)
  · apply (objectType_alike like inside scope _ same).bind_same
    exact fun type => registerGenerated_alike like scope _ type
  apply Alike.ite (congrArg _ same.isEmpty_oneOf)
  · exact unionType_alike like inside scope parent same
  apply Alike.ite (congrArg _ same.isEmpty_allOf)
  · apply (mergedMembers_alike like inside scope parent same.allOf).bind_same
    intro members
    rw [same.description]
    exact registerGenerated_alike like scope _ _
  · apply (enumOrNone_alike like scope parent same).bind_same
    intro resolved
    cases resolved with
    | some resolved => exact .pure rfl
    | none => exact unnamedType_alike like inside scope parent same

theorem enterComponent_alike (component : String) {s s' : Schema} (same : s.Like s') :
    Alike Eq (enterComponent task x scope component s)
      (enterComponent task' y scope component s') := by
  unfold enterComponent buildComponent
  rw [token_like like]
  apply (Alike.refl (note _)).bind_same
  intro _
  apply (Alike.refl (isVisited _)).bind_same
  intro visited
  apply Alike.ite rfl (.pure rfl)
  apply (Alike.refl (markVisited _)).bind_same
  intro _
  apply (Alike.refl (note _)).bind_same
  intro _
  apply (objectType_alike like inside scope _ same).bind_same
  exact fun type => .refl _

theorem componentType_alike (component : String) {s s' : Schema} (same : s.Like s') :
    Alike Eq (componentType task x scope parent component s)
      (componentType task' y scope parent component s') := by
  have enter := enterComponent_alike like inside scope component same
  unfold componentType
  apply Alike.ite (by rw [same.isEmpty_properties, same.isEmpty_allOf])
  · apply Alike.ite (congrArg _ same.isEmpty_oneOf)
    · exact unionType_alike like inside scope _ same
    apply Alike.ite (by rw [same.hasType, same.hasValueSchema])
    · exact unnamedType_alike like inside scope parent same
    · exact enter
  · exact enter

theorem typeOf_alike {found found' : Lookup.Found} (alike : found.Like found') :
    Alike Eq (typeOf task x scope parent found) (typeOf task' y scope parent found') := by
  have inPlace := inlineType_alike like inside scope parent alike.schema
  unfold typeOf
  rw [alike.name]
  cases found'.name with
  | none => exact inPlace
  | some component =>
    apply Alike.ite (by rw [alike.schema.hasType, alike.schema.enum])
    · exact inPlace
    · exact componentType_alike like inside scope parent component alike.schema

end

/-- The type of a schema, down to a depth: by induction on the depth. -/
theorem resolver_alike (depth : Nat) : ∀ scope parent found found', Lookup.Found.Like found found' →
    Alike Eq (resolver task depth scope parent found)
      (resolver task' depth scope parent found') := by
  induction depth with
  | zero => exact fun _ _ _ _ _ => .throw ..
  | succ depth ih => exact fun scope parent _ _ => typeOf_alike like ih scope parent

omit like in
theorem size_arrangedTable (keep : Bool) (schemas : List (String × SchemaOrRef)) :
    sizeOfFields (arrangedTable (arrangedPart keep) schemas) = sizeOfFields schemas :=
  size_map_arrangedPart keep schemas

/-- Schemas that are alike are given the same type, in documents that are alike. -/
theorem propertyType_alike (scope : Scope) (parent : String) (found found' : Lookup.Found)
    (alike : found.Like found') : Alike Eq (propertyType task scope parent found)
      (propertyType task' scope parent found') := by
  have tables : task.document.tables.arranged true = task'.document.tables.arranged true := by
    rw [← Document.tables_arranged, ← Document.tables_arranged, like.document]
  have schemas := congrArg Components.schemas tables
  have sizes : componentsSize task.document = componentsSize task'.document := by
    have held := congrArg sizeOfFields schemas
    exact (size_arrangedTable true _).symm.trans (held.trans (size_arrangedTable true _))
  have lengths : task.document.tables.schemas.length = task'.document.tables.schemas.length := by
    simpa [Components.arranged, arrangedTable] using congrArg List.length schemas
  have bounds : depthBound task.document found.schema =
      depthBound task'.document found'.schema := by
    rw [depthBound, depthBound, sizes, lengths, alike.schema.size]
  unfold propertyType
  rw [bounds]
  exact resolver_alike like _ scope parent found found' alike

end Infer

end ResourceInference
