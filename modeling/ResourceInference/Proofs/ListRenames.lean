import ResourceInference.Proofs.PathFootprints
import ResourceInference.Proofs.Tokens

/-!
# Renaming what a list returns

A function that lists returns a named type, and when that is named like the function itself, the
type is moved to its token with `Items` behind it. The move writes to the table of types directly,
so a type that is registered under the new token already is lost, unless it is the same; and
whatever mentions the old token still does. These are the only two ways in which the move loses
anything (`Infer.listRename_lossless_iff`): all other types, the resources and the functions stay as
they are.

Both ways are open. The page of a list may hold a component that has the new token
(`pageItems_overwritten`), and a page may mention the next one, and so itself. A page of texts is
moved without loss (`textsPage_renamed`).
-/

set_option autoImplicit false

namespace ResourceInference

/-! ## Types under new tokens -/

namespace Session

/-- Every type of the first session is registered in the second one, under the same token or, if it
was `source`, under `target`; and nothing in the second one mentions `source`. -/
structure Renamed (s s' : Session) (source target : String) : Prop where
  kept : ∀ token type, s.package.types.get? token = some type →
    s'.package.types.get? (if token = source then target else token) = some type
  unmentioned : source ∉ s'.package.tokens

variable {s : Session} {source target : String}

/-- When a type is moved, nothing is lost exactly if no other type is under its new token and
nothing mentions the old one. -/
theorem renamed_moving_iff {moved : NamedType} (apart : target ≠ source)
    (registered : s.package.types.get? source = some moved) :
    s.Renamed (s.moving source target moved) source target ↔
      (∀ held, s.package.types.get? target = some held → held = moved) ∧
        source ∉ s.package.tokens := by
  have atTarget : (s.moving source target moved).package.types.get? target = some moved := by
    simp [get?_moving]
  constructor
  · intro renamed
    constructor
    · intro held isHeld
      have stays := renamed.kept target held isHeld
      rw [if_neg apart, atTarget] at stays
      exact (Option.some.inj stays).symm
    · intro mentioned
      apply renamed.unmentioned
      rw [Package.mem_tokens_iff] at mentioned ⊢
      rcases mentioned with inResources | ⟨other, type, isType, inType⟩ | inFunctions
      · exact .inl inResources
      · exact .inr (.inl ⟨_, type, renamed.kept other type isType, inType⟩)
      · exact .inr (.inr inFunctions)
  · rintro ⟨same, unmentioned⟩
    constructor
    · intro token type isType
      by_cases isSource : token = source
      · subst isSource
        rw [if_pos rfl, atTarget, ← registered, isType]
      · rw [if_neg isSource]
        by_cases isTarget : token = target
        · subst isTarget
          rw [atTarget, same type isType]
        · simp [get?_moving, isSource, isTarget, isType]
    · intro mentioned
      apply unmentioned
      rw [Package.mem_tokens_iff] at mentioned ⊢
      rcases mentioned with inResources | ⟨other, type, isType, inType⟩ | inFunctions
      · exact .inl inResources
      · rw [get?_moving] at isType
        split at isType
        · cases isType
          exact .inr (.inl ⟨source, moved, registered, inType⟩)
        · split at isType
          · cases isType
          · exact .inr (.inl ⟨other, type, isType, inType⟩)
      · exact .inr (.inr inFunctions)

/-- Where the token has no type, no type is lost. -/
theorem renamed_unmarked_iff (free : s.package.types.get? source = none) :
    s.Renamed { s with visited := s.visited.erase source } source target ↔
      source ∉ s.package.tokens := by
  constructor
  · exact Renamed.unmentioned
  · intro unmentioned
    refine ⟨fun token type isType => ?_, unmentioned⟩
    have notSource : token ≠ source := by
      rintro rfl
      cases free.symm.trans isType
    rwa [if_neg notSource]

end Session

/-! ## Lists -/

namespace Infer

section

variable (task : InferenceTask) (scope : Scope) (item : PathItem) (operation : Operation)
  (name : String) (returns : Lookup.Found)

/-- The path parameters of a function that lists, and what it returns before that is renamed. -/
def listed : Infer (ObjectType × Resolved) := do
  let inputs ← pathParameters task item operation
  let resolved ← propertyType task scope (Naming.pascalCase name) returns
  pure (inputs, resolved)

theorem listFunction_eq : listFunction task scope item operation name returns =
    listed task scope item operation name returns >>= fun (inputs, resolved) =>
      renameListType name resolved.type >>= fun type =>
        pure ⟨operationDescription item operation, some inputs, some (listResult type)⟩ := by
  simp only [listFunction, listed, bind_assoc, pure_bind]

end

variable {task : InferenceTask} {scope : Scope} {item : PathItem} {operation : Operation}
  {name : String} {returns : Lookup.Found} {s s' : Session} {function : FunctionSpec}

/-- What is listed is resolved first, and then renamed. -/
theorem listFunction_renames : Ends (listFunction task scope item operation name returns) s
    (fun function s' => ∃ inputs resolved renamed s₁,
      (listed task scope item operation name returns).run.run s = (.ok (inputs, resolved), s₁) ∧
      s₁.Renames name resolved.type renamed s' ∧
      function.result = some (listResult renamed)) fun _ _ => True := by
  rw [listFunction_eq]
  refine ends_bind.2 ((ends_ran _ s).mono ?_ fun _ _ _ => trivial)
  rintro ⟨inputs, resolved⟩ s₁ ran
  refine ends_bind.2 ((renameListType_renames ..).mono ?_ fun _ _ _ => trivial)
  intro renamed s' renames
  exact ⟨inputs, resolved, renamed, s₁, ran, renames, rfl⟩

theorem listTypeTarget?_ne {source target : String}
    (isTarget : listTypeTarget? name source = some target) : target ≠ source := by
  rw [listTypeTarget?_eq isTarget]
  intro same
  have longer := congrArg String.length same
  rw [String.length_append] at longer
  have positive : 0 < "Items".length := by decide
  omega

/-- A function that lists returns its type as it was resolved, and nothing is renamed; or the type
is moved from one token to another one, and nothing else changes. Then nothing is lost exactly if
the new token was free or held the same type, and nothing mentioned the old token. -/
theorem listRename_lossless_iff
    (h : (listFunction task scope item operation name returns).run.run s = (.ok function, s')) :
    ∃ inputs resolved s₁,
      (listed task scope item operation name returns).run.run s = (.ok (inputs, resolved), s₁) ∧
      (resolved.type.token?.bind (listTypeTarget? name) = none ∧ s' = s₁ ∧
          function.result = some (listResult resolved.type) ∨
        ∃ source target, resolved.type = .named source ∧
          listTypeTarget? name source = some target ∧ target = source ++ "Items" ∧
          function.result = some (.spec (.named target)) ∧
          s'.package.resources = s₁.package.resources ∧
          s'.package.functions = s₁.package.functions ∧ s'.metadata = s₁.metadata ∧
          s'.package.types.get? source = none ∧
          s'.package.types.get? target =
            (s₁.package.types.get? source).or (s₁.package.types.get? target) ∧
          (∀ token, token ≠ source → token ≠ target →
            s'.package.types.get? token = s₁.package.types.get? token) ∧
          (s₁.Renamed s' source target ↔
            (∀ moved, s₁.package.types.get? source = some moved →
              ∀ held, s₁.package.types.get? target = some held → held = moved) ∧
            source ∉ s₁.package.tokens)) := by
  obtain ⟨inputs, ⟨type, isNew⟩, renamed, s₁, ran, renames, result⟩ :=
    listFunction_renames.of_run h
  refine ⟨inputs, ⟨type, isNew⟩, s₁, ran, ?_⟩
  cases renames with
  | stays noTarget => exact .inl ⟨noTarget, rfl, result⟩
  | @unmarked source target isTarget free =>
      refine .inr ⟨source, target, rfl, isTarget, listTypeTarget?_eq isTarget, result, rfl, rfl,
        rfl, free, ?_, fun _ _ _ => rfl, ?_⟩
      · simp [free]
      · rw [Session.renamed_unmarked_iff free]
        simp [free]
  | @moved source target moved isTarget registered =>
      have apart := listTypeTarget?_ne isTarget
      refine .inr ⟨source, target, rfl, isTarget, listTypeTarget?_eq isTarget, result, rfl, rfl,
        rfl, ?_, ?_, fun token notSource notTarget => ?_, ?_⟩
      · simp [Session.get?_moving, apart.symm]
      · simp [Session.get?_moving, registered]
      · simp [Session.get?_moving, notSource, notTarget]
      · rw [Session.renamed_moving_iff apart registered]
        simp [registered]

end Infer

/-! ## Pages of widgets -/

/-- The type is an object with a property of this name. -/
def NamedType.hasProperty (name : String) (type : NamedType) : Bool :=
  type.object?.any (·.properties.contains name)

section

variable (schemas : List (String × SchemaOrRef)) (page : Lookup.Found)

/-- What the function that lists widgets returns, before that is renamed. -/
def widgetsListed : Infer (ObjectType × Resolved) :=
  Infer.listed (Document.having schemas []).task ⟨"widgets", "Widget"⟩ {} {} "listWidgets" page

/-- The function that lists widgets. -/
def listWidgets : Infer FunctionSpec :=
  Infer.listFunction (Document.having schemas []).task ⟨"widgets", "Widget"⟩ {} {} "listWidgets"
    page

end

/-- The token of the page. -/
def pageToken : String := "pkg:widgets:ListWidgets"

/-- The token that the page is moved to. -/
def pageItemsToken : String := "pkg:widgets:ListWidgetsItems"

/-- A page in place that holds one property. -/
def pageOf (property : String × SchemaOrRef) : Lookup.Found :=
  ⟨none, { allOf := [.item (Schema.object [property] [])] }⟩

/-- The component that the page holds is lost when the page gets its token. -/
theorem pageItems_overwritten :
    let schemas : List (String × SchemaOrRef) :=
      [("ListWidgetsItems", .item (Schema.texts ["name"]))]
    let page := pageOf ("items", .to "ListWidgetsItems")
    listTypeTarget? "listWidgets" pageToken = some pageItemsToken ∧
      ∃ inputs resolved s₁ function s' held moved,
        (widgetsListed schemas page).run.run .first = (.ok (inputs, resolved), s₁) ∧
        (listWidgets schemas page).run.run .first = (.ok function, s') ∧
        resolved.type = .named pageToken ∧
        s₁.package.types.get? pageItemsToken = some held ∧
        s'.package.types.get? pageItemsToken = some moved ∧ held ≠ moved ∧
        ¬ s₁.Renamed s' pageToken pageItemsToken := by
  intro schemas page
  obtain ⟨⟨inputs, resolved⟩, s₁, ran, named, before⟩ :=
    Infer.exists_run (widgetsListed schemas page) .first (fun result s₁ =>
      result.2.type = .named pageToken ∧
        (s₁.package.types.get? pageItemsToken).any (·.hasProperty "name") = true)
      (by decide +kernel)
  obtain ⟨function, s', ran', after⟩ :=
    Infer.exists_run (listWidgets schemas page) .first (fun _ s' =>
      (s'.package.types.get? pageItemsToken).any (! ·.hasProperty "name") = true)
      (by decide +kernel)
  obtain ⟨held, isHeld, hasName⟩ := (Option.any_eq_true ..).1 before
  obtain ⟨moved, isMoved, noName⟩ := (Option.any_eq_true ..).1 after
  have apart : held ≠ moved := by
    rintro rfl
    simp [hasName] at noName
  refine ⟨by decide +kernel, inputs, resolved, s₁, function, s', held, moved, ran, ran', named,
    isHeld, isMoved, apart, fun lossless => apart ?_⟩
  have stays := lossless.kept pageItemsToken held isHeld
  rw [if_neg (by decide), isMoved] at stays
  exact (Option.some.inj stays).symm

/-- A page that mentions the next one mentions a token without a type when it has been moved. -/
example :
    let page := Schema.object [("next", .to "ListWidgets")] []
    let ran := (listWidgets [("ListWidgets", .item page)] ⟨some "ListWidgets", page⟩).run.run .first
    ran.1.isOk = true ∧ pageToken ∈ ran.2.package.tokens ∧
      ran.2.package.types.contains pageToken = false := by
  decide +kernel

/-- A page of texts is renamed, and nothing is lost. -/
theorem textsPage_renamed :
    let page := pageOf ("items", .item { type := some (.single .string) })
    ∃ inputs resolved s₁ function s',
      (widgetsListed [] page).run.run .first = (.ok (inputs, resolved), s₁) ∧
      (listWidgets [] page).run.run .first = (.ok function, s') ∧
      function.result = some (.spec (.named pageItemsToken)) ∧
      s₁.Renamed s' pageToken pageItemsToken := by
  intro page
  obtain ⟨⟨inputs, resolved⟩, s₁, ran, named, unmentioned, isFree⟩ :=
    Infer.exists_run (widgetsListed [] page) .first (fun result s₁ =>
      result.2.type = .named pageToken ∧ pageToken ∉ s₁.package.tokens ∧
        (s₁.package.types.get? pageItemsToken).isNone = true) (by decide +kernel)
  obtain ⟨function, s', ran', -⟩ :=
    Infer.exists_run (listWidgets [] page) .first (fun _ _ => True) (by decide +kernel)
  have free := Option.isNone_iff_eq_none.1 isFree
  have isTarget : listTypeTarget? "listWidgets" pageToken = some pageItemsToken := by
    decide +kernel
  obtain ⟨inputs', resolved', s₁', again, outcome⟩ := Infer.listRename_lossless_iff ran'
  obtain ⟨same, rfl⟩ := Prod.mk.inj (ran.symm.trans again)
  cases same
  rcases outcome with
    ⟨unmoved, -⟩ | ⟨source, target, isNamed, isTarget', -, result, -, -, -, -, -, -, lossless⟩
  · rw [named] at unmoved
    cases isTarget.symm.trans unmoved
  · cases named.symm.trans isNamed
    cases isTarget.symm.trans isTarget'
    refine ⟨inputs, resolved, s₁, function, s', ran, ran', result, lossless.2 ⟨?_, unmentioned⟩⟩
    intro moved _ held isHeld
    cases free.symm.trans isHeld

end ResourceInference
