import ResourceInference.Proofs.Declarations

/-!
# Two ways to flatten parts

The parts of an `allOf` are flattened in two places: into what can be set, when a resource is made
of a request (`Infer.gatherPart`), and into the members of an object, as they are for a response
(`Infer.mergedMembers`). Both leave out what is not like an object, but the first one asks this of
what a reference leads to as well, and the second one only of a part in place.

So flattening a request is merging those of its parts that are like objects, from the same session
on (`Infer.mergedMembers_objectLikeParts`), and the two ways agree exactly if nothing is lost by
leaving out the others (`Infer.flattenings_agree_iff`). They agree with all that is said of each
property if every reference leads to something that is like an object (`sizedBase_flattened`). They
do not if a reference leads to a schema that only stands for an object (`wrappedBase_lost`).
-/

set_option autoImplicit false

namespace ResourceInference

/-- The part stands in place, or what it leads to is like an object. -/
def RefOr.EvenlyTaken (d : Document) (part : SchemaOrRef) : Prop :=
  ∀ found, Lookup.schema d part = .ok found → found.name.isSome = true →
    found.schema.isObjectLike = true

/-- Whether the part is found to be like an object, or is not found at all. -/
def RefOr.countsAsObject (d : Document) (part : SchemaOrRef) : Bool :=
  match Lookup.schema d part with
  | .ok found => found.schema.isObjectLike
  | .error _ => true

/-- The parts that are found to be like objects, and those that are not found. -/
def objectLikeParts (d : Document) (parts : List SchemaOrRef) : List SchemaOrRef :=
  parts.filter (·.countsAsObject d)

theorem objectLikeParts_evenlyTaken {d : Document} {parts : List SchemaOrRef} :
    ∀ part ∈ objectLikeParts d parts, part.EvenlyTaken d := by
  intro part member found located _
  have kept := (List.mem_filter.1 member).2
  rwa [RefOr.countsAsObject, located] at kept

/-- Extend members by what has been taken for a part, if anything has. -/
def Members.addTaken (members : Members) : Option ObjectType → Members
  | some object => members.extend (.ofObject object)
  | none => members

theorem Members.get?_addTaken (name : String) (members : Members) (taken : Option ObjectType) :
    (members.addTaken taken).properties.get? name =
      (taken.bind (·.properties.get? name)).or (members.properties.get? name) := by
  cases taken with
  | none => rfl
  | some object => exact SortedMap.get?_union ..

namespace Infer

variable {task : InferenceTask} {scope : Scope}

/-! ## Parts -/

/-- The members of the parts of a resource, as they are merged for a response. -/
abbrev mergedParts (task : InferenceTask) (scope : Scope) : List SchemaOrRef → Infer Members :=
  mergedMembers task (propertyType task) scope (Naming.pascalCase scope.resource)

/-- Where both ways leave out the same, a part is merged by taking it. -/
theorem mergePart_eq {part : SchemaOrRef} (even : part.EvenlyTaken task.document)
    (members : Members) : mergePart task (propertyType task) scope
        (Naming.pascalCase scope.resource) members part =
      takePart task scope part >>= fun taken => pure (members.addTaken taken) := by
  unfold mergePart takePart find
  rw [bind_assoc]
  cases located : Lookup.schema task.document part with
  | error e => rfl
  | ok found =>
      simp only [ofLookup, pure_bind]
      cases objectLike : found.schema.isObjectLike with
      | false =>
          have inPlace : found.name.isNone = true := by
            have unnamed := mt (even found located)
            simp [objectLike] at unnamed
            simp [unnamed]
          simp [inPlace, Members.addTaken]
      | true =>
          simp only [Bool.not_true, Bool.and_false, Bool.false_eq_true, if_false, bind_assoc]
          congr 1
          funext resolved
          congr 1
          funext taken
          cases taken <;> rfl

theorem mergedMembers_eq {parts : List SchemaOrRef}
    (even : ∀ part ∈ parts, part.EvenlyTaken task.document) :
    mergedParts task scope parts =
      parts.mapM (takePart task scope) >>= fun taken => pure (taken.foldl Members.addTaken {}) := by
  rw [← foldlM_eq_mapM]
  unfold mergedParts mergedMembers
  generalize ({} : Members) = members
  induction parts generalizing members with
  | nil => rfl
  | cons part rest ih =>
      rw [List.foldlM_cons, List.foldlM_cons, mergePart_eq (even part List.mem_cons_self)]
      congr 1
      funext members'
      exact ih (fun part member => even part (List.mem_cons_of_mem _ member)) members'

theorem takePart_leftOut {part : SchemaOrRef}
    (leftOut : part.countsAsObject task.document = false) :
    takePart task scope part = pure none := by
  unfold RefOr.countsAsObject at leftOut
  unfold takePart find
  split at leftOut
  · rename_i found located
    simp [located, ofLookup, leftOut]
  · cases leftOut

/-- Nothing is taken for the parts that are left out. -/
theorem mapM_takePart_objectLikeParts (parts : List SchemaOrRef) : ∀ members : Members,
    ((objectLikeParts task.document parts).mapM (takePart task scope) >>= fun taken =>
        (pure (taken.foldl Members.addTaken members) : Infer Members)) =
      parts.mapM (takePart task scope) >>= fun taken =>
        pure (taken.foldl Members.addTaken members) := by
  induction parts with
  | nil => exact fun _ => rfl
  | cons part rest ih =>
      intro members
      cases taken : part.countsAsObject task.document with
      | true =>
          rw [objectLikeParts, List.filter_cons_of_pos taken]
          simp only [List.mapM_cons, bind_assoc, pure_bind, List.foldl_cons, ← ih]
          rfl
      | false =>
          rw [objectLikeParts, List.filter_cons_of_neg (by simp [taken])]
          rw [List.mapM_cons, takePart_leftOut taken, pure_bind]
          simp only [bind_assoc, pure_bind, List.foldl_cons]
          exact ih members

/-- Merging the parts that are like objects takes the objects that are taken for all parts. -/
theorem mergedMembers_objectLikeParts (parts : List SchemaOrRef) :
    mergedParts task scope (objectLikeParts task.document parts) =
      parts.mapM (takePart task scope) >>= fun taken => pure (taken.foldl Members.addTaken {}) := by
  rw [mergedMembers_eq objectLikeParts_evenlyTaken, mapM_takePart_objectLikeParts]

/-! ## Requests that have nothing but parts -/

section

variable {bodies : ResourceBodies} {parts : List SchemaOrRef} {s : Session}
  (composed : bodies.request = { allOf := parts })

include composed

/-- Without a response, nothing is done before the parts are flattened. -/
theorem gatherOwn_of_parts {token : String} (unanswered : bodies.response = none) :
    gatherOwn task scope token bodies = pure {} := by
  simp [gatherOwn, composed, unanswered, gatherAnswer]

/-- What is taken for the parts is all that can be set. -/
theorem gatherResource_flattens {path : String} :
    Ends (gatherResource task scope bodies path) s (fun token s' =>
      ∃ (r : ResourceSpec) (own : ResourceDraft) (s₀ s₁ : Session) (taken : Members),
        s'.package.resources.get? token = some r ∧
        (gatherOwn task scope token bodies).run.run s = (.ok own, s₀) ∧
        (mergedParts task scope (objectLikeParts task.document parts)).run.run s₀ =
          (.ok taken, s₁) ∧
        r.inputProperties = taken.properties.erase idProperty) fun _ _ => True := by
  refine ends_bind.2 (((gatherDraft_folds task scope _ bodies s).and gatherDraft_withoutId).mono ?_
    fun _ _ _ => trivial)
  rintro _ s₁ ⟨⟨own, s₀, taken, ran, took, rfl⟩, noId, -⟩
  refine .after fun _ s₂ => ?_
  refine ⟨_, own, s₀, s₁, taken.foldl Members.addTaken {},
    (s₂.get?_withResource ..).trans (if_pos rfl), ran, ?_, SortedMap.ext_get? fun name => ?_⟩
  · rw [composed] at took
    rw [mergedMembers_objectLikeParts, run_bind, took]
    rfl
  · rw [SortedMap.get?_erase]
    split
    · rename_i isId
      exact isId ▸ noId
    · rename_i notId
      have noOwn : own.inputs.get? name = none := by
        refine (SortedMap.get?_eq_none_iff ..).2 (Bool.eq_false_iff.2 fun settable => ?_)
        rcases ((gatherOwn_gains.results ⟨s, s₀, ran⟩).inputs name).1 settable with
          before | ⟨-, entry, member, -⟩
        · cases before
        · rw [composed] at member
          cases member
      have left := foldl_over (fun draft : ResourceDraft => draft.inputs.get? name)
        (fun draft => draft.get?_inputs_addTaken notId bodies.stripRequired) taken own
      have right := foldl_over (fun members : Members => members.properties.get? name)
        (Members.get?_addTaken name) taken {}
      refine left.trans (.trans ?_ right.symm)
      rw [noOwn]
      rfl

/-- A request that has nothing but parts is flattened to what its parts are merged to, but for
those that are not like an object, and `id`. So it has the names that all parts are merged to
exactly if leaving out the others changes none of them; and if both ways leave out the same parts,
it has the same properties. Without a response, both start in the same session. -/
theorem flattenings_agree_iff {path token : String} {s' : Session}
    (h : (gatherResource task scope bodies path).run.run s = (.ok token, s')) :
    ∃ (r : ResourceSpec) (own : ResourceDraft) (s₀ s₁ : Session) (taken : Members),
      s'.package.resources.get? token = some r ∧
      (gatherOwn task scope token bodies).run.run s = (.ok own, s₀) ∧
      (bodies.response = none → s₀ = s) ∧
      (mergedParts task scope (objectLikeParts task.document parts)).run.run s₀ = (.ok taken, s₁) ∧
      r.inputProperties = taken.properties.erase idProperty ∧
      ∀ members s₂, (mergedParts task scope parts).run.run s₀ = (.ok members, s₂) →
        ((∀ name, r.inputProperties.contains name = true ↔
            name ≠ idProperty ∧ members.properties.contains name = true) ↔
          ∀ name, name ≠ idProperty → (taken.properties.contains name = true ↔
            members.properties.contains name = true)) ∧
        ((∀ part ∈ parts, part.EvenlyTaken task.document) →
          r.inputProperties = members.properties.erase idProperty) := by
  obtain ⟨r, own, s₀, s₁, taken, present, ran, took, flattened⟩ :=
    (gatherResource_flattens composed).of_run h
  refine ⟨r, own, s₀, s₁, taken, present, ran, fun unanswered => ?_, took, flattened, ?_⟩
  · rw [gatherOwn_of_parts composed unanswered] at ran
    cases ran
    rfl
  · intro members s₂ all
    constructor
    · rw [flattened]
      simp only [SortedMap.contains_erase, and_congr_right_iff]
    · intro even
      have same : mergedParts task scope (objectLikeParts task.document parts) = _ :=
        mergedMembers_objectLikeParts parts
      rw [same, ← mergedMembers_eq even] at took
      cases took.symm.trans all
      exact flattened

end

end Infer

/-! ## Bases -/

/-- A thing with a size, and a schema that only stands for it. -/
def sizedBase : List (String × SchemaOrRef) :=
  [("Base", .item (Schema.texts ["size"])), ("Wrapper", .item { anyOf := [.to "Base"] })]

/-- A size that a reference leads to by way of another schema is merged, but cannot be set. -/
theorem wrappedBase_lost :
    let parts : List SchemaOrRef := [.to "Wrapper"]
    (∃ token s' r, (gatherThing { allOf := parts } sizedBase).run.run .first = (.ok token, s') ∧
      s'.package.resources.get? token = some r ∧ r.inputProperties.contains "size" = false) ∧
    ∃ members s', (Infer.mergedParts (createsThing { allOf := parts } sizedBase).task
      ⟨"things", "Thing"⟩ parts).run.run .first = (.ok members, s') ∧
        members.properties.contains "size" = true := by
  intro parts
  constructor
  · exact gatherThing_checked _ _ (fun r => r.inputProperties.contains "size" = false)
      (by decide +kernel)
  · exact Infer.exists_run _ _ (fun (members : Members) _ =>
      members.properties.contains "size" = true) (by decide +kernel)

/-- Where the reference leads to the thing itself, both ways give the same. -/
theorem sizedBase_flattened :
    let parts : List SchemaOrRef := [.to "Base", .item (Schema.texts ["colour"])]
    ∃ token s' r members s₂,
      (gatherThing { allOf := parts } sizedBase).run.run .first = (.ok token, s') ∧
      s'.package.resources.get? token = some r ∧
      (Infer.mergedParts (createsThing { allOf := parts } sizedBase).task
        ⟨"things", "Thing"⟩ parts).run.run .first = (.ok members, s₂) ∧
      members.properties.keys = ["colour", "size"] ∧
      r.inputProperties = members.properties.erase idProperty := by
  intro parts
  obtain ⟨token, s', r, ran, -, -⟩ := gatherThing_checked { allOf := parts } sizedBase
    (fun _ => True) (by decide +kernel)
  obtain ⟨members, s₂, all, keys⟩ := Infer.exists_run (Infer.mergedParts
    (createsThing { allOf := parts } sizedBase).task ⟨"things", "Thing"⟩ parts) .first
    (fun members _ => members.properties.keys = ["colour", "size"]) (by decide +kernel)
  have composed : ResourceBodies.request { request := { allOf := parts } } = { allOf := parts } :=
    rfl
  obtain ⟨r, own, s₀, s₁, taken, present, -, start, -, -, same⟩ :=
    Infer.flattenings_agree_iff composed ran
  obtain rfl := start rfl
  refine ⟨token, s', r, members, s₂, ran, present, all, keys, (same members s₂ all).2 ?_⟩
  intro part member found located _
  rcases List.mem_cons.1 member with rfl | member
  · cases located
    rfl
  · obtain rfl := List.mem_singleton.1 member
    cases located
    rfl

end ResourceInference
