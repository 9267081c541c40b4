import ResourceInference.Proofs.Bodies

/-!
# Registered types stay

Whatever is resolved, and whether it ends or fails, the types that were registered before stay
registered as they were (`Infer.resolving_keepsTypes`). A merge does drop types; that these are its
own is what the flag of a result says: a token that is called new was free before the type was asked
for, and is registered after it. Neither can be told without the other, so both come from the
induction on the depth that every `Frame` is carried through.
-/

set_option autoImplicit false

namespace ResourceInference

/-- The frame that asks for nothing beside what every frame has. -/
def Frame.plain (task : InferenceTask) : Frame task where
  rel _ _ := True
  breaks _ _ := True
  refl _ := trivial
  trans _ _ := trivial
  breaksOff _ := trivial
  breaksLater _ _ := trivial
  toFinds := .all task.document
  done _ _ := True
  named _ _ := True
  doneLasts _ := id
  namedLasts _ := id
  registers _ _ := trivial
  forms _ := trivial
  merges _ _ := trivial
  drops _ _ := trivial
  records _ _ := .of_writesTables (Infer.recordName_writesTables ..) fun _ => trivial
  pathParameters _ _ := trivial
  autoNames _ _ := trivial
  finishes _ := trivial
  refers _ _ _ := trivial
  builds _ _ _ _ _ := trivial
  breaksBuilding _ := trivial

namespace Infer

/-- The step keeps the registered types, whether it ends or fails. -/
structure KeepsTypes {α : Type} (x : Infer α) : Prop where
  ends : ∀ s, Ends x s (fun _ s' => s.Keeps s') fun _ s' => s.Keeps s'

variable {α : Type} {task : InferenceTask}

theorem KeepsTypes.of_runs {x : Infer α} {post : Session → α → Session → Prop}
    (runs : ∀ s, (Frame.plain task).course.Runs x s (post s)) : KeepsTypes x :=
  ⟨fun s => (runs s).ends.mono (fun _ _ ⟨later, _⟩ => later.2) fun _ _ broken => broken.2⟩

theorem gatherResource_keepsTypes (scope : Scope) (bodies : ResourceBodies) (path : String) :
    KeepsTypes (gatherResource task scope bodies path) := by
  refine ⟨fun s => ends_bind.2 ?_⟩
  refine (Frame.gatherDraft_runs (F := .plain task)).ends.mono (fun draft s₁ ⟨later₁, _⟩ => ?_)
    fun _ _ broken => broken.2
  refine ends_bind.2 (((seat_writesTables ..).ends s₁).mono ?_ ?_)
  · rintro _ _ ⟨_, rfl⟩
    exact later₁.2
  · rintro _ _ ⟨⟨_, rfl⟩, -⟩
    exact later₁.2

/-- Taking a result drops no type but the one that was registered for it. -/
theorem takeObject_drops {resolved : Resolved} {s s₁ : Session} (new : s.NewSince s₁ resolved) :
    Ends (takeObject resolved) s₁
      (fun _ s₂ => ∀ token, s₁.package.types.contains token = true →
        s₂.package.types.contains token = false → s.package.types.contains token = false)
      fun _ _ => False := by
  refine ends_takeObject.2 ?_
  cases named : resolved.type.token? with
  | none =>
      intro token before after
      cases before.symm.trans after
  | some taken =>
      dsimp only
      intro token before after
      split at after
      · rename_i isNew
        obtain ⟨registered, isToken, free, -⟩ := new isNew
        obtain rfl : registered = taken := by
          rw [isToken] at named
          exact Option.some.inj named
        by_cases same : token = registered
        · rw [same]
          exact (SortedMap.get?_eq_none_iff ..).1 free
        · have kept : ((s₁.noted (.merged registered)).dropping registered).package.types.contains
              token = true := (SortedMap.contains_erase ..).2 ⟨same, before⟩
          cases kept.symm.trans after
      · cases before.symm.trans after

/-- Resolving never disturbs earlier types: whatever was registered before the type of a schema, the
members of an object, the merge of an `allOf`, an enum or a resource is asked for is registered
afterwards with the same type, whether the step ends or fails. A named type that is called new was
not registered before and is registered now, so taking it drops no type that was there before it was
asked for. -/
theorem resolving_keepsTypes (task : InferenceTask) (scope : Scope) (parent : String) :
    (∀ found, KeepsTypes (propertyType task scope parent found)) ∧
    (∀ schema, KeepsTypes (objectMembers task (propertyType task) scope parent schema)) ∧
    (∀ parts, KeepsTypes (mergedMembers task (propertyType task) scope parent parts)) ∧
    (∀ schema, KeepsTypes (enumType task scope parent schema)) ∧
    (∀ bodies path, KeepsTypes (gatherResource task scope bodies path)) ∧
    ∀ found s, Ends (propertyType task scope parent found) s
      (fun resolved s₁ =>
        (∀ token, resolved = ⟨.named token, true⟩ →
          s.package.types.contains token = false ∧ s₁.package.types.contains token = true) ∧
        Ends (takeObject resolved) s₁
          (fun _ s₂ => ∀ token, s₁.package.types.contains token = true →
            s₂.package.types.contains token = false → s.package.types.contains token = false)
          fun _ _ => False)
      fun _ _ => True := by
  have serves := Frame.propertyType_serves (.plain task)
  refine ⟨fun found => .of_runs fun s => serves _ _ _ s trivial,
    fun schema => .of_runs fun s => Frame.objectMembers_runs serves,
    fun parts => .of_runs fun s => Frame.mergedMembers_runs serves,
    fun schema => .of_runs fun s => Frame.enumType_runs, gatherResource_keepsTypes scope,
    fun found s => ?_⟩
  refine (serves scope parent found s trivial).ends.mono (fun resolved s₁ ⟨_, new, _⟩ => ?_)
    fun _ _ _ => trivial
  refine ⟨?_, takeObject_drops new⟩
  rintro token rfl
  obtain ⟨registered, isToken, free, present⟩ := new rfl
  cases isToken
  exact ⟨(SortedMap.get?_eq_none_iff ..).1 free, present⟩

end Infer

end ResourceInference
