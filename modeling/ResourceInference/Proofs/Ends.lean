import ResourceInference.Inference.Extraction

/-!
# How steps of inference end

`Ends x s post fail` says of the step `x`, taken in the session `s`, that it gives a result and a
session that `post` allows, or an error and a session that `fail` allows. There is one rule for
each way to put steps together, an equivalence, so that the rules unfold a function into what it
has to establish where it ends (`ends_bind`).
-/

set_option autoImplicit false

namespace ResourceInference.Infer

variable {α β : Type}

/-- The step taken in `s` ends in a result and a session that `post` allows, or in an error and a
session that `fail` allows. -/
def Ends (x : Infer α) (s : Session) (post : α → Session → Prop)
    (fail : InferenceError → Session → Prop) : Prop :=
  match x.run.run s with
  | (.ok a, s') => post a s'
  | (.error e, s') => fail e s'

variable {s : Session} {post post' : α → Session → Prop}
  {fail fail' : InferenceError → Session → Prop}

theorem Ends.mono {x : Infer α} (h : Ends x s post fail)
    (weaker : ∀ a s', post a s' → post' a s') (weakerFail : ∀ e s', fail e s' → fail' e s') :
    Ends x s post' fail' := by
  unfold Ends at *
  split at h
  · exact weaker _ _ h
  · exact weakerFail _ _ h

theorem Ends.imp {x : Infer α} (h : Ends x s post fail)
    (weaker : ∀ a s', post a s' → post' a s') : Ends x s post' fail :=
  h.mono weaker fun _ _ => id

theorem Ends.and {x : Infer α} (h : Ends x s post fail) (h' : Ends x s post' fail') :
    Ends x s (fun a s' => post a s' ∧ post' a s') (fun e s' => fail e s' ∧ fail' e s') := by
  unfold Ends at *
  split <;> simp_all

theorem Ends.any {x : Infer α} : Ends x s (fun _ _ => True) fun _ _ => True := by
  unfold Ends
  split <;> trivial

/-- A step ends in what it is run to. -/
theorem ends_ran (x : Infer α) (s : Session) :
    Ends x s (fun a s' => x.run.run s = (.ok a, s')) fun e s' => x.run.run s = (.error e, s') := by
  unfold Ends
  split <;> assumption

/-- What is said of the end is true of a result that the step is run to. -/
theorem Ends.of_run {x : Infer α} (h : Ends x s post fail) {a : α} {s' : Session}
    (ran : x.run.run s = (.ok a, s')) : post a s' := by
  rw [Ends, ran] at h
  exact h

/-- How a step ends can be found out by taking it. -/
instance [∀ a s', Decidable (post a s')] [∀ e s', Decidable (fail e s')] (x : Infer α) :
    Decidable (Ends x s post fail) :=
  match ran : x.run.run s with
  | (.ok a, s') => decidable_of_iff (post a s') (by rw [Ends, ran])
  | (.error e, s') => decidable_of_iff (fail e s') (by rw [Ends, ran])

/-- A step that does not fail is run to a result, of which `post` is true. -/
theorem exists_run (x : Infer α) (s : Session) (post : α → Session → Prop)
    (h : Ends x s post fun _ _ => False) : ∃ a s', x.run.run s = (.ok a, s') ∧ post a s' := by
  unfold Ends at h
  split at h
  · exact ⟨_, _, ‹_›, h⟩
  · exact h.elim

/-! ## Single steps -/

@[simp]
theorem ends_pure {a : α} : Ends (pure a) s post fail ↔ post a s := Iff.rfl

@[simp]
theorem ends_throw {e : InferenceError} : Ends (throw e : Infer α) s post fail ↔ fail e s :=
  Iff.rfl

@[simp]
theorem ends_get {post : Session → Session → Prop} : Ends get s post fail ↔ post s s := Iff.rfl

theorem ends_ofLookup {result : Except LookupError α} :
    Ends (ofLookup result) s post fail ↔
      (∀ a, result = .ok a → post a s) ∧ (∀ e, result = .error e → fail (.lookup e) s) := by
  cases result <;> simp [ofLookup]

/-! ## Steps in a row -/

/-- A row of two steps, of which the second one is taken if the first gives a result. -/
theorem run_bind (x : Infer α) (f : α → Infer β) (s : Session) :
    (x >>= f).run.run s =
      match x.run.run s with
      | (.ok a, s') => (f a).run.run s'
      | (.error e, s') => (.error e, s') := by
  simp only [ExceptT.run_bind, StateT.run_bind]
  rcases x.run.run s with ⟨_ | _, _⟩ <;> rfl

@[simp]
theorem ends_bind {x : Infer α} {f : α → Infer β} {post : β → Session → Prop} :
    Ends (x >>= f) s post fail ↔ Ends x s (fun a s' => Ends (f a) s' post fail) fail := by
  unfold Ends
  rw [run_bind]
  rcases x.run.run s with ⟨_ | _, _⟩ <;> rfl

/-- Where failing says nothing, a step in front whose result says nothing may be left out. -/
theorem Ends.after {x : Infer α} {f : α → Infer β} {post : β → Session → Prop}
    (rest : ∀ a s', Ends (f a) s' post fun _ _ => True) :
    Ends (x >>= f) s post fun _ _ => True :=
  ends_bind.2 (Ends.any.imp fun a s' _ => rest a s')

/-- A step that is caught, where the handler goes on in the session that the step has left. -/
theorem run_tryCatch (x : Infer α) (handle : InferenceError → Infer α) (s : Session) :
    (tryCatch x handle).run.run s =
      match x.run.run s with
      | (.ok a, s') => (.ok a, s')
      | (.error e, s') => (handle e).run.run s' := by
  simp only [tryCatch, tryCatchThe, MonadExceptOf.tryCatch, ExceptT.tryCatch, ExceptT.run,
    ExceptT.mk, StateT.run_bind]
  simp only [bind, StateT.run]
  rcases x s with ⟨_ | _, _⟩ <;> rfl

theorem ends_tryCatch {x : Infer α} {handle : InferenceError → Infer α} :
    Ends (tryCatch x handle) s post fail ↔
      Ends x s post fun e s' => Ends (handle e) s' post fail := by
  unfold Ends
  rw [run_tryCatch]
  rcases x.run.run s with ⟨_ | _, _⟩ <;> rfl

end ResourceInference.Infer
