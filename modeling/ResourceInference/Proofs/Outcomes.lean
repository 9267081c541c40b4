import ResourceInference.Proofs.SessionSteps

/-!
# What steps give

`Upholds inv x post` says of the step `x` that in every session in which the invariant `inv` holds,
where it gives a result, the invariant still holds and `post` says what is given. Nothing is said of
a step that fails, so the rules have no side conditions, and what is known of a result is a fact
about the result alone, which no later step can undo.

A step that only writes to the tables beside the package upholds what does not depend on them.
-/

set_option autoImplicit false

namespace ResourceInference.Infer

variable {α β : Type}

/-! ## Loops

What holds between the steps of a loop is said with the items that are done, or with those that are
left. -/

theorem ends_mapM {f : α → Infer β} {between : List α → List β → Session → Prop} {items : List α}
    (step : ∀ a ∈ items, ∀ done bs s, between done bs s →
      Ends (f a) s (fun b s' => between (done ++ [a]) (bs ++ [b]) s') fun _ _ => True) :
    ∀ {done bs s}, between done bs s →
      Ends (items.mapM f) s (fun new s' => between (done ++ items) (bs ++ new) s')
        fun _ _ => True := by
  induction items with
  | nil =>
      intro done bs s start
      simpa using start
  | cons a rest ih =>
      intro done bs s start
      rw [List.mapM_cons]
      refine ends_bind.2 ((step a List.mem_cons_self done bs s start).imp fun b s₁ made => ?_)
      have later := ih (fun a member => step a (List.mem_cons_of_mem _ member)) made
      refine ends_bind.2 (later.imp fun new s₂ made => ends_pure.2 ?_)
      simpa using made

/-! ## Invariants -/

/-- The step keeps the invariant, and gives what `post` says. -/
structure Upholds (inv : Session → Prop) (x : Infer α) (post : α → Prop) : Prop where
  ends : ∀ s, inv s → Ends x s (fun a s' => inv s' ∧ post a) fun _ _ => True

namespace Upholds

variable {inv : Session → Prop} {post post' : α → Prop}

theorem pure {a : α} (given : post a) : Upholds inv (pure a) post := ⟨fun _ h => ⟨h, given⟩⟩

theorem throw {e : InferenceError} : Upholds inv (throw e : Infer α) post :=
  ⟨fun _ _ => trivial⟩

theorem imp {x : Infer α} (h : Upholds inv x post) (weaker : ∀ a, post a → post' a) :
    Upholds inv x post' :=
  ⟨fun s holds => (h.ends s holds).imp fun a _ ⟨kept, given⟩ => ⟨kept, weaker a given⟩⟩

theorem bind {x : Infer α} {f : α → Infer β} {post' : β → Prop} (first : Upholds inv x post)
    (rest : ∀ a, post a → Upholds inv (f a) post') : Upholds inv (x >>= f) post' := by
  refine ⟨fun s holds => ends_bind.2 ((first.ends s holds).imp ?_)⟩
  intro a s' ⟨kept, given⟩
  exact (rest a given).ends s' kept

/-- Where nothing is asked of sessions, nothing is lost. -/
theorem any {x : Infer α} : Upholds (fun _ => True) x fun _ => True :=
  ⟨fun _ _ => Ends.any.imp fun _ _ _ => ⟨trivial, trivial⟩⟩

theorem of_writesTables {x : Infer α} (writes : WritesTables x)
    (tables : ∀ {s s'}, s.OnlyTables s' → inv s → inv s') : Upholds inv x fun _ => True := by
  refine ⟨fun s holds => (writes.ends s).mono ?_ fun _ _ _ => trivial⟩
  intro a s' changed
  exact ⟨tables changed holds, trivial⟩

theorem ofLookup {result : Except LookupError α} :
    Upholds inv (ofLookup result) fun found => result = .ok found :=
  ⟨fun _ holds => ends_ofLookup.2 ⟨fun _ located => ⟨holds, located⟩, fun _ _ => trivial⟩⟩

theorem find {task : InferenceTask} {part : SchemaOrRef} :
    Upholds inv (find task part) fun found => Lookup.schema task.document part = .ok found :=
  ofLookup

variable {items : List α}

/-- What every step of a fold keeps is true of its result. -/
theorem foldlM {f : β → α → Infer β} {kept : β → Prop}
    (step : ∀ a ∈ items, ∀ b, kept b → Upholds inv (f b a) kept) :
    ∀ {b}, kept b → Upholds inv (items.foldlM f b) kept := by
  induction items with
  | nil => exact fun start => .pure start
  | cons a rest ih =>
      intro b start
      rw [List.foldlM_cons]
      refine (step a List.mem_cons_self b start).bind fun b' kept' => ?_
      exact ih (fun a member => step a (List.mem_cons_of_mem _ member)) kept'

/-- A fold makes something of each item, if each step does so with its own and undoes nothing. -/
theorem foldlM_forall {f : β → α → Infer β} {kept : β → Prop} {made : α → β → Prop}
    (step : ∀ a ∈ items, ∀ b, kept b → Upholds inv (f b a) fun b' =>
      kept b' ∧ made a b' ∧ ∀ other, made other b → made other b') :
    ∀ {b}, kept b → Upholds inv (items.foldlM f b) fun b' =>
      kept b' ∧ (∀ a ∈ items, made a b') ∧ ∀ other, made other b → made other b' := by
  induction items with
  | nil => exact fun start => .pure ⟨start, by simp, fun _ => id⟩
  | cons a rest ih =>
      intro b start
      rw [List.foldlM_cons]
      refine (step a List.mem_cons_self b start).bind fun b₁ ⟨kept₁, made₁, lasts₁⟩ => ?_
      have later := ih (fun a member => step a (List.mem_cons_of_mem _ member)) kept₁
      refine later.imp fun b₂ ⟨kept₂, made₂, lasts₂⟩ => ⟨kept₂, ?_, ?_⟩
      · intro other member
        rcases List.mem_cons.1 member with rfl | member
        · exact lasts₂ _ made₁
        · exact made₂ other member
      · intro other before
        exact lasts₂ other (lasts₁ other before)

theorem mapM {f : α → Infer β} {made : β → Prop}
    (step : ∀ a ∈ items, Upholds inv (f a) made) :
    Upholds inv (items.mapM f) fun bs => ∀ b ∈ bs, made b := by
  induction items with
  | nil => exact .pure (by simp)
  | cons a rest ih =>
      rw [List.mapM_cons]
      refine (step a List.mem_cons_self).bind fun b given => ?_
      refine (ih fun a member => step a (List.mem_cons_of_mem _ member)).bind fun bs all => .pure ?_
      intro b' member
      rcases List.mem_cons.1 member with rfl | member
      · exact given
      · exact all b' member

/-- Each step of a loop leaves what it gives among the results. -/
theorem mapM_forall {f : α → Infer β} {made : α → β → Prop}
    (step : ∀ a ∈ items, Upholds inv (f a) (made a)) :
    Upholds inv (items.mapM f) fun bs => ∀ a ∈ items, ∃ b ∈ bs, made a b := by
  induction items with
  | nil => exact .pure (by simp)
  | cons a rest ih =>
      rw [List.mapM_cons]
      refine (step a List.mem_cons_self).bind fun b given => ?_
      refine (ih fun a member => step a (List.mem_cons_of_mem _ member)).bind fun bs all => .pure ?_
      rintro a' (_ | ⟨_, member⟩)
      · exact ⟨b, List.mem_cons_self, given⟩
      · obtain ⟨b', isResult, given'⟩ := all a' member
        exact ⟨b', List.mem_cons_of_mem _ isResult, given'⟩

end Upholds

end ResourceInference.Infer
