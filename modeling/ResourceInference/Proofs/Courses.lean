import ResourceInference.Proofs.SessionSteps

/-!
# How a session goes on

A `Course` relates a session to those that it may go on to, and to those in which it may break off;
it is reflexive and transitive. `C.Runs x s post` says of the step `x`, taken in `s`, that it stays
on the course, and that where it ends `post` holds. Nothing has to hold of `s`, so steps are put
together without premises, and whatever lasts along a course is still known after later steps.

Steps that only look things up (`Infer.Reads`) stay on every course.
-/

set_option autoImplicit false

namespace ResourceInference

/-! ## Steps that only look things up -/

namespace Infer

variable {α β : Type}

/-- The step gives a result, the same in every session, and leaves the session alone. -/
def Yields (x : Infer α) (a : α) : Prop := ∀ s, x.run.run s = (.ok a, s)

/-- The step gives a result or fails, the same in every session, and leaves the session alone. -/
structure Reads (x : Infer α) : Prop where
  outcome : ∃ result, ∀ s, x.run.run s = (result, s)

instance : Inhabited Session := ⟨.new { packageName := "" }⟩

theorem Yields.unique {x : Infer α} {a b : α} (h : x.Yields a) (h' : x.Yields b) : a = b := by
  cases (h default).symm.trans (h' default)
  rfl

namespace Reads

theorem pure (a : α) : Reads (pure a : Infer α) := ⟨.ok a, fun _ => rfl⟩

theorem throw (e : InferenceError) : Reads (throw e : Infer α) := ⟨.error e, fun _ => rfl⟩

theorem bind {x : Infer α} {f : α → Infer β} (hx : Reads x) (hf : ∀ a, Reads (f a)) :
    Reads (x >>= f) := by
  obtain ⟨result, ran⟩ := hx
  cases result with
  | error e =>
      refine ⟨.error e, fun s => ?_⟩
      simp only [ExceptT.run_bind, StateT.run_bind, ran]
      rfl
  | ok a =>
      obtain ⟨result, ran'⟩ := hf a
      refine ⟨result, fun s => ?_⟩
      simp only [ExceptT.run_bind, StateT.run_bind, ran]
      exact ran' s

theorem map {x : Infer α} (f : α → β) (hx : Reads x) : Reads (f <$> x) := by
  rw [map_eq_pure_bind]
  exact hx.bind fun a => .pure (f a)

theorem ofLookup (result : Except LookupError α) : Reads (ofLookup result) := by
  cases result with
  | ok a => exact .pure a
  | error e => exact .throw _

theorem ends {x : Infer α} (h : Reads x) (s : Session) :
    Ends x s (fun a s' => s' = s ∧ x.Yields a) fun _ _ => True := by
  obtain ⟨result, ran⟩ := h
  unfold Ends
  rw [ran s]
  cases result with
  | ok a => exact ⟨rfl, ran⟩
  | error e => trivial

/-- What a row of look-ups yields, its parts yield. -/
theorem yields_bind {x : Infer α} {f : α → Infer β} {b : β} (hx : Reads x)
    (h : (x >>= f).Yields b) : ∃ a, x.Yields a ∧ (f a).Yields b := by
  obtain ⟨result, ran⟩ := hx
  unfold Yields at h
  simp only [ExceptT.run_bind, StateT.run_bind, ran] at h
  cases result with
  | ok a => exact ⟨a, ran, h⟩
  | error e => cases h default

end Reads

theorem Yields.pure {a b : α} (h : (pure a : Infer α).Yields b) : a = b :=
  Yields.unique (fun _ => rfl) h

theorem Yields.not_throw {e : InferenceError} {a : α} (h : (throw e : Infer α).Yields a) :
    False := by
  cases h default

theorem Yields.ofLookup {result : Except LookupError α} {a : α}
    (h : (ofLookup result).Yields a) : result = .ok a := by
  cases result with
  | ok b => rw [h.pure]
  | error e => exact h.not_throw.elim

theorem assignName_reads (table : SortedMap String) (key value : String) :
    Reads (assignName table key value) := by
  unfold assignName
  split
  · exact .pure _
  · exact .throw _

/-- A name that differs from its SDK name is given it, and it the name. -/
theorem recordName_ends {s : Session} (wire sdk : String) :
    Ends (recordName wire sdk) s
      (fun _ s' => wire = sdk ∧ s' = s ∨ ∃ wireNames sdkNames,
        assign s.metadata.wireNames sdk wire = .ok wireNames ∧
          assign s.metadata.sdkNames wire sdk = .ok sdkNames ∧
            s' = { s with metadata := { s.metadata with wireNames, sdkNames } })
      fun _ _ => True := by
  unfold recordName
  split
  · rename_i same
    exact .inl ⟨same, rfl⟩
  · refine ends_bind.2 (ends_get.2 (ends_bind.2 ?_))
    cases wireNames : assign s.metadata.wireNames sdk wire with
    | error existing => simp [assignName, wireNames]
    | ok table =>
        simp only [assignName, wireNames, ends_pure]
        refine ends_bind.2 ?_
        change Ends _ { s with metadata := { s.metadata with wireNames := table } } _ _
        refine ends_bind.2 (ends_get.2 (ends_bind.2 ?_))
        cases sdkNames : assign s.metadata.sdkNames wire sdk with
        | error existing => simp
        | ok other =>
            simp only [ends_pure]
            exact .inr ⟨table, other, rfl, rfl, rfl⟩

theorem operationId_reads (method : Method) (path : String) (operation : Operation) :
    Reads (operationId method path operation) := by
  unfold operationId
  split
  · split
    · exact .throw _
    · exact .pure _
  · exact .throw _

theorem requestSchema?_reads (task : InferenceTask) (operation : Operation) :
    Reads (requestSchema? task operation) := by
  unfold requestSchema?
  split
  · exact .pure _
  · refine (Reads.ofLookup _).bind fun body => ?_
    split
    · exact (Reads.ofLookup _).map _
    · exact .pure _

theorem requestSchema_reads (task : InferenceTask) (method : Method) (path : String)
    (operation : Operation) : Reads (requestSchema task method path operation) := by
  refine (requestSchema?_reads task operation).bind fun found => ?_
  cases found with
  | some found => exact .pure found
  | none => exact .throw _

theorem responseContent?_reads (task : InferenceTask) (operation : Operation) (status : String) :
    Reads (responseContent? task operation status) := by
  unfold responseContent?
  split
  · exact .pure _
  · exact (Reads.ofLookup _).bind fun _ => .pure _

theorem returnedSchema?_reads (task : InferenceTask) (path : String) (operation : Operation) :
    Reads (returnedSchema? task path operation) := by
  refine (responseContent?_reads task operation "200").bind fun content => ?_
  cases content with
  | none => exact .pure _
  | some media =>
      dsimp only
      split
      · exact (Reads.ofLookup _).map _
      · exact .throw _

/-- What an operation returns is a schema of the document. -/
theorem returnedSchema?_located {task : InferenceTask} {path : String} {operation : Operation}
    {found : Lookup.Found} (h : (returnedSchema? task path operation).Yields (some found)) :
    ∃ part, Lookup.schema task.document part = .ok found := by
  obtain ⟨content, -, h⟩ := (responseContent?_reads task operation "200").yields_bind h
  cases content with
  | none => cases h.pure
  | some media =>
      dsimp only at h
      split at h
      · rename_i part _
        rw [map_eq_pure_bind] at h
        obtain ⟨other, located, h⟩ := (Reads.ofLookup _).yields_bind h
        cases h.pure
        exact ⟨part, located.ofLookup⟩
      · exact h.not_throw.elim

theorem createdSchema?_reads (task : InferenceTask) (operation : Operation) :
    Reads (createdSchema? task operation) := by
  unfold createdSchema?
  split
  · exact .pure _
  · refine (responseContent?_reads ..).bind fun media => ?_
    split
    · exact (Reads.ofLookup _).map _
    · exact .pure _

theorem discriminatorTarget_reads (task : InferenceTask) (path reference : String) :
    Reads (discriminatorTarget task path reference) := by
  unfold discriminatorTarget
  split
  · exact .pure _
  · exact .throw _
  · exact .throw _

theorem discriminatorTarget_located {task : InferenceTask} {path reference : String}
    {found : Lookup.Found} (h : (discriminatorTarget task path reference).Yields found) :
    Lookup.schemaByName task.document reference = .ok found := by
  unfold discriminatorTarget at h
  split at h
  · rename_i located
    rw [located, h.pure]
  · exact h.not_throw.elim
  · exact h.not_throw.elim

theorem branchAnswer_reads (task : InferenceTask) (ctx : PathContext) (response : Option Schema)
    (value : String) : Reads (branchAnswer task ctx response value) := by
  unfold branchAnswer
  split
  · exact (discriminatorTarget_reads ..).bind fun _ => .pure _
  · exact .pure _

end Infer

/-! ## Courses -/

/-- Which sessions a session may go on to, and in which ones it may break off. -/
structure Course where
  rel : Session → Session → Prop
  breaks : Session → Session → Prop
  refl : ∀ s, rel s s
  trans : ∀ {s s' s''}, rel s s' → rel s' s'' → rel s s''
  breaksOff : ∀ {s s'}, rel s s' → breaks s s'
  breaksLater : ∀ {s s' s''}, rel s s' → breaks s' s'' → breaks s s''

namespace Course

variable {C : Course} {α β : Type} {s : Session}

/-- The course on which both relations hold. -/
def both (C D : Course) : Course where
  rel s s' := C.rel s s' ∧ D.rel s s'
  breaks s s' := C.breaks s s' ∧ D.breaks s s'
  refl s := ⟨C.refl s, D.refl s⟩
  trans first second := ⟨C.trans first.1 second.1, D.trans first.2 second.2⟩
  breaksOff later := ⟨C.breaksOff later.1, D.breaksOff later.2⟩
  breaksLater first second := ⟨C.breaksLater first.1 second.1, D.breaksLater first.2 second.2⟩

theorem breaks_refl (s : Session) : C.breaks s s := C.breaksOff (C.refl s)

variable (C) in
/-- The step stays on the course, and ends in what `post` says. -/
structure Runs (x : Infer α) (s : Session) (post : α → Session → Prop) : Prop where
  ends : Infer.Ends x s (fun a s' => C.rel s s' ∧ post a s') fun _ s' => C.breaks s s'

namespace Runs

variable {post post' : α → Session → Prop}

theorem pure {a : α} (ha : post a s) : C.Runs (pure a) s post := ⟨C.refl s, ha⟩

theorem throw {e : InferenceError} : C.Runs (throw e : Infer α) s post := ⟨C.breaks_refl s⟩

theorem imp {x : Infer α} (h : C.Runs x s post)
    (weaker : ∀ a s', C.rel s s' → post a s' → post' a s') : C.Runs x s post' :=
  ⟨h.ends.imp fun a s' ⟨later, ha⟩ => ⟨later, weaker a s' later ha⟩⟩

/-- What is known of a result anyhow is known of it on the course. -/
theorem and {x : Infer α} (h : C.Runs x s post) (known : Infer.Ends x s post' fun _ _ => True) :
    C.Runs x s fun a s' => post a s' ∧ post' a s' :=
  ⟨(h.ends.and known).mono (fun _ _ ⟨⟨later, ha⟩, ha'⟩ => ⟨later, ha, ha'⟩)
    fun _ _ broken => broken.1⟩

/-- What stays on both courses stays on the first. -/
theorem left {D : Course} {x : Infer α} (h : (C.both D).Runs x s post) : C.Runs x s post :=
  ⟨h.ends.mono (fun _ _ ⟨later, holds⟩ => ⟨later.1, holds⟩) fun _ _ broken => broken.1⟩

theorem bind {x : Infer α} {f : α → Infer β} {post' : β → Session → Prop} (first : C.Runs x s post)
    (rest : ∀ a s', C.rel s s' → post a s' → C.Runs (f a) s' post') :
    C.Runs (x >>= f) s post' := by
  refine ⟨Infer.ends_bind.2 (first.ends.imp fun a s₁ ⟨later₁, ha⟩ => ?_)⟩
  exact (rest a s₁ later₁ ha).ends.mono (fun b s₂ ⟨later₂, hb⟩ => ⟨C.trans later₁ later₂, hb⟩)
    fun _ _ broken => C.breaksLater later₁ broken

theorem get : C.Runs get s fun now s' => now = s' := ⟨C.refl s, rfl⟩

theorem reads {x : Infer α} (h : Infer.Reads x) :
    C.Runs x s fun a s' => s' = s ∧ x.Yields a := by
  obtain ⟨result, ran⟩ := h
  refine ⟨?_⟩
  unfold Infer.Ends
  rw [ran s]
  cases result with
  | ok a => exact ⟨C.refl s, rfl, ran⟩
  | error e => exact C.breaks_refl s

/-- A step that only writes to the tables beside the package stays on a course on which such changes
are. -/
theorem of_writesTables {x : Infer α} (writes : Infer.WritesTables x)
    (tables : ∀ {s'}, s.OnlyTables s' → C.rel s s') : C.Runs x s fun _ _ => True :=
  ⟨(writes.ends s).mono (fun _ _ changed => ⟨tables changed, trivial⟩)
    fun _ _ ⟨changed, _⟩ => C.breaksOff (tables changed)⟩

theorem ofLookup {result : Except LookupError α} :
    C.Runs (Infer.ofLookup result) s fun found s' => s' = s ∧ result = .ok found :=
  ⟨Infer.ends_ofLookup.2 ⟨fun _ located => ⟨C.refl s, rfl, located⟩, fun _ _ => C.breaks_refl s⟩⟩

theorem find {task : InferenceTask} {part : SchemaOrRef} :
    C.Runs (Infer.find task part) s fun found s' =>
      s' = s ∧ Lookup.schema task.document part = .ok found := ofLookup

/-! ### Loops

What a step establishes for its own item lasts along the course, so in the end it is known of all
items. -/

section

variable {items : List α}

/-- The steps of a fold establish something for each item, if each step does so for its own and
keeps what was established. -/
theorem foldlM_forall {f : β → α → Infer β} {made : α → β → Session → Prop}
    (step : ∀ a ∈ items, ∀ b s, C.Runs (f b a) s fun b' s' =>
      made a b' s' ∧ ∀ other, made other b s → made other b' s') :
    ∀ {b s}, C.Runs (items.foldlM f b) s fun b' s' =>
      (∀ a ∈ items, made a b' s') ∧ ∀ other, made other b s → made other b' s' := by
  induction items with
  | nil => exact .pure ⟨by simp, fun _ => id⟩
  | cons a rest ih =>
      intro b s
      rw [List.foldlM_cons]
      refine (step a List.mem_cons_self b s).bind fun b₁ s₁ _ ⟨made₁, kept₁⟩ => ?_
      refine (ih fun a member => step a (List.mem_cons_of_mem _ member)).imp
        fun b₂ s₂ _ ⟨made₂, kept₂⟩ => ⟨fun other member => ?_, fun other h => ?_⟩
      · rcases List.mem_cons.1 member with rfl | member
        · exact kept₂ _ made₁
        · exact made₂ other member
      · exact kept₂ other (kept₁ other h)

variable {made : α → Session → Prop}

theorem foldlM {f : β → α → Infer β} (lasts : ∀ a {s s'}, C.rel s s' → made a s → made a s')
    (step : ∀ a ∈ items, ∀ b s, C.Runs (f b a) s fun _ => made a) {b : β} :
    C.Runs (items.foldlM f b) s fun _ s' => ∀ a ∈ items, made a s' := by
  have all : C.Runs (items.foldlM f b) s fun _ s' =>
      (∀ a ∈ items, made a s') ∧ ∀ a, made a s → made a s' :=
    foldlM_forall fun a member b s => (step a member b s).imp fun _ _ later own =>
      ⟨own, fun other => lasts other later⟩
  exact all.imp fun _ _ _ => And.left

theorem mapM {f : α → Infer β} (lasts : ∀ a {s s'}, C.rel s s' → made a s → made a s')
    (step : ∀ a ∈ items, ∀ s, C.Runs (f a) s fun _ => made a) :
    ∀ {s}, C.Runs (items.mapM f) s fun _ s' => ∀ a ∈ items, made a s' := by
  induction items with
  | nil => exact .pure (by simp)
  | cons a rest ih =>
      intro s
      rw [List.mapM_cons]
      refine (step a List.mem_cons_self s).bind fun b s₁ _ made₁ => ?_
      refine (ih fun a member => step a (List.mem_cons_of_mem _ member)).bind
        fun bs s₂ later₂ made₂ => .pure fun other member => ?_
      rcases List.mem_cons.1 member with rfl | member
      · exact lasts _ later₂ made₁
      · exact made₂ other member

theorem forM {f : α → Infer Unit} (lasts : ∀ a {s s'}, C.rel s s' → made a s → made a s')
    (step : ∀ a ∈ items, ∀ s, C.Runs (f a) s fun _ => made a) :
    ∀ {s}, C.Runs (items.forM f) s fun _ s' => ∀ a ∈ items, made a s' := by
  induction items with
  | nil => exact .pure (by simp)
  | cons a rest ih =>
      intro s
      change C.Runs (f a >>= fun _ => rest.forM f) s _
      refine (step a List.mem_cons_self s).bind fun _ s₁ _ made₁ => ?_
      refine (ih fun a member => step a (List.mem_cons_of_mem _ member)).imp
        fun _ s₂ later₂ made₂ other member => ?_
      rcases List.mem_cons.1 member with rfl | member
      · exact lasts _ later₂ made₁
      · exact made₂ other member

end

theorem optionForM {f : α → Infer Unit} {item : Option α} {made : α → Session → Prop}
    (step : ∀ a, item = some a → C.Runs (f a) s fun _ => made a) :
    C.Runs (item.forM f) s fun _ s' => ∀ a, item = some a → made a s' := by
  cases item with
  | none => exact .pure (by simp)
  | some a =>
      refine (step a rfl).imp ?_
      rintro _ s' - made₁ _ ⟨⟩
      exact made₁

end Runs

end Course

end ResourceInference
