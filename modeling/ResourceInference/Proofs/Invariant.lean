import ResourceInference.Proofs.SessionSteps
import ResourceInference.Proofs.Tokens

/-!
# Invariants of inference

An `Invariant` says what holds of a session between two steps (`holds`), how a later session
relates to an earlier one (`later`), which tokens are fit to be mentioned (`good`), and which to be
the answer to a reference (`answer`); a token that is good stays good. The fields ask for no more
than that single changes of a session respect it: registering a type that mentions good tokens
only, merging and dropping a type, writing to the tables beside the package.

`I.Leads x s post` says that the step `x` respects the invariant and ends in what `post` says. From
the fields it follows, function by function, for the functions that give schemas their types, as
long as the function for the schemas inside respects the invariant on all schemas that they call it
with (`Calls`, `Invariant.Serves`). Entering a component is not among these functions: there an
invariant may hold for a reason of its own.
-/

set_option autoImplicit false

namespace ResourceInference

/-! ## Invariants -/

/-- What holds of sessions between steps of inference. -/
structure Invariant where
  holds : Session → Prop
  later : Session → Session → Prop
  good : Session → String → Prop
  answer : Session → String → Prop
  /-- What is known where inference fails. -/
  fails : InferenceError → Session → Prop
  refl : ∀ s, later s s
  trans : ∀ {s s' s''}, later s s' → later s' s'' → later s s''
  lasts : ∀ {s s' token}, later s s' → good s token → good s' token
  stops : ∀ {s e}, holds s → ¬ e.IsEndless → fails e s
  tables : ∀ {s s'}, holds s → s.OnlyTables s' → holds s' ∧ later s s'
  known : ∀ {s token type}, holds s → s.package.types.get? token = some type →
    good s token ∧ answer s token ∧ ∀ mentioned ∈ type.tokens, good s mentioned
  registers : ∀ {s token type}, holds s → s.package.types.get? token = none →
    (∀ mentioned ∈ type.tokens, good s mentioned) →
      holds (s.withType token type) ∧ later s (s.withType token type)
  forms : ∀ {s} required members, holds s →
    holds (s.noted (.formed required members)) ∧ later s (s.noted (.formed required members))
  merges : ∀ {s} token, holds s →
    holds (s.noted (.merged token)) ∧ later s (s.noted (.merged token))
  drops : ∀ {s} token, holds s → holds (s.dropping token) ∧ later s (s.dropping token)

namespace Invariant

variable {I : Invariant} {α β : Type} {s : Session}

variable (I) in
/-- All tokens of a list are good. -/
def Covers (s : Session) (tokens : List String) : Prop := ∀ token ∈ tokens, I.good s token

theorem Covers.later {tokens : List String} {s s' : Session} (h : I.Covers s tokens)
    (later : I.later s s') : I.Covers s' tokens :=
  fun token member => I.lasts later (h token member)

variable (I) in
/-- All tokens of a result are good, and the result itself may be an answer. -/
structure Fits (s : Session) (resolved : Resolved) : Prop where
  covers : I.Covers s resolved.type.tokens
  answers : ∀ token, resolved.type.token? = some token → I.answer s token

theorem Fits.of_registered {token : String} {type : NamedType} {isNew : Bool} (h : I.holds s)
    (registered : s.package.types.get? token = some type) : I.Fits s ⟨.named token, isNew⟩ := by
  obtain ⟨good, answer, -⟩ := I.known h registered
  refine ⟨fun mentioned member => ?_, fun answered same => ?_⟩
  · obtain rfl := List.mem_singleton.1 member
    exact good
  · cases same
    exact answer

/-- A result that is not named is fit if its tokens are good. -/
theorem Fits.of_unnamed {resolved : Resolved} (unnamed : resolved.type.token? = none)
    (covers : I.Covers s resolved.type.tokens) : I.Fits s resolved :=
  ⟨covers, fun token named => by rw [unnamed] at named; cases named⟩

theorem Covers.empty : I.Covers s (PropertyMap.tokens ∅) :=
  PropertyMap.forall_tokens.2 (SortedMap.all_empty _)

theorem Covers.insert {properties : PropertyMap} {property : PropertySpec}
    (h : I.Covers s (PropertyMap.tokens properties)) (name : String)
    (h' : I.Covers s property.type.tokens) :
    I.Covers s (PropertyMap.tokens (properties.insert name property)) :=
  PropertyMap.forall_tokens.2 ((PropertyMap.forall_tokens.1 h).insert name h')

theorem Covers.union {properties other : PropertyMap}
    (h : I.Covers s (PropertyMap.tokens properties))
    (h' : I.Covers s (PropertyMap.tokens other)) :
    I.Covers s (PropertyMap.tokens (properties.union other)) :=
  PropertyMap.forall_tokens.2
    ((PropertyMap.forall_tokens.1 h).union (PropertyMap.forall_tokens.1 h'))

variable (I) in
/-- The step respects the invariant, and ends in what `post` says. -/
structure Leads (x : Infer α) (s : Session) (post : α → Session → Prop) : Prop where
  ends : Infer.Ends x s (fun a s' => I.holds s' ∧ I.later s s' ∧ post a s') I.fails

namespace Leads

variable {post post' : α → Session → Prop}

theorem pure {a : α} (h : I.holds s) (ha : post a s) : I.Leads (pure a) s post :=
  ⟨h, I.refl s, ha⟩

theorem throw {e : InferenceError} (h : I.holds s) (ends : ¬ e.IsEndless) :
    I.Leads (throw e : Infer α) s post := ⟨I.stops h ends⟩

theorem imp {x : Infer α} (h : I.Leads x s post)
    (weaker : ∀ a s', I.later s s' → post a s' → post' a s') : I.Leads x s post' :=
  ⟨h.ends.imp fun a s' ⟨holds, later, ha⟩ => ⟨holds, later, weaker a s' later ha⟩⟩

theorem bind {x : Infer α} {f : α → Infer β} {post' : β → Session → Prop}
    (first : I.Leads x s post)
    (rest : ∀ a s', I.holds s' → I.later s s' → post a s' → I.Leads (f a) s' post') :
    I.Leads (x >>= f) s post' := by
  refine ⟨Infer.ends_bind.2 (first.ends.imp fun a s₁ ⟨holds₁, later₁, ha⟩ => ?_)⟩
  exact (rest a s₁ holds₁ later₁ ha).ends.imp fun b s₂ ⟨holds₂, later₂, hb⟩ =>
    ⟨holds₂, I.trans later₁ later₂, hb⟩

theorem of_writesTables {x : Infer α} (writes : Infer.WritesTables x) (h : I.holds s) :
    I.Leads x s fun _ _ => True := by
  refine ⟨(writes.ends s).mono (fun a s' tables => ?_) fun e s' ⟨tables, ends⟩ => ?_⟩
  · exact ⟨(I.tables h tables).1, (I.tables h tables).2, trivial⟩
  · exact I.stops (I.tables h tables).1 fun endless => ends endless.ofSchemas

theorem forming {required members : List String} (h : I.holds s) :
    I.Leads (Infer.note (.formed required members)) s fun _ _ => True :=
  ⟨(I.forms required members h).1, (I.forms required members h).2, trivial⟩

theorem get (h : I.holds s) : I.Leads get s fun now s' => now = s' := ⟨h, I.refl s, rfl⟩

theorem find {task : InferenceTask} {part : SchemaOrRef} (h : I.holds s) :
    I.Leads (Infer.find task part) s fun found _ =>
      Lookup.schema task.document part = .ok found :=
  ⟨Infer.ends_find.2
    ⟨fun _ located => ⟨h, I.refl s, located⟩, fun _ _ => I.stops h id⟩⟩

/-- An invariant of the steps of a fold holds at its end. -/
theorem foldlM {f : β → α → Infer β} {kept : β → Session → Prop} {items : List α}
    (step : ∀ a ∈ items, ∀ b s, I.holds s → kept b s → I.Leads (f b a) s kept) :
    ∀ {b s}, I.holds s → kept b s → I.Leads (items.foldlM f b) s kept := by
  induction items with
  | nil => exact fun holds hb => .pure holds hb
  | cons a rest ih =>
      intro b s holds hb
      rw [List.foldlM_cons]
      refine (step a List.mem_cons_self b s holds hb).bind fun b' s' holds' _ hb' => ?_
      exact ih (fun a member => step a (List.mem_cons_of_mem _ member)) holds' hb'

/-- The steps of a fold establish something for each item, if each step does so for its own and
keeps what was established. -/
theorem foldlM_forall {f : β → α → Infer β} {made : α → β → Session → Prop} {items : List α}
    (step : ∀ a ∈ items, ∀ b s, I.holds s → I.Leads (f b a) s fun b' s' =>
      made a b' s' ∧ ∀ other, made other b s → made other b' s') :
    ∀ {b s}, I.holds s → I.Leads (items.foldlM f b) s fun b' s' =>
      (∀ a ∈ items, made a b' s') ∧ ∀ other, made other b s → made other b' s' := by
  induction items with
  | nil => exact fun holds => .pure holds ⟨by simp, fun _ => id⟩
  | cons a rest ih =>
      intro b s holds
      rw [List.foldlM_cons]
      refine (step a List.mem_cons_self b s holds).bind fun b₁ s₁ holds₁ _ ⟨made₁, kept₁⟩ => ?_
      refine (ih (fun a member => step a (List.mem_cons_of_mem _ member)) holds₁).imp
        fun b₂ s₂ _ ⟨made₂, kept₂⟩ => ⟨fun other member => ?_, fun other h => ?_⟩
      · rcases List.mem_cons.1 member with rfl | member
        · exact kept₂ _ made₁
        · exact made₂ other member
      · exact kept₂ other (kept₁ other h)

/-- A loop makes good results, if each step makes one and a good result stays good. -/
theorem mapM {f : α → Infer β} {made : β → Session → Prop} {items : List α}
    (lasts : ∀ b s s', I.later s s' → made b s → made b s')
    (step : ∀ a ∈ items, ∀ s, I.holds s → I.Leads (f a) s made) :
    ∀ {s}, I.holds s → I.Leads (items.mapM f) s fun bs s' => ∀ b ∈ bs, made b s' := by
  induction items with
  | nil => exact fun holds => .pure holds (by simp)
  | cons a rest ih =>
      intro s holds
      rw [List.mapM_cons]
      refine (step a List.mem_cons_self s holds).bind fun b s₁ holds₁ _ hb => ?_
      refine (ih (fun a member => step a (List.mem_cons_of_mem _ member)) holds₁).bind
        fun bs s₂ holds₂ later₂ hbs => .pure holds₂ fun b' member => ?_
      rcases List.mem_cons.1 member with rfl | member
      · exact lasts _ _ _ later₂ hb
      · exact hbs b' member

theorem forM {f : α → Infer Unit} {kept : Session → Prop} {items : List α}
    (step : ∀ a ∈ items, ∀ s, I.holds s → kept s → I.Leads (f a) s fun _ => kept) :
    ∀ {s}, I.holds s → kept s → I.Leads (items.forM f) s fun _ => kept := by
  induction items with
  | nil => exact fun holds hs => .pure holds hs
  | cons a rest ih =>
      intro s holds hs
      change I.Leads (f a >>= fun _ => rest.forM f) s _
      refine (step a List.mem_cons_self s holds hs).bind fun _ s' holds' _ hs' => ?_
      exact ih (fun a member => step a (List.mem_cons_of_mem _ member)) holds' hs'

theorem optionForM {f : α → Infer Unit} {item : Option α} (holds : I.holds s)
    (step : ∀ a, item = some a → I.Leads (f a) s fun _ _ => True) :
    I.Leads (item.forM f) s fun _ _ => True := by
  cases item with
  | none => exact .pure holds trivial
  | some a => exact step a rfl

end Leads

/-! ## Registering and taking -/

/-- A type is registered, or one that agrees with it is found. -/
theorem puts {type : NamedType} {token : String} {resolved : Resolved} {s' : Session}
    (h : I.holds s) (covers : I.Covers s type.tokens) (puts : s.Puts type token resolved s') :
    I.holds s' ∧ I.later s s' ∧ I.Fits s' resolved := by
  cases puts with
  | new free =>
      obtain ⟨holds, later⟩ := I.registers h free covers
      have registered : (s.withType token type).package.types.get? token = some type := by
        simp [Session.get?_withType]
      exact ⟨holds, later, .of_registered holds registered⟩
  | found taken _ => exact ⟨h, I.refl s, .of_registered h taken⟩

theorem registerGenerated_leads {task : InferenceTask} {scope : Scope} {name : String}
    {type : NamedType} (h : I.holds s) (covers : I.Covers s type.tokens) :
    I.Leads (Infer.registerGenerated task scope name type) s fun resolved s' =>
      I.Fits s' resolved := by
  refine ⟨(Infer.registerGenerated_ends task scope name type s).mono
    (fun resolved s' ⟨token, registered⟩ => I.puts h covers registered) ?_⟩
  rintro e s' ⟨rfl, token, rfl⟩
  exact I.stops h id

theorem takeObject_leads {resolved : Resolved} (h : I.holds s) :
    I.Leads (Infer.takeObject resolved) s fun object s' =>
      ∀ o, object = some o → I.Covers s' o.tokens := by
  refine ⟨Infer.ends_takeObject.2 ?_⟩
  cases named : resolved.type.token? with
  | none => exact ⟨h, I.refl s, by simp⟩
  | some token =>
      obtain ⟨merged, laterMerged⟩ := I.merges token h
      have covers : ∀ o, (s.package.types.get? token).bind NamedType.object? = some o →
          I.Covers s o.tokens := by
        intro o taken
        obtain ⟨type, registered, isObject⟩ := Option.bind_eq_some_iff.1 taken
        cases type with
        | enum _ => cases isObject
        | object type =>
            cases isObject
            exact (I.known h registered).2.2
      dsimp only
      split
      · obtain ⟨dropped, laterDropped⟩ := I.drops token merged
        have later := I.trans laterMerged laterDropped
        exact ⟨dropped, later, fun o taken => (covers o taken).later later⟩
      · exact ⟨merged, laterMerged, fun o taken => (covers o taken).later laterMerged⟩

end Invariant

end ResourceInference
