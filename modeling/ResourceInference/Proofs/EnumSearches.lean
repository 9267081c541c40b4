import ResourceInference.Proofs.EnumNames
import ResourceInference.Proofs.EnumReuse

/-!
# Searches for enums

A search goes from name to name. A name whose token an object has, or an enum with other members,
leads to the next one (`EnumSearch.Retries`), and every other name ends the search, whatever its
bound is (`EnumSearch.search_cases`). Names grow, so from each name to the next there are fewer left
that the search can still pass (`EnumSearch.Retries.namesLeft_lt`). Hence no names are tried for
ever, the bound is never used up, and more of it would change nothing.

The session changes where the search registers an enum, which is at its end, and nowhere else. So
a search that finds nothing or fails leaves no trace, and inference can go on from there.
-/

set_option autoImplicit false

namespace ResourceInference

namespace EnumSearch

section

variable (task : InferenceTask) (scope : Scope) (schema : Schema) (s : Session)

/-- The token that a name stands for is taken, and not by the enum that is sought, so that another
name is tried next. -/
inductive Retries (name : String) : String → Prop where
  | ofObject {candidate : EnumType} {object : ObjectType}
      (made : ofSchema? (Naming.pascalCase name) schema = some candidate)
      (taken : s.package.types.get? (task.token scope.module (Naming.pascalCase name)) =
        some (.object object)) : Retries name (name ++ "Enum")
  | ofEnum {candidate existing : EnumType}
      (made : ofSchema? (Naming.pascalCase name) schema = some candidate)
      (taken : s.package.types.get? (task.token scope.module (Naming.pascalCase name)) =
        some (.enum existing))
      (differs : existing.sameMembers candidate = false)
      (unqualified : startsWith scope.resource (Naming.pascalCase name) = false) :
      Retries name (scope.resource ++ name)

end

/-- An enum is registered under the token; if it is new, nothing else has changed, and if not,
nothing at all. -/
structure Finds (s : Session) (token : String) (isNew : Bool) (s' : Session) : Prop where
  registered : ∃ enum, s'.package.types.get? token = some (.enum enum)
  isNew_iff : isNew = true ↔ s.package.types.get? token = none
  others : ∀ other ≠ token, s'.package.types.get? other = s.package.types.get? other
  unchanged : isNew = false → s' = s

variable {task : InferenceTask} {scope : Scope} {schema : Schema} {s : Session}

/-- The search ends in the session `s` as it may. -/
def EndsCleanly (x : Infer (Option Resolved)) (s : Session) : Prop :=
  Infer.Ends x s
    (fun answer s' => answer = none ∧ s' = s ∨
      ∃ token isNew, answer = some ⟨.named token, isNew⟩ ∧ Finds s token isNew s')
    fun e s' => e.IsDuplicateEnum ∧ s' = s

/-- What trying a name does. -/
theorem run_search (name : String) (bound : Nat) :
    (search task scope schema name (bound + 1)).run.run s =
      match ofSchema? (Naming.pascalCase name) schema with
      | none => (.ok none, s)
      | some candidate =>
        let token := task.token scope.module (Naming.pascalCase name)
        match s.package.types.get? token with
        | none => (.ok (some ⟨.named token, true⟩), s.withType token (.enum candidate))
        | some (.object _) => (search task scope schema (name ++ "Enum") bound).run.run s
        | some (.enum existing) =>
          if existing.sameMembers candidate then (.ok (some ⟨.named token, false⟩), s)
          else if startsWith scope.resource (Naming.pascalCase name) then
            (.error (.duplicateEnum token candidate.members existing.members), s)
          else (search task scope schema (scope.resource ++ name) bound).run.run s := by
  rw [search]
  dsimp only
  cases ofSchema? (Naming.pascalCase name) schema with
  | none => rfl
  | some candidate =>
      generalize isToken : task.token scope.module (Naming.pascalCase name) = token
      have read : (Infer.type? token).run.run s = (.ok (s.package.types.get? token), s) := rfl
      dsimp only
      rw [Infer.run_bind, read]
      cases taken : s.package.types.get? token with
      | none =>
          have registered := (Infer.ends_register taken).1
            (Infer.ends_ran (Infer.register token (.enum candidate)) s)
          dsimp only
          rw [Infer.run_bind, registered]
          rfl
      | some type =>
          cases type with
          | object _ => rfl
          | enum existing =>
              dsimp only
              split
              · rfl
              · split <;> rfl

theorem Finds.new {token : String} {enum : EnumType} (free : s.package.types.get? token = none) :
    Finds s token true (s.withType token (.enum enum)) where
  registered := ⟨enum, by rw [Session.get?_withType, if_pos rfl]⟩
  isNew_iff := iff_of_true rfl free
  others other apart := by rw [Session.get?_withType, if_neg apart]
  unchanged old := by cases old

theorem Finds.known {token : String} {enum : EnumType}
    (taken : s.package.types.get? token = some (.enum enum)) : Finds s token false s where
  registered := ⟨enum, taken⟩
  isNew_iff := by simp [taken]
  others _ _ := rfl
  unchanged _ := rfl

/-- A name leads to the next one, or the search ends with it, whatever the bound. -/
theorem search_cases (task : InferenceTask) (scope : Scope) (schema : Schema) (s : Session)
    (name : String) :
    (∃ next, Retries task scope schema s name next ∧ ∀ bound,
      (search task scope schema name (bound + 1)).run.run s =
        (search task scope schema next bound).run.run s) ∨
    ∃ outcome, ∀ bound, (search task scope schema name (bound + 1)).run.run s = outcome ∧
      EndsCleanly (search task scope schema name (bound + 1)) s := by
  unfold EndsCleanly Infer.Ends
  simp only [run_search]
  split
  · exact .inr ⟨_, fun _ => ⟨rfl, .inl ⟨rfl, rfl⟩⟩⟩
  · rename_i candidate made
    split
    · rename_i free
      exact .inr ⟨_, fun _ => ⟨rfl, .inr ⟨_, _, rfl, .new free⟩⟩⟩
    · rename_i object taken
      exact .inl ⟨_, .ofObject made taken, fun _ => rfl⟩
    · rename_i existing taken
      split
      · exact .inr ⟨_, fun _ => ⟨rfl, .inr ⟨_, _, rfl, .known taken⟩⟩⟩
      · rename_i differs
        split
        · exact .inr ⟨_, fun _ => ⟨rfl, trivial, rfl⟩⟩
        · rename_i unqualified
          exact .inl ⟨_, .ofEnum made taken (by simpa using differs) (by simpa using unqualified),
            fun _ => rfl⟩

/-- From try to try, fewer names are left. -/
theorem Retries.namesLeft_lt (plain : IsPlain scope.resource) {name next : String}
    (retries : Retries task scope schema s name next) :
    namesLeft task scope s next < namesLeft task scope s name := by
  cases retries with
  | ofObject made taken =>
      have mixed := Naming.not_isUpperCase_append_enum name
      exact EnumSearch.namesLeft_lt taken (fun h => absurd h mixed) fun alike =>
        Naming.length_pascalCase_append_enum fun h => mixed (alike.2 h)
  | ofEnum made taken differs unqualified =>
      have nonempty : scope.resource ≠ "" := by
        intro empty
        simp [startsWith, empty] at unqualified
      exact EnumSearch.namesLeft_lt taken (Naming.IsUpperCase.of_append plain)
        (Naming.length_pascalCase_append plain nonempty)

/-- With a bound beyond the names that are left, a search ends cleanly. -/
theorem search_endsCleanly (plain : IsPlain scope.resource) (bound : Nat) :
    ∀ name, namesLeft task scope s name < bound →
      EndsCleanly (search task scope schema name bound) s := by
  induction bound with
  | zero => exact fun _ enough => absurd enough (Nat.not_lt_zero _)
  | succ bound ih =>
      intro name enough
      rcases search_cases task scope schema s name with ⟨next, retries, step⟩ | ⟨outcome, ends⟩
      · have fewer := retries.namesLeft_lt plain
        have later := ih next (by omega)
        unfold EndsCleanly Infer.Ends at later ⊢
        rwa [step bound]
      · exact (ends bound).2

/-- Two bounds beyond the names that are left are the same to a search. -/
theorem search_congr_bound (plain : IsPlain scope.resource) (bound : Nat) :
    ∀ name other, namesLeft task scope s name < bound → namesLeft task scope s name < other →
      (search task scope schema name bound).run.run s =
        (search task scope schema name other).run.run s := by
  induction bound with
  | zero => exact fun _ _ enough => absurd enough (Nat.not_lt_zero _)
  | succ bound ih =>
      intro name other enough enough'
      obtain ⟨other, rfl⟩ := Nat.exists_eq_add_one_of_ne_zero (Nat.ne_zero_of_lt enough')
      rcases search_cases task scope schema s name with ⟨next, retries, step⟩ | ⟨outcome, ends⟩
      · have fewer := retries.namesLeft_lt plain
        rw [step bound, step other]
        exact ih next other (by omega) (by omega)
      · rw [(ends bound).1, (ends other).1]

/-- No names are tried for ever. -/
theorem exists_not_retries (plain : IsPlain scope.resource) (tries : Nat → String) :
    ∃ n, ¬ Retries task scope schema s (tries n) (tries (n + 1)) := by
  refine Classical.byContradiction fun endless => ?_
  have retries : ∀ n, Retries task scope schema s (tries n) (tries (n + 1)) := by
    simpa using endless
  have left : ∀ n, namesLeft task scope s (tries n) + n ≤ namesLeft task scope s (tries 0) := by
    intro n
    induction n with
    | zero => exact Nat.le_refl _
    | succ n ih =>
        have fewer := (retries n).namesLeft_lt plain
        omega
  have tooMany := left (namesLeft task scope s (tries 0) + 1)
  omega

end EnumSearch

namespace Infer

variable {task : InferenceTask} {scope : Scope} {schema : Schema} {s : Session}

theorem run_enumType (name : String) : (enumType task scope name schema).run.run s =
    (EnumSearch.search task scope schema name
      (2 * s.package.types.toList.length + 2)).run.run s := rfl

theorem enumType_isClean (plain : IsPlain scope.resource) (name : String) :
    EnumSearch.EndsCleanly (enumType task scope name schema) s := by
  have ends : EnumSearch.EndsCleanly (EnumSearch.search task scope schema name _) s :=
    EnumSearch.search_endsCleanly plain _ name (EnumSearch.namesLeft_lt_bound name)
  unfold EnumSearch.EndsCleanly Ends at ends ⊢
  rwa [run_enumType]

theorem enumType_isNotEndless (task : InferenceTask) {scope : Scope}
    (plain : IsPlain scope.resource) (name : String) (schema : Schema) (s : Session) :
    Ends (enumType task scope name schema) s (fun _ _ => True) fun e _ => ¬ e.IsEndless := by
  refine (enumType_isClean plain name).mono (fun _ _ _ => trivial) ?_
  rintro e _ ⟨duplicate, -⟩
  cases e <;> simp_all [InferenceError.IsDuplicateEnum, InferenceError.IsEndless]

/-- In a scope with a plain resource name the search for the enum of a schema comes to an end: no
names are tried for ever, and the bound is large enough. Where it answers with a token, an enum is
registered there, new exactly if the token was free, and under every other token stands what stood
there before. Where it answers with nothing, and where it fails, the session is what it was; and it
fails only because two enums want one token. -/
theorem enumType_endsCleanly (task : InferenceTask) {scope : Scope}
    (plain : IsPlain scope.resource) (name : String) (schema : Schema) (s : Session) :
    (∀ tries : Nat → String,
        ∃ n, ¬ EnumSearch.Retries task scope schema s (tries n) (tries (n + 1))) ∧
      (∀ bound, 2 * s.package.types.toList.length + 2 ≤ bound →
        (EnumSearch.search task scope schema name bound).run.run s =
          (enumType task scope name schema).run.run s) ∧
      Ends (enumType task scope name schema) s
        (fun answer s' => answer = none ∧ s' = s ∨
          ∃ token isNew, answer = some ⟨.named token, isNew⟩ ∧ EnumSearch.Finds s token isNew s')
        fun e s' => e.IsDuplicateEnum ∧ s' = s := by
  have enough : EnumSearch.namesLeft task scope s name < 2 * s.package.types.toList.length + 2 :=
    EnumSearch.namesLeft_lt_bound name
  refine ⟨EnumSearch.exists_not_retries plain, fun bound more => ?_, enumType_isClean plain name⟩
  rw [run_enumType]
  exact EnumSearch.search_congr_bound plain bound name _ (by omega) enough

end Infer

/-- Another enum has the name, so the enum gets the name with the resource in front. -/
theorem otherKind_qualified :
    let s := afterEnum "Kind" (enumOf .string [.string "a"])
    IsPlain "Res" ∧ ∃ s', (findEnum "Kind"
        (enumOf .string [.string "b"])).run.run s =
          (.ok (some ⟨.named "pkg:m:ResKind", true⟩), s') ∧
      EnumSearch.Finds s "pkg:m:ResKind" true s' := by
  intro s
  have plain : IsPlain (⟨"m", "Res"⟩ : Scope).resource := by decide
  refine ⟨plain, _, rfl, ?_⟩
  obtain ⟨-, -, ends⟩ := Infer.enumType_endsCleanly (Document.having [] []).task plain "Kind"
    (enumOf .string [.string "b"]) s
  rcases ends.of_run rfl with ⟨none, -⟩ | ⟨token, isNew, same, finds⟩
  · cases none
  · cases same
    exact finds

end ResourceInference
