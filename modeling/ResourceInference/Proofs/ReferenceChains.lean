import Mathlib.Data.List.Perm.Subperm
import ResourceInference.Proofs.ReferenceCycles
import ResourceInference.Proofs.Runs

/-!
# Chains of references

A component schema that is a reference to another one stands for it. So a name is the start of a
chain (`Document.chain`): the name itself, the name that the component schema of this name refers
to, and so on. The chain goes on as long as references in the form `#/components/schemas/NAME`
stand there. There are four ways in which following it can come to an end. The chain reaches a
schema, a name without component, or a reference in another form, and is over there
(`Document.Settles`); or else it never ends, and then some name on it comes round again
(`Document.RepeatsAt`), since there are finitely many components. Exactly one of the four is the
case (`Document.EndsAt.unique`), and it shows within as many steps as there are components, and one
more (`Lookup.component_endsAt`).

A name that starts like a reference is taken for one where a name or a reference may stand
(`Lookup.referenceLikeName_misread`).
-/

set_option autoImplicit false

namespace ResourceInference

/-! ## Cutting a text -/

namespace Text

theorem cutAt?_eq_some_iff {sep : Char} {cs before after : List Char} :
    cutAt? sep cs = some (before, after) ↔ cs = before ++ sep :: after ∧ sep ∉ before := by
  induction cs generalizing before with
  | nil => simp [cutAt?]
  | cons c cs ih =>
    rw [cutAt?]
    split
    · rename_i here
      subst here
      cases before with
      | nil => simp
      | cons first before =>
        refine iff_of_false (by simp) fun ⟨same, free⟩ => free ?_
        obtain ⟨rfl, -⟩ := List.cons.inj same
        exact List.mem_cons_self
    · rename_i other
      cases before with
      | nil => simp [other]
      | cons first before =>
        rw [Option.map_eq_some_iff]
        constructor
        · rintro ⟨⟨inner, rest⟩, cut, same⟩
          cases same
          obtain ⟨rfl, free⟩ := ih.1 cut
          exact ⟨rfl, by simp [Ne.symm other, free]⟩
        · rintro ⟨same, free⟩
          obtain ⟨rfl, rest⟩ := List.cons.inj same
          refine ⟨(before, after), ih.2 ⟨rest, fun inside => ?_⟩, rfl⟩
          exact free (List.mem_cons_of_mem _ inside)

theorem cutAt?_eq_none_iff {sep : Char} {cs : List Char} : cutAt? sep cs = none ↔ sep ∉ cs := by
  induction cs with
  | nil => simp [cutAt?]
  | cons c cs ih =>
    rw [cutAt?]
    split
    · rename_i here
      simp [here]
    · rename_i other
      rw [Option.map_eq_none_iff, ih, List.mem_cons, not_or]
      exact (and_iff_right (Ne.symm other)).symm

end Text

/-! ## The form of references -/

namespace Lookup

/-- A reference to a component in some section. -/
def reference (kind name : String) : String := componentsStart ++ kind ++ "/" ++ name

/-- What is wrong with a reference that should lead to a section and does not. -/
inductive Misformed (kind path : String) : LookupError → Prop where
  /-- It is no reference to a component. -/
  | noReference :
      (∀ found name, path ≠ reference found name) → Misformed kind path (.malformed path)
  | elsewhere {found name : String} : '/' ∉ found.toList → found ≠ kind →
      path = reference found name → Misformed kind path (.wrongSection kind found path)

theorem Misformed.path_eq {kind path path' : String} {e : LookupError}
    (misformed : Misformed kind path e) (misformed' : Misformed kind path' e) : path = path' := by
  cases misformed <;> cases misformed' <;> rfl

theorem toList_reference (kind name : String) : (reference kind name).toList =
    componentsStart.toList ++ (kind.toList ++ '/' :: name.toList) := by
  simp [reference, List.append_assoc]

theorem targetName_cases (kind path : String) :
    (∃ found name, '/' ∉ found.toList ∧ path = reference found name ∧ targetName kind path =
        if found = kind then .ok name else .error (.wrongSection kind found path)) ∨
      (∀ found name, path ≠ reference found name) ∧
        targetName kind path = .error (.malformed path) := by
  unfold targetName
  cases stripped : Text.stripStart? componentsStart.toList path.toList with
  | none =>
      refine .inr ⟨?_, rfl⟩
      rintro found name rfl
      rw [toList_reference, Text.stripStart?_eq_some_iff.2 rfl] at stripped
      cases stripped
  | some rest =>
      have chars := Text.stripStart?_eq_some_iff.1 stripped
      cases cut : Text.cutAt? '/' rest with
      | none =>
          refine .inr ⟨?_, by simp [cut]⟩
          rintro found name rfl
          rw [toList_reference, List.append_cancel_left_eq] at chars
          refine Text.cutAt?_eq_none_iff.1 cut ?_
          simp [← chars]
      | some parts =>
          obtain ⟨found, name⟩ := parts
          obtain ⟨rfl, free⟩ := Text.cutAt?_eq_some_iff.1 cut
          refine .inl ⟨String.ofList found, String.ofList name, by simpa using free, ?_,
            by simp [cut]⟩
          rw [← String.toList_inj, chars, toList_reference]
          simp

/-- A reference says which section and which name it means. -/
theorem reference_inj {found found' name name' : String} (free : '/' ∉ found.toList)
    (free' : '/' ∉ found'.toList) (same : reference found name = reference found' name') :
    found = found' ∧ name = name' := by
  have chars := congrArg String.toList same
  rw [toList_reference, toList_reference, List.append_cancel_left_eq] at chars
  have cut := Text.cutAt?_eq_some_iff.2 ⟨chars, free'⟩
  rw [Text.cutAt?_eq_some_iff.2 ⟨rfl, free⟩, Option.some_inj, Prod.ext_iff] at cut
  exact cut.imp String.toList_inj.1 String.toList_inj.1

theorem targetName_eq_ok_iff {kind path name : String} (plain : '/' ∉ kind.toList) :
    targetName kind path = .ok name ↔ path = reference kind name := by
  rcases targetName_cases kind path with ⟨found, name', free, rfl, outcome⟩ | ⟨noForm, outcome⟩
  · rw [outcome]
    constructor
    · intro named
      split at named
      · rename_i here
        cases named
        rw [here]
      · cases named
    · intro same
      obtain ⟨rfl, rfl⟩ := reference_inj free plain same
      rw [if_pos rfl]
  · rw [outcome]
    exact iff_of_false (by simp) (noForm kind name)

theorem targetName_eq_error_iff {kind path : String} {e : LookupError} :
    targetName kind path = .error e ↔ Misformed kind path e := by
  constructor
  · intro fails
    rcases targetName_cases kind path with ⟨found, name, free, rfl, outcome⟩ | ⟨noForm, outcome⟩
    · rw [outcome] at fails
      split at fails
      · cases fails
      · rename_i other
        cases fails
        exact .elsewhere free other rfl
    · cases outcome.symm.trans fails
      exact .noReference noForm
  · intro misformed
    rcases targetName_cases kind path with ⟨found, name, free, same, outcome⟩ | ⟨noForm, outcome⟩
    · cases misformed with
      | noReference noForm => exact absurd same (noForm found name)
      | elsewhere free' other same' =>
          obtain ⟨rfl, rfl⟩ := reference_inj free free' (same.symm.trans same')
          rw [outcome, if_neg other]
    · cases misformed with
      | noReference => exact outcome
      | elsewhere _ _ same => exact absurd same (noForm _ _)

theorem schemaReference_eq (name : String) : schemaReference name = reference "schemas" name := rfl

end Lookup

/-! ## Chains -/

namespace Document

variable (d : Document)

/-- The name that a component schema refers to, if it is a reference to a component schema. -/
def alias? (name : String) : Option String :=
  match d.schema? name with
  | some (.ref path) => (Lookup.targetName "schemas" path).toOption
  | _ => none

/-- The names on the chain of references that starts with a name. -/
def chain (name : String) : Nat → Option String
  | 0 => some name
  | n + 1 => (chain name n).bind d.alias?

/-- What following references comes to at a name that refers to no other one. -/
inductive Settles (last : String) : Except LookupError Schema → Prop where
  | schema {schema : Schema} : d.schema? last = some (.item schema) → Settles last (.ok schema)
  | absent : d.schema? last = none → Settles last (.error (.notFound (Lookup.schemaReference last)))
  | misformed {path : String} {e : LookupError} : d.schema? last = some (.ref path) →
      Lookup.Misformed "schemas" path e → Settles last (.error e)

/-- The `n`-th name on the chain is the first one that was there before. -/
structure RepeatsAt (name : String) (n : Nat) (again : String) : Prop where
  here : d.chain name n = some again
  before : ∃ m < n, d.chain name m = some again
  first : ∀ j < n, ∀ i < j, d.chain name i ≠ d.chain name j

/-- Following the chain ends at its `n`-th name. -/
inductive EndsAt (name : String) (n : Nat) : Except LookupError Schema → Prop where
  | settled {last : String} {result : Except LookupError Schema} :
      d.chain name n = some last → d.Settles last result → EndsAt name n result
  | repeated {again : String} : d.RepeatsAt name n again → EndsAt name n (.error (.circular again))

variable {d} {name last again : String} {n m : Nat} {result result' : Except LookupError Schema}

theorem alias?_eq_some_iff {next : String} :
    d.alias? name = some next ↔ d.schema? name = some (.ref (Lookup.schemaReference next)) := by
  have named : ∀ path, (Lookup.targetName "schemas" path).toOption = some next ↔
      path = Lookup.schemaReference next := by
    intro path
    rw [Lookup.schemaReference_eq, ← Lookup.targetName_eq_ok_iff (by decide)]
    cases Lookup.targetName "schemas" path <;> simp [Except.toOption]
  unfold alias?
  split
  · rename_i path isRef
    simp [isRef, named]
  · rename_i noRef
    exact iff_of_false (by simp) fun isRef => noRef _ isRef

theorem chain_succ (here : d.chain name n = some last) :
    d.chain name (n + 1) = d.alias? last := by rw [chain, here, Option.bind_some]

/-- A chain that is over stays so. -/
theorem chain_eq_none_of_le (le : n ≤ m) (ended : d.chain name n = none) :
    d.chain name m = none := by
  induction le with
  | refl => exact ended
  | step _ ih => rw [chain, ih, Option.bind_none]

/-- From two places with the same name the chain goes on alike. -/
theorem chain_add_congr (same : d.chain name n = d.chain name m) (k : Nat) :
    d.chain name (n + k) = d.chain name (m + k) := by
  induction k with
  | zero => exact same
  | succ k ih => rw [← Nat.add_assoc, ← Nat.add_assoc, chain, ih, chain]

theorem Settles.alias?_eq_none (settles : d.Settles last result) : d.alias? last = none := by
  cases settles with
  | schema stands => simp [alias?, stands]
  | absent stands => simp [alias?, stands]
  | misformed stands misformed =>
      simp [alias?, stands, Lookup.targetName_eq_error_iff.2 misformed, Except.toOption]

theorem Settles.unique (settles : d.Settles last result) (settles' : d.Settles last result') :
    result = result' := by
  cases settles with
  | schema stands =>
      cases settles' with
      | schema stands' => cases stands.symm.trans stands'; rfl
      | absent stands' => cases stands.symm.trans stands'
      | misformed stands' => cases stands.symm.trans stands'
  | absent stands =>
      cases settles' with
      | schema stands' => cases stands.symm.trans stands'
      | absent => rfl
      | misformed stands' => cases stands.symm.trans stands'
  | misformed stands misformed =>
      cases settles' with
      | schema stands' => cases stands.symm.trans stands'
      | absent stands' => cases stands.symm.trans stands'
      | misformed stands' misformed' =>
          cases stands.symm.trans stands'
          have fails := Lookup.targetName_eq_error_iff.2 misformed
          cases fails.symm.trans (Lookup.targetName_eq_error_iff.2 misformed')
          rfl

/-- A chain with a repetition goes on for ever. -/
theorem RepeatsAt.chain_ne_none (repeats : d.RepeatsAt name n again) (k : Nat) :
    d.chain name k ≠ none := by
  obtain ⟨m, earlier, before⟩ := repeats.before
  intro ended
  induction k using Nat.strongRecOn with
  | ind k ih =>
      rcases Nat.lt_or_ge n k with beyond | le
      · -- Behind the repetition the chain is as it was one round before.
        obtain ⟨t, rfl⟩ := Nat.exists_eq_add_of_le (Nat.le_of_lt beyond)
        have round := chain_add_congr (before.trans repeats.here.symm) t
        exact ih (m + t) (by omega) (round.trans ended)
      · have none := chain_eq_none_of_le le ended
        rw [repeats.here] at none
        cases none

theorem RepeatsAt.not_settles (repeats : d.RepeatsAt name n again)
    (here : d.chain name m = some last) (settles : d.Settles last result) : False :=
  repeats.chain_ne_none (m + 1) ((chain_succ here).trans settles.alias?_eq_none)

theorem Settles.le (settles : d.Settles last result) (here : d.chain name n = some last)
    {other : String} (there : d.chain name m = some other) : m ≤ n := by
  by_contra beyond
  have ended := chain_eq_none_of_le (Nat.lt_of_not_le beyond)
    ((chain_succ here).trans settles.alias?_eq_none)
  rw [there] at ended
  cases ended

theorem RepeatsAt.le {other : String} (repeats : d.RepeatsAt name n again)
    (repeats' : d.RepeatsAt name m other) : m ≤ n := by
  by_contra beyond
  obtain ⟨i, earlier, before⟩ := repeats.before
  exact repeats'.first n (Nat.lt_of_not_le beyond) i earlier (before.trans repeats.here.symm)

/-- Following a chain has one end. -/
theorem EndsAt.unique (ends : d.EndsAt name n result) (ends' : d.EndsAt name m result') :
    n = m ∧ result = result' := by
  cases ends with
  | settled here settles =>
      cases ends' with
      | settled here' settles' =>
          obtain rfl := Nat.le_antisymm (settles'.le here' here) (settles.le here here')
          cases here.symm.trans here'
          exact ⟨rfl, settles.unique settles'⟩
      | repeated repeats => exact (repeats.not_settles here settles).elim
  | repeated repeats =>
      cases ends' with
      | settled here settles => exact (repeats.not_settles here settles).elim
      | repeated repeats' =>
          obtain rfl := Nat.le_antisymm (repeats'.le repeats) (repeats.le repeats')
          cases repeats.here.symm.trans repeats'.here
          exact ⟨rfl, rfl⟩

end Document

/-! ## Following a chain -/

namespace Lookup

variable {d : Document} {name current : String} {n : Nat} {seen : List String}

/-- The first `n` names of a chain are pairwise distinct, and they are those that have been
seen. -/
structure Passed (d : Document) (name : String) (n : Nat) (seen : List String) : Prop where
  mem_iff : ∀ x, x ∈ seen ↔ ∃ m < n, d.chain name m = some x
  apart : ∀ j < n, ∀ i < j, d.chain name i ≠ d.chain name j
  nodup : seen.Nodup
  length : seen.length = n
  named : seen ⊆ d.componentNames

theorem Passed.nil (d : Document) (name : String) : Passed d name 0 [] where
  mem_iff x := by simp
  apart j none := absurd none (Nat.not_lt_zero j)
  nodup := List.nodup_nil
  length := rfl
  named := List.nil_subset _

theorem Passed.cons (passed : Passed d name n seen) (here : d.chain name n = some current)
    (new : current ∉ seen) (known : current ∈ d.componentNames) :
    Passed d name (n + 1) (current :: seen) where
  mem_iff x := by
    rw [List.mem_cons, passed.mem_iff, Nat.exists_lt_succ_right, here, Option.some_inj, or_comm,
      eq_comm]
  apart j within i before := by
    rcases Nat.lt_succ_iff_lt_or_eq.1 within with earlier | rfl
    · exact passed.apart j earlier i before
    · rw [here]
      exact fun same => new ((passed.mem_iff current).2 ⟨i, before, same⟩)
  nodup := List.nodup_cons.2 ⟨new, passed.nodup⟩
  length := congrArg (· + 1) passed.length
  named := List.cons_subset.2 ⟨known, passed.named⟩

theorem Passed.le_length (passed : Passed d name n seen) : n ≤ d.tables.schemas.length := by
  have bound := passed.nodup.length_le_of_subset passed.named
  rwa [passed.length, Document.componentNames, List.length_map] at bound

/-- With more steps left than there are components that have not been seen, a chain is followed to
its end. -/
theorem follow_endsAt (bound : Nat) : ∀ {n : Nat} {current : String} {seen : List String},
    Passed d name n seen → d.chain name n = some current →
      d.tables.schemas.length < n + bound →
      ∃ m ≤ d.tables.schemas.length, d.EndsAt name m (follow d current seen bound) := by
  induction bound with
  | zero =>
      intro n current seen passed _ enough
      have few := passed.le_length
      omega
  | succ bound ih =>
      intro n current seen passed here enough
      unfold follow
      split
      · rename_i isSeen
        have before := (passed.mem_iff current).1 (List.contains_iff_mem.1 isSeen)
        exact ⟨n, passed.le_length, .repeated ⟨here, before, passed.apart⟩⟩
      · rename_i unseen
        have new : current ∉ seen := fun member => unseen (List.contains_iff_mem.2 member)
        split
        · rename_i stands
          exact ⟨n, passed.le_length, .settled here (.absent stands)⟩
        · rename_i schema stands
          exact ⟨n, passed.le_length, .settled here (.schema stands)⟩
        · rename_i path stands
          have known : current ∈ d.componentNames := List.mem_map.2 ⟨_, mem_of_lookup stands, rfl⟩
          have passed' := passed.cons here new known
          cases named : targetName "schemas" path with
          | error e =>
              have misformed := targetName_eq_error_iff.1 named
              exact ⟨n, passed.le_length, .settled here (.misformed stands misformed)⟩
          | ok next =>
              have goesOn : d.chain name (n + 1) = some next := by
                rw [Document.chain_succ here, Document.alias?_eq_some_iff, stands,
                  (targetName_eq_ok_iff (by decide)).1 named, schemaReference_eq]
              exact ih passed' goesOn (by omega)

/-- Looking up a component schema ends where its chain does, within as many steps as there are
components, and one more. -/
theorem component_endsAt (d : Document) (name : String) :
    ∃ n ≤ d.tables.schemas.length, d.EndsAt name n (component d name) :=
  follow_endsAt _ (Passed.nil d name) rfl (by omega)

/-- More steps than that change nothing. -/
theorem follow_eq_component {bound : Nat} (enough : d.tables.schemas.length < bound) :
    follow d name [] bound = component d name := by
  obtain ⟨n, -, ends⟩ := follow_endsAt bound (Passed.nil d name) rfl (by omega)
  obtain ⟨m, -, ends'⟩ := component_endsAt d name
  exact (ends.unique ends').2

theorem component_eq_iff {result : Except LookupError Schema} :
    component d name = result ↔ ∃ n, d.EndsAt name n result := by
  obtain ⟨m, -, ends⟩ := component_endsAt d name
  constructor
  · rintro rfl
    exact ⟨m, ends⟩
  · rintro ⟨n, ends'⟩
    exact (ends.unique ends').2

/-! ## What a look-up says of a chain -/

theorem component_eq_ok_iff {schema : Schema} : component d name = .ok schema ↔
    ∃ n last, d.chain name n = some last ∧ d.schema? last = some (.item schema) := by
  rw [component_eq_iff]
  constructor
  · rintro ⟨n, _ | _⟩
    rename_i last here settles
    cases settles with
    | schema stands => exact ⟨n, last, here, stands⟩
  · rintro ⟨n, last, here, stands⟩
    exact ⟨n, .settled here (.schema stands)⟩

theorem component_eq_notFound_iff {path : String} : component d name = .error (.notFound path) ↔
    ∃ n last, d.chain name n = some last ∧ d.schema? last = none ∧ path = schemaReference last := by
  rw [component_eq_iff]
  constructor
  · rintro ⟨n, _ | _⟩
    rename_i last here settles
    cases settles with
    | absent stands => exact ⟨n, last, here, stands, rfl⟩
    | misformed _ misformed => cases misformed
  · rintro ⟨n, last, here, stands, rfl⟩
    exact ⟨n, .settled here (.absent stands)⟩

theorem exists_misformed_iff {path : String} :
    (∃ e, Misformed "schemas" path e) ↔ ∀ next, path ≠ schemaReference next := by
  cases named : targetName "schemas" path with
  | ok next =>
      refine iff_of_false ?_ fun other => other next ((targetName_eq_ok_iff (by decide)).1 named)
      rintro ⟨e, misformed⟩
      cases named.symm.trans (targetName_eq_error_iff.2 misformed)
  | error e =>
      refine iff_of_true ⟨e, targetName_eq_error_iff.1 named⟩ fun next same => ?_
      have means : targetName "schemas" path = .ok next :=
        (targetName_eq_ok_iff (by decide)).2 (same.trans (schemaReference_eq next))
      cases named.symm.trans means

theorem component_eq_misformed_iff {path : String} :
    (∃ e, component d name = .error e ∧ Misformed "schemas" path e) ↔
      ∃ n last, d.chain name n = some last ∧ d.schema? last = some (.ref path) ∧
        ∀ next, path ≠ schemaReference next := by
  simp only [component_eq_iff]
  constructor
  · rintro ⟨e, ⟨n, ⟨here, settles⟩ | _⟩, misformed⟩
    · cases settles with
      | absent => cases misformed
      | misformed stands misformed' =>
          obtain rfl := misformed.path_eq misformed'
          exact ⟨n, _, here, stands, exists_misformed_iff.1 ⟨e, misformed⟩⟩
    · cases misformed
  · rintro ⟨n, last, here, stands, other⟩
    obtain ⟨e, misformed⟩ := exists_misformed_iff.2 other
    exact ⟨e, ⟨n, .settled here (.misformed stands misformed)⟩, misformed⟩

theorem component_eq_circular_iff {again : String} :
    component d name = .error (.circular again) ↔ ∃ n, d.RepeatsAt name n again := by
  rw [component_eq_iff]
  constructor
  · rintro ⟨n, ⟨here, settles⟩ | repeats⟩
    · cases settles with
      | misformed _ misformed => cases misformed
    · exact ⟨n, repeats⟩
  · rintro ⟨n, repeats⟩
    exact ⟨n, .repeated repeats⟩

/-! ## Looking up by reference and by name -/

theorem found_eq (result : Except LookupError Schema) (name : String) :
    (do pure (⟨some name, ← result⟩ : Found)) = result.map fun schema => ⟨some name, schema⟩ := by
  cases result <;> rfl

theorem schema_reference (d : Document) (name : String) :
    schema d (.ref (schemaReference name)) =
      (component d name).map fun schema => ⟨some name, schema⟩ := by
  have named : targetName "schemas" (schemaReference name) = .ok name :=
    (targetName_eq_ok_iff (by decide)).2 rfl
  rw [schema, named]
  exact found_eq _ name

theorem schemaByName_eq (d : Document) (reference : String) : schemaByName d reference =
    (component d (schemaName reference)).map fun schema => ⟨some (schemaName reference), schema⟩ :=
  found_eq _ (schemaName reference)

theorem schemaName_reference (name : String) : schemaName (schemaReference name) = name := by
  have chars : (schemaReference name).toList = schemasStart.toList ++ name.toList :=
    String.toList_append
  rw [schemaName, Text.stripStart?_eq_some_iff.2 chars]
  exact String.ofList_toList

theorem schemaName_of_bare {name : String} (bare : ¬ schemasStart.toList <+: name.toList) :
    schemaName name = name := by
  unfold schemaName
  split
  · rename_i rest stripped
    exact absurd ⟨rest, (Text.stripStart?_eq_some_iff.1 stripped).symm⟩ bare
  · rfl

/-- Following the references that start at a name comes to an end within as many steps as there are
component schemas, and one more, and says what the chain of the name is like: whether it reaches a
schema, a name without component, or a reference in another form, or a name comes round again, and
which one is the first. A reference to the name leads there, and so does the name itself, unless it
starts like a reference. -/
theorem component_exact (d : Document) (name : String) :
    (∃ n ≤ d.tables.schemas.length, d.EndsAt name n (component d name)) ∧
      (∀ bound, d.tables.schemas.length < bound → follow d name [] bound = component d name) ∧
      (∀ schema, component d name = .ok schema ↔
        ∃ n last, d.chain name n = some last ∧ d.schema? last = some (.item schema)) ∧
      (∀ path, component d name = .error (.notFound path) ↔
        ∃ n last, d.chain name n = some last ∧ d.schema? last = none ∧
          path = schemaReference last) ∧
      (∀ path, (∃ e, component d name = .error e ∧ Misformed "schemas" path e) ↔
        ∃ n last, d.chain name n = some last ∧ d.schema? last = some (.ref path) ∧
          ∀ next, path ≠ schemaReference next) ∧
      (∀ again, component d name = .error (.circular again) ↔ ∃ n, d.RepeatsAt name n again) ∧
      (let answer := (component d name).map fun schema => (⟨some name, schema⟩ : Found)
      schema d (.ref (schemaReference name)) = answer ∧
        schemaByName d (schemaReference name) = answer ∧
        (¬ schemasStart.toList <+: name.toList → schemaByName d name = answer)) := by
  refine ⟨component_endsAt d name, fun _ => follow_eq_component, fun _ => component_eq_ok_iff,
    fun _ => component_eq_notFound_iff, fun _ => component_eq_misformed_iff,
    fun _ => component_eq_circular_iff, schema_reference d name, ?_, fun bare => ?_⟩
  · rw [schemaByName_eq, schemaName_reference]
  · rw [schemaByName_eq, schemaName_of_bare bare]

/-- Animals and beasts refer to each other, and the animal comes round again first. -/
theorem animal_circular :
    let d := Document.having
      [("Pet", .to "Animal"), ("Animal", .to "Beast"), ("Beast", .to "Animal")] []
    d.RepeatsAt "Pet" 3 "Animal" ∧ ¬ schemasStart.toList <+: "Pet".toList ∧
      schemaByName d "Pet" = .error (.circular "Animal") := by
  intro d
  have repeats : d.RepeatsAt "Pet" 3 "Animal" :=
    ⟨by decide +kernel, ⟨1, by decide, by decide +kernel⟩, by decide +kernel⟩
  have bare : ¬ schemasStart.toList <+: "Pet".toList := by decide
  obtain ⟨-, -, -, -, -, circular, -, -, byName⟩ := component_exact d "Pet"
  refine ⟨repeats, bare, ?_⟩
  rw [byName bare, (circular "Animal").2 ⟨3, repeats⟩]
  rfl

/-- A component whose name starts like a reference is not found under its name. -/
theorem referenceLikeName_misread :
    let d := Document.having [("#/components/schemas/Pet", .item (.object [] []))] []
    component d "#/components/schemas/Pet" = .ok (.object [] []) ∧
      schemaByName d "#/components/schemas/Pet" =
        .error (.notFound "#/components/schemas/Pet") := by
  exact ⟨rfl, rfl⟩

end Lookup

end ResourceInference
