import Mathlib.Data.List.Perm.Subperm
import ResourceInference.Proofs.Runs
import ResourceInference.Proofs.Titles

/-!
# Enums that are found again

A schema gets the enum that is registered under its name already, if both have the same member
names. Two enums have them if they have equally many members and every name of the new one is among
those of the registered one, so the names must be the same if the new enum has none of them twice;
and an enum of texts never has, since of all values with one Pascal-case name only the first is
kept, and no such name ends with `_`, which is put behind the name of the enum itself
(`EnumSearch.nodup_names_of_string`).

Nothing else is compared: not what the values are on the wire, and not whether they are texts or
numbers (`sameNames_conflated`).
-/

set_option autoImplicit false

namespace ResourceInference

/-- If an enum has no member name twice, an enum that has its member names has no others. -/
theorem EnumType.perm_of_sameMembers {existing candidate : EnumType}
    (same : existing.sameMembers candidate = true) (distinct : candidate.names.Nodup) :
    existing.names.Perm candidate.names := by
  simp only [sameMembers, Bool.and_eq_true, beq_iff_eq, List.all_eq_true,
    List.contains_iff_mem] at same
  obtain ⟨sameLength, included⟩ := same
  have atMost : existing.names.length ≤ candidate.names.length := by simp [names, sameLength]
  exact ((List.subperm_of_subset distinct included).perm_of_length_le atMost).symm

namespace EnumSearch

/-! ## Names of members -/

section

variable {enumName name other : String}

/-- Names of ASCII letters and digits are kept apart. -/
theorem memberName_injective (plain : IsPlain name) (plain' : IsPlain other)
    (same : memberName enumName name = memberName enumName other) : name = other := by
  have plainEnd : ∀ {text : String}, IsPlain text → ∀ start : String, start ++ "_" ≠ text := by
    rintro _ plain start rfl
    exact absurd (plain '_' (by simp)) (by decide)
  unfold memberName at same
  split at same <;> split at same
  · rename_i isEnum isEnum'
    exact isEnum.trans isEnum'.symm
  · exact absurd same (plainEnd plain' name)
  · exact absurd same.symm (plainEnd plain other)
  · exact same

theorem isPlain_of_literal? {value : Value}
    (named : (literal? value).map Naming.pascalCase = some name) : IsPlain name := by
  obtain ⟨raw, -, rfl⟩ := Option.map_eq_some_iff.1 named
  exact Naming.isPlain_pascalCase raw

/-- The Pascal-case name of a value; null has none. -/
def generatedName? (value : Value) : Option String := (literal? value).map Naming.pascalCase

/-- A value is left out if its name has been seen, or it has none, and otherwise it is the next
member. -/
theorem stringMembersFrom_step (enumName : String) (seen : List String) (value : Value)
    (rest : List Value) :
    ((∀ name, generatedName? value = some name → name ∈ seen) ∧
      stringMembersFrom enumName seen (value :: rest) = stringMembersFrom enumName seen rest) ∨
    ∃ name, generatedName? value = some name ∧ name ∉ seen ∧
      stringMembersFrom enumName seen (value :: rest) =
        ⟨memberName enumName name, value⟩ :: stringMembersFrom enumName (name :: seen) rest := by
  rw [stringMembersFrom, generatedName?]
  cases (literal? value).map Naming.pascalCase with
  | none =>
      refine .inl ⟨?_, rfl⟩
      rintro _ ⟨⟩
  | some name =>
      dsimp only
      by_cases before : name ∈ seen
      · rw [if_pos (List.contains_iff_mem.2 before)]
        refine .inl ⟨?_, rfl⟩
        rintro _ ⟨⟩
        exact before
      · rw [if_neg fun contains => before (List.contains_iff_mem.1 contains)]
        exact .inr ⟨name, rfl, before, rfl⟩

/-- The members of an enum of texts are named after names of ASCII letters and digits that have not
been seen. -/
theorem name_of_mem_stringMembersFrom {seen : List String} {values : List Value} {m : EnumMember}
    (member : m ∈ stringMembersFrom enumName seen values) :
    ∃ name, IsPlain name ∧ name ∉ seen ∧ m.name = memberName enumName name := by
  induction values generalizing seen with
  | nil => cases member
  | cons value rest ih =>
      obtain ⟨-, same⟩ | ⟨name, named, fresh, same⟩ :=
        stringMembersFrom_step enumName seen value rest
      · rw [same] at member
        exact ih member
      · rw [same, List.mem_cons] at member
        rcases member with isFirst | later
        · exact ⟨name, isPlain_of_literal? named, fresh, by rw [isFirst]⟩
        · obtain ⟨other, plain, unseen, isName⟩ := ih later
          exact ⟨other, plain, fun before => unseen (List.mem_cons_of_mem _ before), isName⟩

theorem nodup_names_stringMembersFrom (values : List Value) :
    ∀ seen, ((stringMembersFrom enumName seen values).map (·.name)).Nodup := by
  induction values with
  | nil => simp [stringMembersFrom]
  | cons value rest ih =>
      intro seen
      obtain ⟨-, same⟩ | ⟨name, named, -, same⟩ := stringMembersFrom_step enumName seen value rest
      · rw [same]
        exact ih seen
      · rw [same]
        refine List.nodup_cons.2 ⟨fun again => ?_, ih _⟩
        obtain ⟨m, later, isLater⟩ := List.mem_map.1 again
        obtain ⟨other, plain, unseen, isName⟩ := name_of_mem_stringMembersFrom later
        have equal := memberName_injective plain (isPlain_of_literal? named)
          (isName.symm.trans isLater)
        exact unseen (equal ▸ List.mem_cons_self)

/-- An enum of texts has no member name twice. -/
theorem nodup_names_of_string {schema : Schema} {candidate : EnumType}
    (made : ofSchema? enumName schema = some candidate) (texts : candidate.base = .string) :
    candidate.names.Nodup := by
  unfold ofSchema? at made
  split at made
  · cases made
    exact nodup_names_stringMembersFrom _ _
  · cases made
    cases texts
  · cases made

end

/-! ## The search -/

/-- Under a type name that the search for the enum of a schema tries, an enum is registered that has
the member names of the one that the schema makes of this type name. -/
def Reuses (task : InferenceTask) (scope : Scope) (schema : Schema) (s : Session)
    (name token : String) : Prop :=
  ∃ tried existing candidate, Tries scope.resource name tried ∧
    token = task.token scope.module (Naming.pascalCase tried) ∧
    s.package.types.get? token = some (.enum existing) ∧
    ofSchema? (Naming.pascalCase tried) schema = some candidate ∧
    existing.sameMembers candidate = true

variable {task : InferenceTask} {scope : Scope} {schema : Schema} {s : Session}

theorem Reuses.suffixed {name token : String}
    (h : Reuses task scope schema s (name ++ "Enum") token) :
    Reuses task scope schema s name token := by
  obtain ⟨tried, existing, candidate, tries, rest⟩ := h
  exact ⟨tried, existing, candidate, .suffixed tries, rest⟩

theorem Reuses.qualified {name token : String}
    (h : Reuses task scope schema s (scope.resource ++ name) token) :
    Reuses task scope schema s name token := by
  obtain ⟨tried, existing, candidate, tries, rest⟩ := h
  exact ⟨tried, existing, candidate, .qualified tries, rest⟩

/-- A search that finds its enum registered leaves the session alone. -/
theorem search_reuses (bound : Nat) :
    ∀ name, Infer.Ends (search task scope schema name bound) s
      (fun found s' => ∀ token, found = some ⟨.named token, false⟩ →
        s' = s ∧ Reuses task scope schema s name token) fun _ _ => True := by
  induction bound with
  | zero => exact fun _ => trivial
  | succ bound ih =>
      intro name
      unfold search
      dsimp only
      split
      · rintro token found
        cases found
      · rename_i candidate made
        simp only [Infer.ends_bind, Infer.ends_type?]
        cases registered :
            s.package.types.get? (task.token scope.module (Naming.pascalCase name)) with
        | none =>
            simp only [Infer.ends_bind, Infer.ends_register registered]
            rintro token found
            cases found
        | some type =>
            cases type with
            | object _ =>
                refine (ih (name ++ "Enum")).imp fun found s' reuses token isFound => ?_
                obtain ⟨same, reused⟩ := reuses token isFound
                exact ⟨same, reused.suffixed⟩
            | enum existing =>
                dsimp only
                split
                · rename_i same
                  rintro token found
                  cases found
                  exact ⟨rfl, name, existing, candidate, .here, rfl, registered, made, same⟩
                · split
                  · trivial
                  · refine (ih (scope.resource ++ name)).imp fun found s' reuses token isFound => ?_
                    obtain ⟨same, reused⟩ := reuses token isFound
                    exact ⟨same, reused.qualified⟩

end EnumSearch

/-- When a schema gets an enum that is registered already, nothing changes, and the enum is
registered under a type name that the search tries. If the enum that the schema makes of this type
name has no member name twice, which an enum of texts never has, the registered one has exactly its
member names. -/
theorem Infer.enumType_reuse {task : InferenceTask} {scope : Scope} {name token : String}
    {schema : Schema} {s s' : Session}
    (h : (enumType task scope name schema).run.run s = (.ok (some ⟨.named token, false⟩), s')) :
    s' = s ∧ ∃ tried existing candidate, EnumSearch.Tries scope.resource name tried ∧
      token = task.token scope.module (Naming.pascalCase tried) ∧
      s.package.types.get? token = some (.enum existing) ∧
      EnumSearch.ofSchema? (Naming.pascalCase tried) schema = some candidate ∧
      (candidate.base = .string → candidate.names.Nodup) ∧
      (candidate.names.Nodup → existing.names.Perm candidate.names) := by
  have found : Ends (enumType task scope name schema) s
      (fun found s' => ∀ token, found = some ⟨.named token, false⟩ →
        s' = s ∧ EnumSearch.Reuses task scope schema s name token) fun _ _ => True := by
    simp only [enumType, typeCount, ends_bind, ends_get]
    exact EnumSearch.search_reuses _ name
  obtain ⟨same, tried, existing, candidate, tries, isToken, registered, made, sameMembers⟩ :=
    found.of_run h token rfl
  exact ⟨same, tried, existing, candidate, tries, isToken, registered, made,
    EnumSearch.nodup_names_of_string made, EnumType.perm_of_sameMembers sameMembers⟩

/-! ## Enums of two schemas -/

/-- A schema of some values of one type. -/
def enumOf (type : SchemaType) (values : List Value) : Schema :=
  { type := some (.single type), enum := values }

/-- Look for the enum of a schema under a name. -/
def findEnum (name : String) (schema : Schema) : Infer (Option Resolved) :=
  Infer.enumType (Document.having [] []).task ⟨"m", "Res"⟩ name schema

/-- The session in which the enum of a schema is the first one that was looked for. -/
def afterEnum (name : String) (schema : Schema) : Session :=
  ((findEnum name schema).run.run .first).2

/-- After the first schema, the second one gets the enum that is registered under the token, though
it makes an enum of its own of the name. -/
structure GetsEnum (name token : String) (first second : Schema) (existing own : EnumType) :
    Prop where
  found : (findEnum name second).run.run (afterEnum name first) =
    (.ok (some ⟨.named token, false⟩), afterEnum name first)
  registered : (afterEnum name first).package.types.get? token = some (.enum existing)
  made : EnumSearch.ofSchema? name second = some own

/-- The same sizes in another order are the same enum. -/
theorem reordered_reused :
    let first := enumOf .string [.string "small", .string "big"]
    let second := enumOf .string [.string "big", .string "small"]
    (findEnum "Size" second).run.run (afterEnum "Size" first) =
        (.ok (some ⟨.named "pkg:m:Size", false⟩), afterEnum "Size" first) ∧
      ∃ tried existing candidate, EnumSearch.Tries "Res" "Size" tried ∧
        (afterEnum "Size" first).package.types.get? "pkg:m:Size" = some (.enum existing) ∧
        EnumSearch.ofSchema? (Naming.pascalCase tried) second = some candidate ∧
        existing.names.Perm candidate.names := by
  intro first second
  have found : (findEnum "Size" second).run.run (afterEnum "Size" first) =
      (.ok (some ⟨.named "pkg:m:Size", false⟩), afterEnum "Size" first) := rfl
  obtain ⟨-, tried, existing, candidate, tries, -, registered, made, distinct, sameNames⟩ :=
    Infer.enumType_reuse found
  refine ⟨found, tried, existing, candidate, tries, registered, made, sameNames (distinct ?_)⟩
  cases made
  rfl

/-- Two sizes that are written differently are taken for one, and so are a text and a number. -/
theorem sameNames_conflated :
    let small : EnumType := ⟨none, .string, [⟨"Small", .string "small"⟩]⟩
    let capital : EnumType := ⟨none, .string, [⟨"Small", .string "SMALL"⟩]⟩
    let text : EnumType := ⟨none, .string, [⟨"1", .string "1"⟩]⟩
    let number : EnumType := ⟨none, .integer, [⟨"1", .number (.integer 1)⟩]⟩
    GetsEnum "Size" "pkg:m:Size" (enumOf .string [.string "small"])
        (enumOf .string [.string "SMALL"]) small capital ∧
      (∃ m ∈ capital.members, m ∉ small.members) ∧
      GetsEnum "Level" "pkg:m:Level" (enumOf .string [.string "1"])
        (enumOf .integer [.number (.integer 1)]) text number ∧
      text.base ≠ number.base ∧ ∃ m ∈ number.members, m ∉ text.members := by
  intro small capital text number
  refine ⟨⟨rfl, rfl, rfl⟩, ⟨_, List.mem_cons_self, ?_⟩, ⟨rfl, rfl, rfl⟩, ?_, _,
    List.mem_cons_self, ?_⟩
  · simp [small]
  · simp [text, number]
  · simp [text]

end ResourceInference
