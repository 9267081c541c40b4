import ResourceInference.Inference.Extraction

/-!
# Titles are plain

The title of a resource is made by Pascal-casing, and so consists of ASCII letters and digits, also
after its last `s` has been cut off. The scopes that a run resolves schemas in are made from titles,
so that a name with the resource in front of it never loses the resource to Pascal-casing.
-/

set_option autoImplicit false

namespace ResourceInference

/-- A text of ASCII letters and digits. -/
def IsPlain (text : String) : Prop := ∀ c ∈ text.toList, c.isAlphanum = true

instance (text : String) : Decidable (IsPlain text) :=
  decidable_of_decidable_of_iff (p := text.toList.all Char.isAlphanum = true) List.all_eq_true

namespace Naming

theorem isAlphanum_eq (c : Char) : c.isAlphanum = ((c.isUpper || c.isLower) || c.isDigit) := rfl

theorem isUpper_iff (c : Char) : c.isUpper = true ↔ 65 ≤ c.toNat ∧ c.toNat ≤ 90 :=
  decide_eq_true_iff

theorem isLower_iff (c : Char) : c.isLower = true ↔ 97 ≤ c.toNat ∧ c.toNat ≤ 122 :=
  (Bool.and_eq_true_iff ..).trans (and_congr decide_eq_true_iff decide_eq_true_iff)

theorem isDigit_iff (c : Char) : c.isDigit = true ↔ 48 ≤ c.toNat ∧ c.toNat ≤ 57 :=
  (Bool.and_eq_true_iff ..).trans (and_congr decide_eq_true_iff decide_eq_true_iff)

theorem isAlphanum_toUpper {c : Char} (h : c.isLower = true) : c.toUpper.isAlphanum = true := by
  have bounds := (isLower_iff c).1 h
  have letters : ∀ i : Fin 26, (Char.ofNat (97 + i)).toUpper.isAlphanum = true := by decide
  have letter : c = Char.ofNat (97 + (c.toNat - 97)) := by
    rw [Nat.add_sub_cancel' bounds.1, Char.ofNat_toNat]
  rw [letter]
  exact letters ⟨c.toNat - 97, by omega⟩

/-- Only ASCII letters and digits are kept of a name. -/
theorem isAlphanum_of_mem_joinWords {c : Char} {start : Bool} {cs : List Char}
    (h : c ∈ joinWords start cs) : c.isAlphanum = true := by
  induction cs generalizing start with
  | nil => cases h
  | cons first rest ih =>
      simp only [joinWords, List.mem_append] at h
      rcases h with kept | later
      · split at kept
        · rename_i capital
          obtain rfl := List.mem_singleton.1 kept
          simp only [Bool.or_eq_true] at capital
          rcases capital with upper | digit
          · simp [isAlphanum_eq, upper]
          · simp [isAlphanum_eq, digit]
        · split at kept
          · rename_i small
            obtain rfl := List.mem_singleton.1 kept
            split
            · exact isAlphanum_toUpper small
            · simp [isAlphanum_eq, small]
          · cases kept
      · exact ih later

theorem isPlain_pascalCase (raw : String) : IsPlain (pascalCase raw) := by
  intro c member
  rw [pascalCase, String.toList_ofList] at member
  exact isAlphanum_of_mem_joinWords member

theorem isPlain_singular {name : String} (plain : IsPlain name) (plurals : List String) :
    IsPlain (singular name plurals) := by
  unfold singular
  split
  · exact plain
  · split
    · rename_i rest reversed
      intro c member
      rw [String.toList_ofList, List.mem_reverse] at member
      have inName : c ∈ name.toList.reverse := reversed ▸ List.mem_cons_of_mem _ member
      exact plain c (List.mem_reverse.1 inName)
    · exact plain

theorem isPlain_schemaTitle (componentName : String) (title : Option String) :
    IsPlain (schemaTitle componentName title) := by
  unfold schemaTitle
  split
  · split <;> exact isPlain_pascalCase _
  · exact isPlain_pascalCase _

end Naming

theorem Infer.isPlain_operationTitle (task : InferenceTask) (id : String) (method : Method) :
    IsPlain (Infer.operationTitle task id method) := Naming.isPlain_pascalCase _

theorem Infer.isPlain_singularTitle (task : InferenceTask) (id : String) (method : Method) :
    IsPlain (Infer.singularTitle task id method) :=
  Naming.isPlain_singular (isPlain_operationTitle task id method) _

end ResourceInference
