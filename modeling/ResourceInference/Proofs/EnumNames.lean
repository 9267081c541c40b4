import ResourceInference.Proofs.SessionSteps
import ResourceInference.Proofs.Titles

/-!
# Names of enums grow

From try to try the name of an enum grows, by `Enum` behind it or by the resource in front, and with
it the type name that is made of it: Pascal-casing keeps all ASCII letters and digits
(`Naming.length_pascalCase`). There is one exception. A name wholly in upper case is put in lower
case first, and there a capital from beyond ASCII may become an ASCII letter; as soon as the name is
no longer in upper case, such letters are dropped again. This happens once at most. So a search
passes a registered type twice at most, once in upper case and once after, and from one name to the
next there are fewer names left that it can pass (`EnumSearch.namesLeft_lt`).
-/

set_option autoImplicit false

namespace ResourceInference

/-! ## What Pascal-casing keeps -/

namespace Naming

theorem length_joinWords (start : Bool) (cs : List Char) :
    (joinWords start cs).length = cs.countP Char.isAlphanum := by
  induction cs generalizing start with
  | nil => rfl
  | cons c rest ih =>
      have kept : (if c.isUpper || c.isDigit then [c]
          else if c.isLower then [if start then c.toUpper else c] else []).length =
            if c.isAlphanum then 1 else 0 := by
        cases upper : c.isUpper <;> cases digit : c.isDigit <;> cases lower : c.isLower <;>
          simp [isAlphanum_eq, upper, digit, lower]
      simp only [joinWords, List.length_append, kept, ih, List.countP_cons]
      omega

theorem countP_dropWhile {p q : Char → Bool} (apart : ∀ c, p c = true → q c = false)
    (cs : List Char) : (cs.dropWhile p).countP q = cs.countP q := by
  induction cs with
  | nil => rfl
  | cons c rest ih =>
      cases dropped : p c with
      | true => simp [List.dropWhile, dropped, ih, apart c dropped]
      | false => simp [List.dropWhile, dropped]

/-- The type name of a name has a character for every ASCII letter and digit. -/
theorem length_pascalCase (name : String) :
    (pascalCase name).length = (relaxCase name).toList.countP Char.isAlphanum := by
  have noSpace : ∀ c : Char, (c == ' ') = true → c.isAlphanum = false := by
    intro c space
    rw [beq_iff_eq.1 space]
    decide
  simp only [pascalCase, String.length_ofList, camelCase, length_joinWords, Text.trimBoth,
    List.countP_reverse, countP_dropWhile noSpace]

end Naming

/-! ## Upper and lower case -/

namespace Text

theorem toList_upper_append (s t : String) :
    (upper (s ++ t)).toList = (upper s).toList ++ (upper t).toList := by
  simp [upper, String.toList_append]

/-- How many ASCII letters and digits some characters have in lower case. -/
def loweredCount (cs : List Char) : Nat := (cs.flatMap lowerOf).countP Char.isAlphanum

theorem loweredCount_append (cs ds : List Char) :
    loweredCount (cs ++ ds) = loweredCount cs + loweredCount ds := by
  simp only [loweredCount, List.flatMap_append, List.countP_append]

theorem countP_lowerAfter (before cs : List Char) :
    (lowerAfter before cs).countP Char.isAlphanum = loweredCount cs := by
  induction cs generalizing before with
  | nil => rfl
  | cons c rest ih =>
      rw [lowerAfter, List.countP_append, ih, loweredCount, loweredCount, List.flatMap_cons,
        List.countP_append]
      congr 1
      split
      · rename_i sigma
        subst sigma
        split <;> decide
      · rfl

theorem isAscii_of_isAlphanum {c : Char} (h : c.isAlphanum = true) : isAscii c = true := by
  have bound : c.toNat < 128 := by
    simp only [Naming.isAlphanum_eq, Bool.or_eq_true] at h
    rcases h with (upper | lower) | digit
    · have bounds := (Naming.isUpper_iff c).1 upper
      omega
    · have bounds := (Naming.isLower_iff c).1 lower
      omega
    · have bounds := (Naming.isDigit_iff c).1 digit
      omega
  exact decide_eq_true bound

theorem isAlphanum_toLower {c : Char} (h : c.isAlphanum = true) : c.toLower.isAlphanum = true := by
  cases capital : c.isUpper with
  | false =>
      have same : c.toLower = c := by
        have noCapital : ¬ ('A'.val ≤ c.val ∧ c.val ≤ 'Z'.val) := of_decide_eq_false capital
        exact dif_neg noCapital
      rwa [same]
  | true =>
      have bounds := (Naming.isUpper_iff c).1 capital
      have letters : ∀ i : Fin 26, (Char.ofNat (65 + i)).toLower.isAlphanum = true := by decide
      have letter : c = Char.ofNat (65 + (c.toNat - 65)) := by
        rw [Nat.add_sub_cancel' bounds.1, Char.ofNat_toNat]
      rw [letter]
      exact letters ⟨c.toNat - 65, by omega⟩

theorem loweredCount_of_isPlain {s : String} (plain : IsPlain s) :
    loweredCount s.toList = s.toList.length := by
  unfold IsPlain at plain
  generalize s.toList = cs at plain
  induction cs with
  | nil => rfl
  | cons c rest ih =>
      have letter := plain c List.mem_cons_self
      have here : lowerOf c = [c.toLower] := by simp [lowerOf, isAscii_of_isAlphanum letter]
      have tail := ih fun c member => plain c (List.mem_cons_of_mem _ member)
      rw [loweredCount] at tail ⊢
      rw [List.flatMap_cons, here, List.singleton_append,
        List.countP_cons_of_pos (isAlphanum_toLower letter), tail, List.length_cons]

/-- A plain text keeps its length in upper case. -/
theorem length_upper_of_isPlain {s : String} (plain : IsPlain s) :
    (upper s).toList.length = s.toList.length := by
  rw [upper, String.toList_ofList]
  unfold IsPlain at plain
  generalize s.toList = cs at plain
  induction cs with
  | nil => rfl
  | cons c rest ih =>
      have ascii := isAscii_of_isAlphanum (plain c List.mem_cons_self)
      have tail := ih fun c member => plain c (List.mem_cons_of_mem _ member)
      simp [upperOf, ascii, tail]

end Text

namespace Naming

/-- A name in upper case is put in lower case before anything else. -/
def IsUpperCase (name : String) : Prop := name = Text.upper name

instance (name : String) : Decidable (IsUpperCase name) := inferInstanceAs (Decidable (_ = _))

theorem length_pascalCase_of_isUpperCase {name : String} (upper : IsUpperCase name) :
    (pascalCase name).length = Text.loweredCount name.toList := by
  rw [length_pascalCase, relaxCase, if_pos (show name = Text.upper name from upper), Text.lower,
    String.toList_ofList, Text.countP_lowerAfter]

theorem length_pascalCase_of_not_isUpperCase {name : String} (mixed : ¬ IsUpperCase name) :
    (pascalCase name).length = name.toList.countP Char.isAlphanum := by
  rw [length_pascalCase, relaxCase, if_neg (show ¬ name = Text.upper name from mixed)]

/-! ## Names grow -/

/-- No name that ends with `Enum` is in upper case. -/
theorem not_isUpperCase_append_enum (name : String) : ¬ IsUpperCase (name ++ "Enum") := by
  intro upper
  have lists : name.toList ++ "Enum".toList =
      (Text.upper name).toList ++ (Text.upper "Enum").toList := by
    rw [← String.toList_append, ← Text.toList_upper_append]
    exact congrArg String.toList upper
  have ends := (List.append_inj' lists (by decide)).2
  exact absurd ends (by decide)

/-- With a plain text in front, a name that was not in upper case is not so either. -/
theorem IsUpperCase.of_append {start name : String} (plain : IsPlain start)
    (upper : IsUpperCase (start ++ name)) : IsUpperCase name := by
  have lists : start.toList ++ name.toList =
      (Text.upper start).toList ++ (Text.upper name).toList := by
    rw [← String.toList_append, ← Text.toList_upper_append]
    exact congrArg String.toList upper
  have ends := (List.append_inj lists (Text.length_upper_of_isPlain plain).symm).2
  exact String.toList_inj.1 ends

theorem length_pascalCase_append_enum {name : String} (mixed : ¬ IsUpperCase name) :
    (pascalCase name).length < (pascalCase (name ++ "Enum")).length := by
  have four : "Enum".toList.countP Char.isAlphanum = 4 := by decide
  rw [length_pascalCase_of_not_isUpperCase mixed,
    length_pascalCase_of_not_isUpperCase (not_isUpperCase_append_enum name),
    String.toList_append, List.countP_append]
  omega

theorem length_pascalCase_append {start name : String} (plain : IsPlain start)
    (nonempty : start ≠ "") (alike : IsUpperCase (start ++ name) ↔ IsUpperCase name) :
    (pascalCase name).length < (pascalCase (start ++ name)).length := by
  have positive : 0 < start.toList.length := by
    rw [List.length_pos_iff]
    exact fun h => nonempty (String.toList_eq_nil_iff.1 h)
  by_cases upper : IsUpperCase name
  · rw [length_pascalCase_of_isUpperCase upper, length_pascalCase_of_isUpperCase (alike.2 upper),
      String.toList_append, Text.loweredCount_append, Text.loweredCount_of_isPlain plain]
    omega
  · have counted : start.toList.countP Char.isAlphanum = start.toList.length :=
      List.countP_eq_length.2 plain
    rw [length_pascalCase_of_not_isUpperCase upper,
      length_pascalCase_of_not_isUpperCase fun h => upper (alike.1 h),
      String.toList_append, List.countP_append, counted]
    omega

end Naming

/-! ## The search -/

namespace Session

/-- How many registered types have a token at least as long as this one. -/
def longerTypes (s : Session) (token : String) : Nat :=
  s.package.types.toList.countP fun entry => decide (token.length ≤ entry.1.length)

theorem longerTypes_le (s : Session) (token : String) :
    s.longerTypes token ≤ s.package.types.toList.length := List.countP_le_length

theorem countP_lt_countP {α : Type} {p q : α → Bool} {items : List α}
    (stronger : ∀ a, p a = true → q a = true) {a : α} (member : a ∈ items) (holds : q a = true)
    (fails : p a = false) : items.countP p < items.countP q := by
  induction items with
  | nil => cases member
  | cons first rest ih =>
      have tail : rest.countP p ≤ rest.countP q := List.countP_mono_left fun a _ => stronger a
      rw [List.countP_cons, List.countP_cons]
      rcases List.mem_cons.1 member with rfl | member
      · simp only [holds, fails, if_true]
        simpa using Nat.lt_succ_of_le tail
      · have later := ih member
        by_cases here : p first = true
        · rw [if_pos here, if_pos (stronger first here)]
          omega
        · rw [if_neg here]
          omega

/-- Beyond a registered token there are fewer types. -/
theorem longerTypes_lt {s : Session} {token other : String} {type : NamedType}
    (registered : s.package.types.get? token = some type) (longer : token.length < other.length) :
    s.longerTypes other < s.longerTypes token := by
  refine countP_lt_countP (fun entry later => ?_)
    ((SortedMap.mem_toList_iff ..).2 registered) ?_ ?_
  · exact decide_eq_true (Nat.le_of_lt (Nat.lt_of_lt_of_le longer (of_decide_eq_true later)))
  · exact decide_eq_true (Nat.le_refl _)
  · exact decide_eq_false (Nat.not_le_of_lt longer)

end Session

theorem InferenceTask.length_token_lt (task : InferenceTask) (module : String)
    {name other : String} (longer : name.length < other.length) :
    (task.token module name).length < (task.token module other).length := by
  simp only [InferenceTask.token, typeToken, String.length_append]
  omega

namespace EnumSearch

variable (task : InferenceTask) (scope : Scope) (s : Session)

/-- How many names the search may still have to pass: as many as there are types with a longer
token, and in upper case once more as many as there are types. -/
def namesLeft (name : String) : Nat :=
  s.longerTypes (task.token scope.module (Naming.pascalCase name)) +
    if Naming.IsUpperCase name then s.package.types.toList.length else 0

variable {task scope s}

/-- From a name whose token is taken, fewer names are left after the next step. -/
theorem namesLeft_lt {name next : String} {type : NamedType}
    (taken : s.package.types.get? (task.token scope.module (Naming.pascalCase name)) = some type)
    (staysMixed : Naming.IsUpperCase next → Naming.IsUpperCase name)
    (grows : (Naming.IsUpperCase next ↔ Naming.IsUpperCase name) →
      (Naming.pascalCase name).length < (Naming.pascalCase next).length) :
    namesLeft task scope s next < namesLeft task scope s name := by
  unfold namesLeft
  by_cases alike : Naming.IsUpperCase next ↔ Naming.IsUpperCase name
  · have fewer := Session.longerTypes_lt taken (task.length_token_lt scope.module (grows alike))
    simp only [alike]
    omega
  · -- the name has just left upper case: one round over all types is over
    have mixed : ¬ Naming.IsUpperCase next := fun h => alike ⟨staysMixed, fun _ => h⟩
    have upper : Naming.IsUpperCase name := Decidable.byContradiction fun h =>
      alike ⟨fun h' => absurd h' mixed, fun h' => absurd h' h⟩
    have fewer := s.longerTypes_le (task.token scope.module (Naming.pascalCase next))
    have here : 0 < s.longerTypes (task.token scope.module (Naming.pascalCase name)) :=
      List.countP_pos_iff.2 ⟨_, (SortedMap.mem_toList_iff ..).2 taken,
        decide_eq_true (Nat.le_refl _)⟩
    rw [if_neg mixed, if_pos upper]
    omega

theorem namesLeft_lt_bound (name : String) :
    namesLeft task scope s name < 2 * s.package.types.toList.length + 2 := by
  have longer := s.longerTypes_le (task.token scope.module (Naming.pascalCase name))
  unfold namesLeft
  split <;> omega

end EnumSearch

end ResourceInference
