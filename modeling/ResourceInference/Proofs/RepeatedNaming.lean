import Mathlib
import ResourceInference.Proofs.EnumNames

/-!
# Names of names

Naming a name again should not change it. But a name without small letters is put in lower case
before anything else, also if it is itself the outcome of naming, whose capitals stand for the words
it was joined from: `a_b` gives the type name `AB`, which gives `Ab`, and `1_a` gives the property
name `_1A`, which gives `_1a`. So naming is idempotent except where all letters of the name are
capitals (`Naming.AllCapitals`), the first letter of a type name apart. A type name may also begin
with a small letter, if a character in front of it was dropped, and then it gets its capital only
when it is named again. In any case a name settles (`Naming.repeated_naming`): what has been put in
lower case once has no more capitals, but for a first one that stays, and what has small letters is
not put in lower case.
-/

set_option autoImplicit false

namespace ResourceInference.Naming

variable {cs name : List Char} {s : String} {c : Char} {start : Bool}

/-! ## Relaxed case -/

/-- All letters are capitals, and there are letters. -/
def AllCapitals (cs : List Char) : Prop :=
  (∃ c ∈ cs, c.isUpper = true) ∧ ∀ c ∈ cs, c.isLower = false

/-- A text in lower case, if it has no small letters. -/
def relaxed (cs : List Char) : List Char :=
  if cs.any Char.isLower then cs else cs.map Char.toLower

theorem relaxed_of_noSmall (noSmall : ∀ c ∈ cs, c.isLower = false) :
    relaxed cs = cs.map Char.toLower := if_neg (by simpa using noSmall)

theorem relaxed_of_small (small : ¬ ∀ c ∈ cs, c.isLower = false) : relaxed cs = cs :=
  if_pos (by simpa using small)

theorem toLower_eq_self_iff : c.toLower = c ↔ c.isUpper = false := by
  constructor
  · intro same
    rw [← same, Char.isUpper_toLower_eq_false]
  · exact fun small => Char.toLower_eq_of_not_isUpper (by simp [small])

theorem toUpper_eq_self_iff : c.toUpper = c ↔ c.isLower = false := by
  constructor
  · intro same
    rw [← same, Char.isLower_toUpper_eq_false]
  · exact fun capital => Char.toUpper_eq_of_not_isLower (by simp [capital])

theorem isDigit_noLetter (digit : c.isDigit = true) : c.isUpper = false ∧ c.isLower = false := by
  have bounds := (isDigit_iff c).1 digit
  rw [Bool.eq_false_iff, Bool.eq_false_iff, Ne, Ne, isUpper_iff, isLower_iff]
  omega

theorem map_eq_self_iff {f : Char → Char} : cs.map f = cs ↔ ∀ c ∈ cs, f c = c := by
  conv_lhs => rw [← List.map_id cs, List.map_map]
  exact List.map_inj_left

theorem relaxed_eq_self_iff : relaxed cs = cs ↔ ¬ AllCapitals cs := by
  by_cases noSmall : ∀ c ∈ cs, c.isLower = false
  · rw [relaxed_of_noSmall noSmall, map_eq_self_iff, AllCapitals, and_iff_left noSmall]
    simp only [toLower_eq_self_iff, not_exists, not_and, Bool.not_eq_true]
  · exact iff_of_true (relaxed_of_small noSmall) fun capitals => noSmall capitals.2

theorem not_allCapitals_map_toLower : ¬ AllCapitals (cs.map Char.toLower) := by
  simp [AllCapitals]

theorem not_allCapitals_relaxed : ¬ AllCapitals (relaxed cs) := by
  by_cases noSmall : ∀ c ∈ cs, c.isLower = false
  · rw [relaxed_of_noSmall noSmall]
    exact not_allCapitals_map_toLower
  · rw [relaxed_of_small noSmall]
    exact fun capitals => noSmall capitals.2

theorem length_relaxed : (relaxed cs).length = cs.length := by
  unfold relaxed
  split <;> simp

theorem relaxed_plain (plain : ∀ c ∈ cs, c.isAlphanum = true) :
    ∀ c ∈ relaxed cs, c.isAlphanum = true := by
  unfold relaxed
  split
  · exact plain
  · exact List.forall_mem_map.2 fun c member => Text.isAlphanum_toLower (plain c member)

theorem lowerAfter_of_ascii (ascii : ∀ c ∈ cs, Text.isAscii c = true) (before : List Char) :
    Text.lowerAfter before cs = cs.map Char.toLower := by
  induction cs generalizing before with
  | nil => rfl
  | cons c rest ih =>
      obtain ⟨first, later⟩ := List.forall_mem_cons.1 ascii
      have noSigma : c ≠ 'Σ' := by
        rintro rfl
        exact absurd first (by decide)
      simp [Text.lowerAfter, noSigma, Text.lowerOf, first, ih later]

/-- A text of ASCII is in upper case exactly if it has no small letters. -/
theorem isUpperCase_iff (ascii : ∀ c ∈ s.toList, Text.isAscii c = true) :
    IsUpperCase s ↔ ∀ c ∈ s.toList, c.isLower = false := by
  have uppers : s.toList.flatMap Text.upperOf = s.toList.map Char.toUpper := by
    rw [List.map_eq_flatMap]
    exact List.flatMap_congr fun c member => if_pos (ascii c member)
  rw [IsUpperCase, ← String.toList_inj, Text.upper, String.toList_ofList, uppers, eq_comm,
    map_eq_self_iff]
  simp only [toUpper_eq_self_iff]

theorem toList_relaxCase (ascii : ∀ c ∈ s.toList, Text.isAscii c = true) :
    (relaxCase s).toList = relaxed s.toList := by
  by_cases noSmall : ∀ c ∈ s.toList, c.isLower = false
  · have upper : s = Text.upper s := (isUpperCase_iff ascii).2 noSmall
    rw [relaxCase, if_pos upper, relaxed_of_noSmall noSmall, Text.lower, String.toList_ofList,
      lowerAfter_of_ascii ascii]
  · have mixed : ¬ s = Text.upper s := noSmall ∘ (isUpperCase_iff ascii).1
    rw [relaxCase, if_neg mixed, relaxed_of_small noSmall]

/-! ## Words of a name -/

/-- The first letter in upper case. -/
def upperFirst : List Char → List Char
  | [] => []
  | c :: cs => c.toUpper :: cs

theorem isSeparator_of_isAlphanum (letter : c.isAlphanum = true) : isSeparator c = false := by
  rw [Bool.eq_false_iff]
  intro separates
  simp only [isSeparator, Bool.or_eq_true, beq_iff_eq] at separates
  rcases separates with ((rfl | rfl) | rfl) | rfl <;> revert letter <;> decide

theorem joinWords_cons_of_plain (letter : c.isAlphanum = true) :
    joinWords start (c :: cs) = (if start then c.toUpper else c) :: joinWords false cs := by
  rw [joinWords, isSeparator_of_isAlphanum letter]
  cases small : c.isLower with
  | true =>
      have noCapital : c.isUpper = false := by
        simpa using Char.not_isUpper_of_isLower small
      have noDigit : c.isDigit = false := by
        rw [Bool.eq_false_iff]
        exact fun digit => Bool.false_ne_true ((isDigit_noLetter digit).2.symm.trans small)
      simp [noCapital, noDigit]
  | false =>
      have capitalOrDigit : (c.isUpper || c.isDigit) = true := by
        simpa [isAlphanum_eq, small] using letter
      have same : c.toUpper = c := toUpper_eq_self_iff.2 small
      simp [capitalOrDigit, same]

theorem joinWords_false_of_plain (plain : ∀ c ∈ cs, c.isAlphanum = true) :
    joinWords false cs = cs := by
  induction cs with
  | nil => rfl
  | cons c rest ih =>
      obtain ⟨letter, later⟩ := List.forall_mem_cons.1 plain
      rw [joinWords_cons_of_plain letter, ih later]
      rfl

theorem joinWords_true_of_plain (plain : ∀ c ∈ cs, c.isAlphanum = true) :
    joinWords true cs = upperFirst cs := by
  cases cs with
  | nil => rfl
  | cons c rest =>
      obtain ⟨letter, later⟩ := List.forall_mem_cons.1 plain
      rw [joinWords_cons_of_plain letter, joinWords_false_of_plain later]
      rfl

theorem joinWords_underscore : joinWords start ('_' :: cs) = joinWords true cs := by
  have noLetter : ('_'.isUpper || '_'.isDigit) = false ∧ '_'.isLower = false := by decide
  have separates : isSeparator '_' = true := by decide
  simp [joinWords, noLetter, separates]

/-- Where there are no spaces, none is trimmed. -/
theorem camelCase_eq (ascii : ∀ c ∈ s.toList, Text.isAscii c = true)
    (noSpace : ∀ c ∈ relaxed s.toList, (c == ' ') = false) :
    camelCase start s = joinWords start (relaxed s.toList) := by
  rw [camelCase, toList_relaxCase ascii, Text.trimBoth_eq_self noSpace]

theorem ne_space_of_isAlphanum (letter : c.isAlphanum = true) : (c == ' ') = false := by
  rw [beq_eq_false_iff_ne]
  rintro rfl
  exact absurd letter (by decide)

/-! ## Names of properties -/

/-- The stem of a property name: ASCII letters and digits, and no capital in front. -/
structure IsStem (name : List Char) : Prop where
  plain : ∀ c ∈ name, c.isAlphanum = true
  first : ∀ c ∈ name.head?, c.isUpper = false

/-- The stem with `_` in front, if it starts as a number. -/
def signed (name : List Char) : List Char :=
  if startsWithNumberChars name then '_' :: name else name

namespace IsStem

theorem lowerFirst (plain : ∀ c ∈ cs, c.isAlphanum = true) : IsStem (lowerFirst cs) := by
  cases cs with
  | nil => exact ⟨plain, by simp [Naming.lowerFirst]⟩
  | cons c rest =>
      obtain ⟨letter, later⟩ := List.forall_mem_cons.1 plain
      exact ⟨List.forall_mem_cons.2 ⟨Text.isAlphanum_toLower letter, later⟩,
        by simp [Naming.lowerFirst]⟩

theorem lowerFirst_eq (stem : IsStem name) : Naming.lowerFirst name = name := by
  cases name with
  | nil => rfl
  | cons c rest => rw [Naming.lowerFirst, toLower_eq_self_iff.2 (stem.first c rfl)]

theorem relaxed (stem : IsStem name) : IsStem (relaxed name) := by
  refine ⟨relaxed_plain stem.plain, fun c isFirst => ?_⟩
  unfold Naming.relaxed at isFirst
  split at isFirst
  · exact stem.first c isFirst
  · rw [List.head?_map] at isFirst
    obtain ⟨old, -, rfl⟩ := Option.map_eq_some_iff.1 isFirst
    exact Char.isUpper_toLower_eq_false old

end IsStem

theorem upperFirst_eq_self_iff : upperFirst cs = cs ↔ ∀ c ∈ cs.head?, c.isLower = false := by
  cases cs with
  | nil => simp [upperFirst]
  | cons c rest => simp [upperFirst, toUpper_eq_self_iff]

theorem isDigit_first (number : startsWithNumberChars name = true) :
    ∃ c rest, name = c :: rest ∧ c.isDigit = true := by
  cases name with
  | nil => cases number
  | cons c rest => exact ⟨c, rest, rfl, (Bool.and_eq_true_iff.1 number).1⟩

/-- A digit has no upper case. -/
theorem upperFirst_relaxed_of_isDigit {rest : List Char} (digit : c.isDigit = true) :
    upperFirst (relaxed (c :: rest)) = relaxed (c :: rest) := by
  obtain ⟨noCapital, noSmall⟩ := isDigit_noLetter digit
  rw [upperFirst_eq_self_iff, relaxed]
  split <;> simp [toLower_eq_self_iff.2 noCapital, noSmall]

theorem relaxed_cons_underscore : relaxed ('_' :: cs) = '_' :: relaxed cs := by
  have noSmall : '_'.isLower = false := by decide
  simp only [relaxed, List.any_cons, noSmall, Bool.false_or]
  split <;> rfl

/-- Named again, a property name is put in lower case if it has no small letters, and else stays. -/
theorem sdkName_signed (stem : IsStem name) :
    sdkName (String.ofList (signed name)) = String.ofList (signed (relaxed name)) := by
  have noSpace : ∀ c ∈ relaxed name, (c == ' ') = false :=
    fun c member => ne_space_of_isAlphanum (relaxed_plain stem.plain c member)
  have ascii : ∀ c ∈ name, Text.isAscii c = true :=
    fun c member => Text.isAscii_of_isAlphanum (stem.plain c member)
  have words : camelCase false (String.ofList (signed name)) = relaxed name := by
    by_cases number : startsWithNumberChars name = true
    · obtain ⟨c, rest, rfl, digit⟩ := isDigit_first number
      have chars : (String.ofList (signed (c :: rest))).toList = '_' :: c :: rest := by
        rw [String.toList_ofList, signed, if_pos number]
      rw [camelCase_eq, chars, relaxed_cons_underscore]
      · -- What stands behind `_` starts a word, but it starts with a digit.
        calc joinWords false ('_' :: relaxed (c :: rest))
            = joinWords true (relaxed (c :: rest)) := joinWords_underscore
          _ = upperFirst (relaxed (c :: rest)) :=
            joinWords_true_of_plain (relaxed_plain stem.plain)
          _ = relaxed (c :: rest) := upperFirst_relaxed_of_isDigit digit
      · rw [chars]
        exact List.forall_mem_cons.2 ⟨by decide, ascii⟩
      · rw [chars, relaxed_cons_underscore]
        exact List.forall_mem_cons.2 ⟨by decide, noSpace⟩
    · have chars : (String.ofList (signed name)).toList = name := by
        rw [String.toList_ofList, signed, if_neg number]
      rw [camelCase_eq (chars.symm ▸ ascii) (chars.symm ▸ noSpace), chars,
        joinWords_false_of_plain (relaxed_plain stem.plain)]
  unfold sdkName
  rw [words, stem.relaxed.lowerFirst_eq]
  rfl

/-- Names with the same number of letters and digits are the same with signs if they are so
without. -/
theorem signed_inj {other : List Char} (lengths : name.length = other.length) :
    signed name = signed other ↔ name = other := by
  refine ⟨fun same => ?_, congrArg signed⟩
  unfold signed at same
  split at same <;> split at same
  · exact (List.cons.inj same).2
  · simp [← same] at lengths
  · simp [same] at lengths
  · exact same

theorem allCapitals_signed : AllCapitals (signed name) ↔ AllCapitals name := by
  have noLetter : '_'.isUpper = false ∧ '_'.isLower = false := by decide
  unfold signed
  split
  · simp only [AllCapitals, List.exists_mem_cons_iff, List.forall_mem_cons, noLetter,
      Bool.false_eq_true, false_or, true_and]
  · exact Iff.rfl

/-- A property name is its stem, signed. -/
theorem exists_isStem (raw : String) :
    ∃ name, IsStem name ∧ sdkName raw = String.ofList (signed name) :=
  ⟨_, .lowerFirst fun _ => isAlphanum_of_mem_joinWords, rfl⟩

/-! ## Names of types -/

theorem toList_pascalCase_of_isPlain (plain : IsPlain s) :
    (pascalCase s).toList = upperFirst (relaxed s.toList) := by
  have noSpace : ∀ c ∈ relaxed s.toList, (c == ' ') = false :=
    fun c member => ne_space_of_isAlphanum (relaxed_plain plain c member)
  rw [pascalCase, String.toList_ofList,
    camelCase_eq (fun c member => Text.isAscii_of_isAlphanum (plain c member)) noSpace,
    joinWords_true_of_plain (relaxed_plain plain)]

/-- Named again, a type name stays if it starts with no small letter, and its other letters are not
all capitals. -/
theorem upperFirst_relaxed_eq_self_iff : upperFirst (relaxed cs) = cs ↔
    (∀ c ∈ cs.head?, c.isLower = false) ∧ ¬ AllCapitals cs.tail := by
  cases cs with
  | nil => simp [relaxed, upperFirst, AllCapitals]
  | cons c rest =>
      rw [List.head?_cons, List.tail_cons]
      by_cases noSmall : ∀ x ∈ c :: rest, x.isLower = false
      · obtain ⟨first, later⟩ := List.forall_mem_cons.1 noSmall
        rw [relaxed_of_noSmall noSmall, ← relaxed_eq_self_iff, relaxed_of_noSmall later,
          List.map_cons, upperFirst, Char.toUpper_toLower_eq_toUpper, toUpper_eq_self_iff.2 first,
          List.cons_inj_right, and_iff_right]
        rintro _ ⟨⟩
        exact first
      · rw [relaxed_of_small noSmall, upperFirst_eq_self_iff, List.head?_cons, iff_self_and]
        intro first capitals
        exact noSmall (List.forall_mem_cons.2 ⟨first c rfl, capitals.2⟩)

theorem isLower_first_upperFirst : ∀ c ∈ (upperFirst cs).head?, c.isLower = false := by
  cases cs <;> simp [upperFirst]

/-- If a type name starts with no small letter, it settles when it is named again. -/
theorem not_allCapitals_tail (first : ∀ c ∈ cs.head?, c.isLower = false) :
    ¬ AllCapitals (upperFirst (relaxed cs)).tail := by
  cases cs with
  | nil => simp [relaxed, upperFirst, AllCapitals]
  | cons c rest =>
      by_cases noSmall : ∀ x ∈ c :: rest, x.isLower = false
      · rw [relaxed_of_noSmall noSmall, List.map_cons, upperFirst, List.tail_cons]
        exact not_allCapitals_map_toLower
      · rw [relaxed_of_small noSmall, upperFirst, List.tail_cons]
        intro capitals
        exact noSmall (List.forall_mem_cons.2 ⟨first c rfl, capitals.2⟩)

/-! ## Names settle -/

theorem sdkName_sdkName_eq_iff (raw : String) :
    sdkName (sdkName raw) = sdkName raw ↔ ¬ AllCapitals (sdkName raw).toList := by
  obtain ⟨name, stem, same⟩ := exists_isStem raw
  rw [same, sdkName_signed stem, String.ofList_inj, signed_inj length_relaxed, String.toList_ofList,
    allCapitals_signed, relaxed_eq_self_iff]

theorem sdkName_settles (raw : String) :
    sdkName (sdkName (sdkName raw)) = sdkName (sdkName raw) := by
  obtain ⟨name, stem, same⟩ := exists_isStem raw
  rw [same, sdkName_signed stem, sdkName_signed stem.relaxed,
    relaxed_eq_self_iff.2 not_allCapitals_relaxed]

theorem pascalCase_pascalCase_eq_iff (raw : String) :
    pascalCase (pascalCase raw) = pascalCase raw ↔
      (∀ c ∈ (pascalCase raw).toList.head?, c.isLower = false) ∧
        ¬ AllCapitals (pascalCase raw).toList.tail := by
  rw [← String.toList_inj, toList_pascalCase_of_isPlain (isPlain_pascalCase raw),
    upperFirst_relaxed_eq_self_iff]

theorem pascalCase_settles (raw : String) :
    let third := pascalCase (pascalCase (pascalCase raw))
    pascalCase third = third := by
  intro third
  have second_eq := toList_pascalCase_of_isPlain (isPlain_pascalCase raw)
  have third_eq := toList_pascalCase_of_isPlain (isPlain_pascalCase (pascalCase raw))
  refine (pascalCase_pascalCase_eq_iff _).2 ?_
  rw [third_eq]
  exact ⟨isLower_first_upperFirst, not_allCapitals_tail (second_eq ▸ isLower_first_upperFirst)⟩

/-- A property name is its own property name exactly if its letters are not all capitals. A type
name is its own type name exactly if it starts with no small letter, and what follows are not all
capitals. Named twice, a property is settled, and named three times, a type. -/
theorem repeated_naming (raw : String) :
    (sdkName (sdkName raw) = sdkName raw ↔ ¬ AllCapitals (sdkName raw).toList) ∧
      (pascalCase (pascalCase raw) = pascalCase raw ↔
        (∀ c ∈ (pascalCase raw).toList.head?, c.isLower = false) ∧
          ¬ AllCapitals (pascalCase raw).toList.tail) ∧
      sdkName^[3] raw = sdkName^[2] raw ∧ pascalCase^[4] raw = pascalCase^[3] raw :=
  ⟨sdkName_sdkName_eq_iff raw, pascalCase_pascalCase_eq_iff raw, sdkName_settles raw,
    pascalCase_settles raw⟩

/-- The capitals that words start with are lost, if they are all letters there are. -/
theorem names_relaxed_again :
    (sdkName "1_a" = "_1A" ∧ sdkName (sdkName "1_a") = "_1a") ∧
      pascalCase "a_b" = "AB" ∧ pascalCase (pascalCase "a_b") = "Ab" := by
  decide +kernel

/-- Three times may be needed: the first letter has no separator in front of it, but a letter that
is dropped. -/
example : pascalCase "éa_b" = "aB" ∧ pascalCase "aB" = "AB" ∧ pascalCase "AB" = "Ab" := by
  decide +kernel

end ResourceInference.Naming
