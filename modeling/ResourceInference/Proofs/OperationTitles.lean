import ResourceInference.Naming.Operation
import ResourceInference.Proofs.RepeatedNaming

/-!
# Titles of operations

The operations on one resource are called by its words behind a verb, in one of several spellings:
`getPetOwner`, `delete_pet_owner`, `update-pet-owner`. Cutting an id into words undoes every one of
them: in camel case a word ends where the next one has its capital (`splitWords_camel`), at `-` and
`.` words are cut apart (`splitWords_separated`), and snake case is made into camel case first
(`mergeSnakeCase_snake`). Of the words without the verb Pascal-casing makes the same title, whether
they came with their capitals or without: it gives capitals where there are none, and if it takes a
name without small letters for one in upper case, that costs no capital but the first ones, which
come back (`pascalCase_join`).

A word of a title has something behind its capital, so that no two capitals meet.
-/

set_option autoImplicit false

namespace ResourceInference

namespace Text

theorem toList_lowerAscii (s : String) : (lowerAscii s).toList = s.toList.map Char.toLower :=
  String.toList_ofList

theorem lowerAscii_lowerAscii (s : String) : lowerAscii (lowerAscii s) = lowerAscii s := by
  rw [← String.toList_inj]
  simp only [toList_lowerAscii]
  refine Naming.map_eq_self_iff.2 (List.forall_mem_map.2 fun c _ => ?_)
  exact Naming.toLower_eq_self_iff.2 (Char.isUpper_toLower_eq_false c)

end Text

namespace Naming

variable {c : Char} {cs word rest : List Char}

/-! ## Words -/

/-- A character that goes on with a word: a small letter or a digit. -/
def continues (c : Char) : Bool := c.isLower || c.isDigit

/-- A word of a title: a capital, and behind it small letters or digits, at least one. -/
def IsTitleWord (word : String) : Prop :=
  ∃ first rest, word.toList = first :: rest ∧ first.isUpper = true ∧ rest ≠ [] ∧
    ∀ c ∈ rest, continues c = true

instance (word : String) : Decidable (IsTitleWord word) :=
  match chars : word.toList with
  | [] => isFalse (by simp [IsTitleWord, chars])
  | first :: rest =>
    decidable_of_iff (first.isUpper = true ∧ rest ≠ [] ∧ rest.all continues = true)
      (by simp [IsTitleWord, chars])

theorem isUpper_of_continues (inside : continues c = true) : c.isUpper = false := by
  rcases Bool.or_eq_true_iff.1 inside with small | digit
  · exact Bool.eq_false_iff.2 fun capital => Char.not_isUpper_of_isLower small capital
  · exact (isDigit_noLetter digit).1

theorem isAlphanum_of_continues (inside : continues c = true) : c.isAlphanum = true := by
  rcases Bool.or_eq_true_iff.1 inside with small | digit
  · simp [isAlphanum_eq, small]
  · simp [isAlphanum_eq, digit]

/-- The verbs of a method are written in small letters. -/
theorem continues_of_mem_verbs {method : Method} {verb : String} (isVerb : verb ∈ verbs method) :
    ∀ c ∈ verb.toList, continues c = true := by
  have all : ∀ verb ∈ verbs method, verb.toList.all continues = true := by
    cases method <;> decide
  exact List.all_eq_true.1 (all verb isVerb)

theorem ne_empty_of_mem_verbs {method : Method} {verb : String} (isVerb : verb ∈ verbs method) :
    verb ≠ "" := by
  have all : ∀ verb ∈ verbs method, verb ≠ "" := by
    cases method <;> decide
  exact all verb isVerb

/-! ## Cutting an id into words -/

/-- Small letters and digits belong to the word under construction. -/
theorem wordsFrom_append (inside : ∀ c ∈ cs, continues c = true) :
    wordsFrom word (cs ++ rest) = wordsFrom (cs.reverse ++ word) rest := by
  induction cs generalizing word with
  | nil => rfl
  | cons c cs ih =>
      obtain ⟨first, later⟩ := List.forall_mem_cons.1 inside
      have noSeparator := isSeparator_of_isAlphanum (isAlphanum_of_continues first)
      have step : wordsFrom word (c :: (cs ++ rest)) = wordsFrom (c :: word) (cs ++ rest) := by
        cases word <;> simp [wordsFrom, noSeparator, startsWord, isUpper_of_continues first]
      rw [List.cons_append, step, ih later, List.reverse_cons, List.append_assoc,
        List.singleton_append]

/-- A word ends in front of a capital, and at the end of an id. -/
theorem wordsFrom_titles {words : List String} (titles : ∀ w ∈ words, IsTitleWord w)
    (inside : continues c = true) :
    wordsFrom (c :: word) (words.flatMap String.toList) =
      (c :: word).reverse :: words.map String.toList := by
  induction words generalizing c word with
  | nil => rfl
  | cons w words ih =>
      obtain ⟨⟨first, run, spelt, capital, more, goesOn⟩, later⟩ := List.forall_mem_cons.1 titles
      have noSeparator : isSeparator first = false :=
        isSeparator_of_isAlphanum (by simp [isAlphanum_eq, capital])
      have starts : ∀ rest, startsWord c first rest = true := by
        intro rest
        have smallOrDigit : (c.isLower || c.isDigit) = true := inside
        simp [startsWord, capital, smallOrDigit]
      obtain ⟨last, before, backwards⟩ := List.exists_cons_of_ne_nil
        (List.reverse_ne_nil_iff.2 more)
      have ends : continues last = true :=
        goesOn last (List.mem_reverse.1 (backwards ▸ List.mem_cons_self))
      have chars : (last :: (before ++ [first])).reverse = w.toList := by
        rw [← List.cons_append, ← backwards, spelt]
        simp
      calc wordsFrom (c :: word) ((w :: words).flatMap String.toList)
          = (c :: word).reverse :: wordsFrom [first] (run ++ words.flatMap String.toList) := by
            simp [spelt, wordsFrom, noSeparator, starts, emitWord]
        _ = (c :: word).reverse ::
              wordsFrom (last :: (before ++ [first])) (words.flatMap String.toList) := by
            rw [wordsFrom_append goesOn, backwards, List.cons_append]
        _ = (c :: word).reverse :: (w :: words).map String.toList := by
            rw [ih later ends, chars, List.map_cons]

/-- In camel case, the words behind a verb are cut apart at their capitals. -/
theorem splitWords_camel {verb : String} {words : List String}
    (inside : ∀ c ∈ verb.toList, continues c = true) (nonempty : verb ≠ "")
    (titles : ∀ w ∈ words, IsTitleWord w) :
    splitWords (verb ++ String.join words) = verb :: words := by
  obtain ⟨last, before, backwards⟩ := List.exists_cons_of_ne_nil
    (List.reverse_ne_nil_iff.2 fun empty => nonempty (String.toList_eq_nil_iff.1 empty))
  have ends : continues last = true :=
    inside last (List.mem_reverse.1 (backwards ▸ List.mem_cons_self))
  have chars : (last :: before).reverse = verb.toList := by
    rw [← backwards, List.reverse_reverse]
  rw [splitWords, String.toList_append, String.toList_join, wordsFrom_append inside,
    List.append_nil, backwards, wordsFrom_titles titles ends, chars]
  simp [Function.comp_def]

theorem emitWord_reverse (nonempty : cs ≠ []) : emitWord cs.reverse = [cs] := by
  simp [emitWord, nonempty]

theorem wordsFrom_cons_of_isSeparator (separates : isSeparator c = true) :
    wordsFrom word (c :: rest) = emitWord word ++ wordsFrom [] rest := by
  cases word <;> simp [wordsFrom, separates]

/-- Words in small letters are cut apart at separators. -/
theorem wordsFrom_joinPieces {sep : Char} (separates : isSeparator sep = true)
    {ps : List (List Char)} (words : ∀ p ∈ ps, p ≠ [] ∧ ∀ c ∈ p, continues c = true) :
    wordsFrom [] (Text.joinPieces sep ps) = ps := by
  induction ps with
  | nil => rfl
  | cons p ps ih =>
      obtain ⟨⟨nonempty, inside⟩, later⟩ := List.forall_mem_cons.1 words
      cases ps with
      | nil =>
          have alone : wordsFrom [] (p ++ []) = wordsFrom (p.reverse ++ []) [] :=
            wordsFrom_append inside
          rw [List.append_nil, List.append_nil] at alone
          exact alone.trans (emitWord_reverse nonempty)
      | cons q ps =>
          calc wordsFrom [] (p ++ sep :: Text.joinPieces sep (q :: ps))
              = wordsFrom p.reverse (sep :: Text.joinPieces sep (q :: ps)) := by
                rw [wordsFrom_append inside, List.append_nil]
            _ = emitWord p.reverse ++ wordsFrom [] (Text.joinPieces sep (q :: ps)) := by
                rw [wordsFrom_cons_of_isSeparator separates]
            _ = p :: q :: ps := by
                rw [emitWord_reverse nonempty, ih later, List.singleton_append]

theorem splitWords_join {sep : Char} (separates : isSeparator sep = true) {words : List String}
    (inside : ∀ w ∈ words, w ≠ "" ∧ ∀ c ∈ w.toList, continues c = true) :
    splitWords (Text.join sep words) = words := by
  have cut : wordsFrom [] (Text.joinPieces sep (words.map String.toList)) =
      words.map String.toList := by
    refine wordsFrom_joinPieces separates (List.forall_mem_map.2 fun w member => ?_)
    exact ⟨fun empty => (inside w member).1 (String.toList_eq_nil_iff.1 empty),
      (inside w member).2⟩
  rw [splitWords, Text.join, String.toList_ofList, cut]
  simp [Function.comp_def]

/-! ## Pascal-casing words -/

/-- A word of ASCII letters and digits, with no capital behind the first character. -/
structure IsWord (cs : List Char) : Prop where
  plain : ∀ c ∈ cs, c.isAlphanum = true
  small : ∀ c ∈ cs.tail, c.isUpper = false

theorem joinWords_append_of_plain (plain : ∀ c ∈ cs, c.isAlphanum = true) :
    joinWords true (cs ++ '_' :: rest) = upperFirst cs ++ joinWords true rest := by
  have behind : ∀ {cs : List Char}, (∀ c ∈ cs, c.isAlphanum = true) →
      joinWords false (cs ++ '_' :: rest) = cs ++ joinWords true rest := by
    intro cs plain
    induction cs with
    | nil => exact joinWords_underscore
    | cons c cs ih =>
        obtain ⟨letter, later⟩ := List.forall_mem_cons.1 plain
        rw [List.cons_append, joinWords_cons_of_plain letter, ih later]
        rfl
  cases cs with
  | nil => exact joinWords_underscore
  | cons c cs =>
      obtain ⟨letter, later⟩ := List.forall_mem_cons.1 plain
      rw [List.cons_append, joinWords_cons_of_plain letter, behind later]
      rfl

/-- Words joined by `_` are joined with capitals. -/
theorem joinWords_joinPieces {ps : List (List Char)}
    (plain : ∀ p ∈ ps, ∀ c ∈ p, c.isAlphanum = true) :
    joinWords true (Text.joinPieces '_' ps) = ps.flatMap upperFirst := by
  induction ps with
  | nil => rfl
  | cons p ps ih =>
      obtain ⟨first, later⟩ := List.forall_mem_cons.1 plain
      cases ps with
      | nil => rw [Text.joinPieces, joinWords_true_of_plain first, List.flatMap_singleton]
      | cons q ps =>
          rw [Text.joinPieces, joinWords_append_of_plain first, ih later]
          rfl

/-- A word in lower case has its capital back. -/
theorem IsWord.upperFirst_map_toLower (word : IsWord cs) :
    upperFirst (cs.map Char.toLower) = upperFirst cs := by
  cases cs with
  | nil => rfl
  | cons c cs =>
      have tail : cs.map Char.toLower = cs :=
        map_eq_self_iff.2 fun d member => toLower_eq_self_iff.2 (word.small d member)
      rw [List.map_cons, upperFirst, upperFirst, Char.toUpper_toLower_eq_toUpper, tail]

theorem map_joinPieces (f : Char → Char) (ps : List (List Char)) {sep : Char}
    (kept : f sep = sep) :
    (Text.joinPieces sep ps).map f = Text.joinPieces sep (ps.map (List.map f)) := by
  induction ps with
  | nil => rfl
  | cons p ps ih =>
      cases ps with
      | nil => rfl
      | cons q ps => simpa [Text.joinPieces, kept] using ih

theorem mem_joinPieces {sep : Char} {ps : List (List Char)} (member : c ∈ Text.joinPieces sep ps) :
    c = sep ∨ ∃ p ∈ ps, c ∈ p := by
  induction ps with
  | nil => cases member
  | cons p ps ih =>
      cases ps with
      | nil => exact .inr ⟨p, List.mem_cons_self, member⟩
      | cons q ps =>
          rcases List.mem_append.1 member with here | behind
          · exact .inr ⟨p, List.mem_cons_self, here⟩
          · rcases List.mem_cons.1 behind with isSep | later
            · exact .inl isSep
            · exact (ih later).imp_right fun ⟨r, isPiece, inside⟩ =>
                ⟨r, List.mem_cons_of_mem _ isPiece, inside⟩

theorem IsWord.lowered (word : IsWord cs) : ∀ c ∈ cs.map Char.toLower, c.isAlphanum = true :=
  List.forall_mem_map.2 fun c member => Text.isAlphanum_toLower (word.plain c member)

/-- If words joined by `_` are put in lower case, then each of them is. -/
theorem relaxed_joinPieces {ps : List (List Char)} (isWord : ∀ p ∈ ps, IsWord p) :
    ∃ f : List Char → List Char,
      relaxed (Text.joinPieces '_' ps) = Text.joinPieces '_' (ps.map f) ∧
      ∀ p ∈ ps, (∀ c ∈ f p, c.isAlphanum = true) ∧ upperFirst (f p) = upperFirst p := by
  by_cases noSmall : ∀ c ∈ Text.joinPieces '_' ps, c.isLower = false
  · refine ⟨List.map Char.toLower, ?_, fun p isPiece => ?_⟩
    · rw [relaxed_of_noSmall noSmall, map_joinPieces _ _ (by decide)]
    · exact ⟨(isWord p isPiece).lowered, (isWord p isPiece).upperFirst_map_toLower⟩
  · refine ⟨id, ?_, fun p isPiece => ⟨(isWord p isPiece).plain, rfl⟩⟩
    rw [relaxed_of_small noSmall, List.map_id]

/-- Words joined by `_` make the name in which each of them has a capital. -/
theorem pascalCase_join {words : List String} (isWord : ∀ w ∈ words, IsWord w.toList) :
    (pascalCase (Text.join '_' words)).toList =
      words.flatMap fun w => upperFirst w.toList := by
  have pieces : ∀ p ∈ words.map String.toList, IsWord p := List.forall_mem_map.2 isWord
  obtain ⟨f, isRelaxed, spells⟩ := relaxed_joinPieces pieces
  have chars : (Text.join '_' words).toList = Text.joinPieces '_' (words.map String.toList) :=
    String.toList_ofList
  have plain : ∀ p ∈ (words.map String.toList).map f, ∀ c ∈ p, c.isAlphanum = true :=
    List.forall_mem_map.2 fun p isPiece => (spells p isPiece).1
  have ascii : ∀ c ∈ (Text.join '_' words).toList, Text.isAscii c = true := by
    rw [chars]
    intro c member
    rcases mem_joinPieces member with rfl | ⟨p, isPiece, inside⟩
    · decide
    · exact Text.isAscii_of_isAlphanum ((pieces p isPiece).plain c inside)
  have noSpace : ∀ c ∈ relaxed (Text.join '_' words).toList, (c == ' ') = false := by
    rw [chars, isRelaxed]
    intro c member
    rcases mem_joinPieces member with rfl | ⟨p, isPiece, inside⟩
    · decide
    · exact ne_space_of_isAlphanum (plain p isPiece c inside)
  calc (pascalCase (Text.join '_' words)).toList
      = joinWords true (relaxed (Text.joinPieces '_' (words.map String.toList))) := by
        rw [pascalCase, String.toList_ofList, camelCase_eq ascii noSpace, chars]
    _ = ((words.map String.toList).map f).flatMap upperFirst := by
        rw [isRelaxed, joinWords_joinPieces plain]
    _ = (words.map String.toList).flatMap upperFirst := by
        rw [List.flatMap_map]
        exact List.flatMap_congr fun p isPiece => (spells p isPiece).2
    _ = words.flatMap fun w => upperFirst w.toList := by rw [List.flatMap_map]

/-! ## Words of a title -/

namespace IsTitleWord

variable {w : String}

theorem isWord (title : IsTitleWord w) : IsWord w.toList := by
  obtain ⟨first, run, spelt, capital, -, goesOn⟩ := title
  rw [spelt]
  refine ⟨List.forall_mem_cons.2 ⟨by simp [isAlphanum_eq, capital], fun c inside => ?_⟩,
    fun c inside => isUpper_of_continues (goesOn c inside)⟩
  exact isAlphanum_of_continues (goesOn c inside)

theorem upperFirst_eq (title : IsTitleWord w) : upperFirst w.toList = w.toList := by
  obtain ⟨first, run, spelt, capital, -, -⟩ := title
  rw [spelt, upperFirst_eq_self_iff]
  rintro _ ⟨⟩
  exact Bool.eq_false_iff.2 fun small => Char.not_isUpper_of_isLower small capital

theorem isWord_lowered (title : IsTitleWord w) : IsWord (Text.lowerAscii w).toList := by
  rw [Text.toList_lowerAscii]
  refine ⟨title.isWord.lowered, fun c member => ?_⟩
  rw [← List.map_tail] at member
  obtain ⟨old, -, rfl⟩ := List.mem_map.1 member
  exact Char.isUpper_toLower_eq_false old

theorem upperFirst_lowered (title : IsTitleWord w) :
    upperFirst (Text.lowerAscii w).toList = w.toList := by
  rw [Text.toList_lowerAscii, title.isWord.upperFirst_map_toLower, title.upperFirst_eq]

theorem continues_lowered (title : IsTitleWord w) :
    ∀ c ∈ (Text.lowerAscii w).toList, continues c = true := by
  rw [Text.toList_lowerAscii]
  intro c member
  have letter := title.isWord.lowered c member
  obtain ⟨old, -, rfl⟩ := List.mem_map.1 member
  rw [isAlphanum_eq, Char.isUpper_toLower_eq_false, Bool.false_or] at letter
  exact letter

theorem lowered_ne_empty (title : IsTitleWord w) : Text.lowerAscii w ≠ "" := by
  obtain ⟨first, run, spelt, -⟩ := title
  rw [Ne, ← String.toList_inj, Text.toList_lowerAscii, spelt]
  simp

/-- Pascal-casing a word gives it its capital back. -/
theorem pascalCase_lowered (title : IsTitleWord w) : pascalCase (Text.lowerAscii w) = w := by
  have alone : Text.join '_' [Text.lowerAscii w] = Text.lowerAscii w := by
    simp [Text.join, Text.joinPieces]
  have isWord : ∀ t ∈ [Text.lowerAscii w], IsWord t.toList := by
    simpa using title.isWord_lowered
  have chars := pascalCase_join isWord
  rw [alone, List.flatMap_singleton, title.upperFirst_lowered] at chars
  exact String.toList_inj.1 chars

end IsTitleWord

/-! ## Snake case -/

theorem mergeSnakeCase_of_not_mem {id : String} (free : '_' ∉ id.toList) :
    mergeSnakeCase id = id := by
  simp [mergeSnakeCase, Text.split, Text.pieces_of_not_mem free]

theorem mergeSnakeCase_join {first : String} {words : List String}
    (free : ∀ w ∈ first :: words, '_' ∉ w.toList) :
    mergeSnakeCase (Text.join '_' (first :: words)) =
      first ++ String.join (words.map pascalCase) := by
  have folded : ∀ (words : List String) (merged : String),
      words.foldl (fun merged part => merged ++ pascalCase part) merged =
        merged ++ String.join (words.map pascalCase) := by
    intro words
    induction words with
    | nil => simp
    | cons w words ih => simp [ih, String.append_assoc]
  rw [mergeSnakeCase, Text.split_join (by simp) free]
  exact folded words first

theorem underscore_not_mem {w : String} (inside : ∀ c ∈ w.toList, continues c = true) :
    '_' ∉ w.toList := by
  intro member
  exact absurd (inside '_' member) (by decide)

/-- An id in snake case means the one in camel case. -/
theorem mergeSnakeCase_snake {verb : String} {words : List String}
    (inside : ∀ c ∈ verb.toList, continues c = true) (titles : ∀ w ∈ words, IsTitleWord w) :
    mergeSnakeCase (Text.join '_' (verb :: words.map Text.lowerAscii)) =
      verb ++ String.join words := by
  have free : ∀ w ∈ verb :: words.map Text.lowerAscii, '_' ∉ w.toList :=
    List.forall_mem_cons.2 ⟨underscore_not_mem inside, List.forall_mem_map.2 fun w member =>
      underscore_not_mem (titles w member).continues_lowered⟩
  have capitals : (words.map Text.lowerAscii).map pascalCase = words := by
    rw [List.map_map]
    exact (List.map_congr_left fun w member => (titles w member).pascalCase_lowered).trans
      (List.map_id words)
  rw [mergeSnakeCase_join free, capitals]

/-! ## Titles -/

theorem isVerb_lowerAscii (method : Method) (w : String) :
    isVerb method (Text.lowerAscii w) = isVerb method w := by
  have same : Text.sameIgnoringAsciiCase (Text.lowerAscii w) = Text.sameIgnoringAsciiCase w := by
    funext v
    rw [Text.sameIgnoringAsciiCase, Text.lowerAscii_lowerAscii]
    rfl
  rw [isVerb, same]
  rfl

/-- What is left of an id without its verb is made into the title. -/
theorem resourceTitle_of_splitWords {method : Method} {id verb : String} {texts : List String}
    (cut : splitWords (mergeSnakeCase id) = verb :: texts) (isVerb : verb ∈ verbs method)
    (noVerbs : ∀ t ∈ texts, Naming.isVerb method t = false)
    (isWord : ∀ t ∈ texts, IsWord t.toList) :
    (resourceTitle id method none).toList = texts.flatMap fun t => upperFirst t.toList := by
  have dropped : Naming.isVerb method verb = true :=
    List.any_eq_true.2 ⟨verb, isVerb, beq_self_eq_true _⟩
  have kept : texts.filter (fun t => !Naming.isVerb method t) = texts :=
    List.filter_eq_self.2 fun t member => by rw [noVerbs t member, Bool.not_false]
  rw [resourceTitle, unqualified, cut, List.filter_cons_of_neg (by simp [dropped]), kept,
    pascalCase_join isWord]

section

variable {method : Method} {verb : String} {words : List String}

/-- An id that means the one in camel case has the words for its title. -/
theorem resourceTitle_of_camel {id : String}
    (merged : mergeSnakeCase id = verb ++ String.join words)
    (isVerb : verb ∈ verbs method) (titles : ∀ w ∈ words, IsTitleWord w)
    (noVerbs : ∀ w ∈ words, Naming.isVerb method w = false) :
    resourceTitle id method none = String.join words := by
  have cut : splitWords (mergeSnakeCase id) = verb :: words := by
    rw [merged]
    exact splitWords_camel (continues_of_mem_verbs isVerb) (ne_empty_of_mem_verbs isVerb) titles
  rw [← String.toList_inj, String.toList_join,
    resourceTitle_of_splitWords cut isVerb noVerbs fun w member => (titles w member).isWord]
  exact List.flatMap_congr fun w member => (titles w member).upperFirst_eq

/-- So has an id whose words are apart. -/
theorem resourceTitle_of_separated {sep : Char} (separates : isSeparator sep = true)
    (noLine : sep ≠ '_') (isVerb : verb ∈ verbs method) (titles : ∀ w ∈ words, IsTitleWord w)
    (noVerbs : ∀ w ∈ words, Naming.isVerb method w = false) :
    resourceTitle (Text.join sep (verb :: words.map Text.lowerAscii)) method none =
      String.join words := by
  have inside : ∀ w ∈ verb :: words.map Text.lowerAscii,
      w ≠ "" ∧ ∀ c ∈ w.toList, continues c = true :=
    List.forall_mem_cons.2 ⟨⟨ne_empty_of_mem_verbs isVerb, continues_of_mem_verbs isVerb⟩,
      List.forall_mem_map.2 fun w member =>
        ⟨(titles w member).lowered_ne_empty, (titles w member).continues_lowered⟩⟩
  have free : '_' ∉ (Text.join sep (verb :: words.map Text.lowerAscii)).toList := by
    rw [Text.join, String.toList_ofList]
    intro member
    rcases mem_joinPieces member with same | ⟨p, isPiece, underscore⟩
    · exact noLine same.symm
    · obtain ⟨w, isWord, rfl⟩ := List.mem_map.1 isPiece
      exact underscore_not_mem (inside w isWord).2 underscore
  have cut : splitWords (mergeSnakeCase (Text.join sep (verb :: words.map Text.lowerAscii))) =
      verb :: words.map Text.lowerAscii := by
    rw [mergeSnakeCase_of_not_mem free, splitWords_join separates inside]
  have noVerbs : ∀ t ∈ words.map Text.lowerAscii, Naming.isVerb method t = false :=
    List.forall_mem_map.2 fun w member => (isVerb_lowerAscii method w).trans (noVerbs w member)
  rw [← String.toList_inj, String.toList_join, resourceTitle_of_splitWords cut isVerb noVerbs
    (List.forall_mem_map.2 fun w member => (titles w member).isWord_lowered), List.flatMap_map]
  exact List.flatMap_congr fun w member => (titles w member).upperFirst_lowered

/-- The title of an operation whose id consists of a verb of its method and of words that are no
verbs of it is those words, each with a capital, whether the id is in camel case or its words are
joined by `_`, by `-` or by `.`. -/
theorem resourceTitle_of_verb (isVerb : verb ∈ verbs method) (titles : ∀ w ∈ words, IsTitleWord w)
    (noVerbs : ∀ w ∈ words, ∀ v ∈ verbs method, Text.sameIgnoringAsciiCase w v = false) :
    resourceTitle (verb ++ String.join words) method none = String.join words ∧
      ∀ sep ∈ ['_', '-', '.'],
        resourceTitle (Text.join sep (verb :: words.map Text.lowerAscii)) method none =
          String.join words := by
  have noVerbs : ∀ w ∈ words, Naming.isVerb method w = false := fun w member =>
    List.any_eq_false.2 fun v isVerb => Bool.eq_false_iff.1 (noVerbs w member v isVerb)
  have inside := continues_of_mem_verbs isVerb
  have free : '_' ∉ (verb ++ String.join words).toList := by
    rw [String.toList_append, String.toList_join, List.mem_append, List.mem_flatMap]
    rintro (inVerb | ⟨w, isWord, inWord⟩)
    · exact underscore_not_mem inside inVerb
    · exact absurd ((titles w isWord).isWord.plain '_' inWord) (by decide)
  refine ⟨resourceTitle_of_camel (mergeSnakeCase_of_not_mem free) isVerb titles noVerbs, ?_⟩
  intro sep isSep
  simp only [List.mem_cons, List.not_mem_nil, or_false] at isSep
  rcases isSep with rfl | rfl | rfl
  · exact resourceTitle_of_camel (mergeSnakeCase_snake inside titles) isVerb titles noVerbs
  · exact resourceTitle_of_separated rfl (by decide) isVerb titles noVerbs
  · exact resourceTitle_of_separated rfl (by decide) isVerb titles noVerbs

/-- However the id is spelt, updating a `Pet2Owner` is about a `Pet2Owner`. -/
theorem updatePet2Owner_title :
    "update" ∈ verbs .put ∧ (∀ w ∈ ["Pet2", "Owner"], IsTitleWord w) ∧
      (∀ w ∈ ["Pet2", "Owner"], ∀ v ∈ verbs .put, Text.sameIgnoringAsciiCase w v = false) ∧
      resourceTitle "updatePet2Owner" .put none = "Pet2Owner" ∧
      resourceTitle "update_pet2_owner" .put none = "Pet2Owner" ∧
      resourceTitle "update-pet2-owner" .put none = "Pet2Owner" ∧
      resourceTitle "update.pet2.owner" .put none = "Pet2Owner" := by
  have isVerb : "update" ∈ verbs .put := by decide
  have titles : ∀ w ∈ ["Pet2", "Owner"], IsTitleWord w := by decide +kernel
  have noVerbs : ∀ w ∈ ["Pet2", "Owner"], ∀ v ∈ verbs .put,
      Text.sameIgnoringAsciiCase w v = false := by decide +kernel
  obtain ⟨camel, joined⟩ := resourceTitle_of_verb isVerb titles noVerbs
  have title : String.join ["Pet2", "Owner"] = "Pet2Owner" := by decide +kernel
  have id : "update" ++ "Pet2Owner" = "updatePet2Owner" := by decide +kernel
  have snake : Text.join '_' ["update", "pet2", "owner"] = "update_pet2_owner" := by
    decide +kernel
  have kebab : Text.join '-' ["update", "pet2", "owner"] = "update-pet2-owner" := by
    decide +kernel
  have dotted : Text.join '.' ["update", "pet2", "owner"] = "update.pet2.owner" := by
    decide +kernel
  have small : ["Pet2", "Owner"].map Text.lowerAscii = ["pet2", "owner"] := by decide +kernel
  rw [title, id] at camel
  rw [title, small] at joined
  exact ⟨isVerb, titles, noVerbs, camel, snake ▸ joined '_' (by decide),
    kebab ▸ joined '-' (by decide), dotted ▸ joined '.' (by decide)⟩

end

end Naming

end ResourceInference
