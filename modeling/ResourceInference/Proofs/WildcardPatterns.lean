import ResourceInference.Exclusion
import ResourceInference.Proofs.RegexMatching

/-!
# Wildcard patterns

A wildcard pattern covers a path if the path is what the pattern says, character by character and
star by star (`Wildcard.Covers`). The program does not look at patterns in this way: it writes a
pattern out as a regular expression, reads that, and matches the path against it. Each part of a
pattern is read back as the expression that it was written for (`Wildcard.reads_partSource`), and
what these expressions span is what the parts cover (`Wildcard.spans_parts`), so a rule with a
wildcard pattern is for the paths that the pattern covers (`PathPattern.wildcard_exact`).
-/

set_option autoImplicit false

namespace ResourceInference

namespace Pattern.Wildcard

/-! ## Covered texts -/

/-- A pattern covers a text. Two stars in a row are taken together from the left, so only a star
with no other behind it is single. -/
inductive Covers : List Char → List Char → Prop
  | nil : Covers [] []
  | anything {rest text run : List Char} (line : '\n' ∉ run) (later : Covers rest text) :
      Covers ('*' :: '*' :: rest) (run ++ text)
  | segment {rest text run : List Char} (single : rest.head? ≠ some '*') (inside : '/' ∉ run)
      (later : Covers rest text) : Covers ('*' :: rest) (run ++ text)
  | one {rest text : List Char} {c : Char} (inside : c ≠ '/') (later : Covers rest text) :
      Covers ('?' :: rest) (c :: text)
  | literal {rest text : List Char} {c : Char} (plain : c ≠ '*' ∧ c ≠ '?')
      (later : Covers rest text) : Covers (c :: rest) (c :: text)

/-- A part covers a text. -/
def PartCovers : WildcardPart → List Char → Prop
  | .anything, run => '\n' ∉ run
  | .segment, run => '/' ∉ run
  | .one, run => ∃ c ≠ '/', run = [c]
  | .literal c, run => run = [c]

/-- Parts cover a text one after the other. -/
def PartsCover : List WildcardPart → List Char → Prop
  | [], text => text = []
  | p :: ps, text => ∃ run rest, text = run ++ rest ∧ PartCovers p run ∧ PartsCover ps rest

theorem parts_star {rest : List Char} (single : rest.head? ≠ some '*') :
    parts ('*' :: rest) = .segment :: parts rest := by
  cases rest with
  | nil => rfl
  | cons c rest =>
      rw [parts.eq_3]
      rintro _ ⟨⟩
      exact single rfl

theorem parts_literal {c : Char} {rest : List Char} (plain : c ≠ '*' ∧ c ≠ '?') :
    parts (c :: rest) = .literal c :: parts rest := by
  rw [parts.eq_5]
  · rintro _ rfl
    exact absurd rfl plain.1
  · rintro rfl
    exact plain.1 rfl
  · rintro rfl
    exact plain.2 rfl

theorem Covers.partsCover {pattern text : List Char} (covers : Covers pattern text) :
    PartsCover (parts pattern) text := by
  induction covers with
  | nil => rfl
  | anything line _ ih => exact ⟨_, _, rfl, line, ih⟩
  | segment single inside _ ih =>
      rw [parts_star single]
      exact ⟨_, _, rfl, inside, ih⟩
  | one inside _ ih => exact ⟨[_], _, rfl, ⟨_, inside, rfl⟩, ih⟩
  | literal plain _ ih =>
      rw [parts_literal plain]
      exact ⟨[_], _, rfl, rfl, ih⟩

theorem covers_of_partsCover {pattern : List Char} :
    ∀ {text : List Char}, PartsCover (parts pattern) text → Covers pattern text := by
  fun_induction parts pattern with
  | case1 =>
      rintro _ rfl
      exact .nil
  | case2 rest ih =>
      rintro _ ⟨run, text, rfl, line, later⟩
      exact .anything line (ih later)
  | case3 rest single ih =>
      rintro _ ⟨run, text, rfl, inside, later⟩
      refine .segment (fun double => ?_) inside (ih later)
      obtain ⟨_, rfl⟩ := List.head?_eq_some_iff.1 double
      exact single _ rfl
  | case4 rest ih =>
      rintro _ ⟨_, text, rfl, ⟨c, inside, rfl⟩, later⟩
      exact .one inside (ih later)
  | case5 c rest _ noStar noMark ih =>
      rintro _ ⟨_, text, rfl, rfl, later⟩
      exact .literal ⟨noStar, noMark⟩ (ih later)

theorem covers_iff_partsCover {pattern text : List Char} :
    Covers pattern text ↔ PartsCover (parts pattern) text :=
  ⟨Covers.partsCover, covers_of_partsCover⟩

/-! ## The expression of a pattern -/

/-- The characters that are no slash, as a class in brackets is read. -/
def notSlash : CharClass := .complement (.union (.ranges []) (.single '/'))

/-- The expression that a part is written for. -/
def partRegex : WildcardPart → Regex
  | .anything => .star (.chars (.complement (.single '\n')))
  | .segment => .star (.chars notSlash)
  | .one => .chars notSlash
  | .literal c => .literal c

/-- The expression that a pattern is written for. -/
def regex (pattern : String) : Regex :=
  .sequence (.anchor .textStart :: (parts pattern.toList).map partRegex ++ [.anchor .textEnd])

theorem contains_single {c d : Char} : (CharClass.single c).contains d = true ↔ d = c := by
  have between : (CharClass.single c).contains d = true ↔
      c.toNat ≤ d.toNat ∧ d.toNat ≤ c.toNat := by
    simp [CharClass.single, CharClass.contains, inRanges]
  rw [between, ← Char.toNat_inj]
  omega

theorem contains_notSlash {c : Char} : notSlash.contains c = true ↔ c ≠ '/' := by
  have none : (CharClass.ranges []).contains c = false := rfl
  have slash := @contains_single '/' c
  rw [notSlash, CharClass.contains, CharClass.contains, none, Bool.false_or, Bool.not_eq_true',
    ← Bool.not_eq_true, slash]

theorem contains_noLineFeed {c : Char} :
    (CharClass.complement (.single '\n')).contains c = true ↔ c ≠ '\n' := by
  rw [CharClass.contains, Bool.not_eq_true', ← Bool.not_eq_true, contains_single]

variable {text : List Char} {i j : Nat}

open Regex

theorem spans_partRegex {p : WildcardPart} :
    Spans text (partRegex p) i j ↔ ∃ run, PartCovers p run ∧ Stands text run i j := by
  cases p with
  | anything =>
      simp only [partRegex, spans_star_chars, contains_noLineFeed, PartCovers, ne_eq,
        List.forall_mem_ne']
  | segment =>
      simp only [partRegex, spans_star_chars, contains_notSlash, PartCovers, ne_eq,
        List.forall_mem_ne']
  | one =>
      simp only [partRegex, spans_chars, contains_notSlash, PartCovers]
      constructor
      · rintro ⟨c, inside, stands⟩
        exact ⟨[c], ⟨c, inside, rfl⟩, stands⟩
      · rintro ⟨_, ⟨c, inside, rfl⟩, stands⟩
        exact ⟨c, inside, stands⟩
  | literal c => simp [partRegex, Regex.literal, spans_chars, contains_single, PartCovers]

/-- From a position of a text, the expressions of parts span the rest of it exactly if the parts
cover the rest. -/
theorem spans_parts {ps : List WildcardPart} (inside : i ≤ text.length) :
    (∃ j, Spans text (Regex.sequence (ps.map partRegex ++ [.anchor .textEnd])) i j) ↔
      PartsCover ps (text.drop i) := by
  induction ps generalizing i with
  | nil => simp [Regex.sequence, Spans, PartsCover, Anchor.holds, inside]
  | cons p ps ih =>
      rw [List.map_cons, List.cons_append]
      simp only [spans_sequence_cons, spans_partRegex, PartsCover]
      constructor
      · rintro ⟨j, k, ⟨run, first, stands⟩, later⟩
        exact ⟨run, text.drop k, stands.1, first, (ih (stands.le inside)).1 ⟨j, later⟩⟩
      · rintro ⟨run, rest, whole, first, later⟩
        obtain ⟨stands, rfl⟩ := stands_of_drop whole
        obtain ⟨j, later⟩ := (ih (stands.le inside)).2 later
        exact ⟨j, _, ⟨run, first, stands⟩, later⟩

/-- The expression of a pattern matches the texts that the pattern covers. -/
theorem matchesText_regex {pattern path : String} :
    (regex pattern).matchesText path = true ↔ Covers pattern.toList path.toList := by
  have start : ∀ i j, i ≤ path.toList.length →
      (Spans path.toList (.anchor .textStart) i j ↔ i = j ∧ i = 0) := by
    intro i j inside
    cases i with
    | zero => simp [Spans, Anchor.holds, charBefore]
    | succ i =>
        simp only [Spans, Anchor.holds, charBefore, Option.isNone_iff_eq_none,
          List.getElem?_eq_none_iff]
        omega
  have whole : (∃ j, Spans path.toList (Regex.sequence ((parts pattern.toList).map partRegex ++
      [.anchor .textEnd])) 0 j) ↔ PartsCover (parts pattern.toList) path.toList :=
    spans_parts (Nat.zero_le _)
  rw [matchesText_iff, covers_iff_partsCover, ← whole]
  simp only [regex, List.cons_append, spans_sequence_cons]
  constructor
  · rintro ⟨i, j, inside, k, first, later⟩
    obtain ⟨rfl, rfl⟩ := (start i k inside).1 first
    exact ⟨j, later⟩
  · rintro ⟨j, later⟩
    exact ⟨0, j, Nat.zero_le _, 0, (start 0 0 (Nat.zero_le _)).2 ⟨rfl, rfl⟩, later⟩

/-! ## Reading what was written -/

section Reading

open Reader

/-- In front of anything but a question mark, the characters are read as an item of their own. -/
def Reads (cs : List Char) (r : Regex) : Prop :=
  ∀ (s : BodyState) (rest : List Char) (fuel : Nat), rest.head? ≠ some '?' →
    (cs ++ rest).length < fuel → ∃ fuel', rest.length < fuel' ∧
      (body 0 {} s fuel).run ⟨cs ++ rest, []⟩ =
        (body 0 {} { s with items := some r :: s.items } fuel').run ⟨rest, []⟩

variable {c : Char} {cs rest : List Char} {r : Regex}

theorem primitive_plain (plain : metaChars.contains c = false) :
    primitive {} c = pure (Regex.literal c) := by
  unfold primitive
  split <;> first | rfl | simp [metaChars] at plain

theorem reads_plain (plain : metaChars.contains c = false) : Reads [c] (.literal c) := by
  intro s rest fuel _ enough
  obtain ⟨fuel, rfl⟩ := Nat.exists_eq_add_one_of_ne_zero (Nat.ne_zero_of_lt enough)
  refine ⟨fuel, Nat.lt_of_succ_lt_succ enough, ?_⟩
  have first : (peek?).run ⟨c :: rest, []⟩ = some (some c, ⟨c :: rest, []⟩) := rfl
  have read := primitive_plain plain
  simp only [metaChars, List.contains_eq_mem, List.mem_cons, not_or,
    decide_eq_false_iff_not] at plain
  rw [body]
  simp [skipSpace, StateT.run_bind, first, plain, Reader.skip, read]

theorem reads_escaped (special : metaChars.contains c = true) : Reads ['\\', c] (.literal c) := by
  intro s rest fuel _ enough
  obtain ⟨fuel, rfl⟩ := Nat.exists_eq_add_one_of_ne_zero (Nat.ne_zero_of_lt enough)
  refine ⟨fuel, by simp at enough; omega, ?_⟩
  simp only [metaChars, List.contains_eq_mem, List.mem_cons, decide_eq_true_eq, List.not_mem_nil,
    or_false] at special
  rcases special with rfl | rfl | rfl | rfl | rfl | rfl | rfl | rfl | rfl | rfl | rfl | rfl | rfl |
    rfl | rfl | rfl | rfl | rfl <;> rfl

theorem reads_dot : Reads ['.'] (.chars (.complement (.single '\n'))) := by
  intro s rest fuel _ enough
  obtain ⟨fuel, rfl⟩ := Nat.exists_eq_add_one_of_ne_zero (Nat.ne_zero_of_lt enough)
  exact ⟨fuel, Nat.lt_of_succ_lt_succ enough, rfl⟩

theorem reads_notSlash : Reads ['[', '^', '/', ']'] (.chars notSlash) := by
  intro s rest fuel _ enough
  obtain ⟨fuel, rfl⟩ : ∃ n, fuel = n + 4 := Nat.exists_eq_add_of_le' (by simp at enough; omega)
  exact ⟨fuel + 3, by simp at enough; omega, rfl⟩

theorem take?_eq_false (next : rest.head? ≠ some c) :
    (take? [c]).run ⟨rest, []⟩ = some (false, ⟨rest, []⟩) := by
  have stays : Text.stripStart? [c] rest = none := by
    cases rest with
    | nil => rfl
    | cons d rest =>
        have : c ≠ d := fun same => next (by rw [same]; rfl)
        simp [Text.stripStart?, this]
  simp [take?, StateT.run_bind, stays]

/-- A star behind an item repeats it. -/
theorem Reads.star (reads : Reads cs r) : Reads (cs ++ ['*']) (.star r) := by
  intro s rest fuel next enough
  rw [List.append_assoc] at enough ⊢
  obtain ⟨fuel, more, read⟩ := reads s _ fuel (by simp) enough
  obtain ⟨fuel, rfl⟩ := Nat.exists_eq_add_one_of_ne_zero (Nat.ne_zero_of_lt more)
  refine ⟨fuel, Nat.lt_of_succ_lt_succ more, read.trans ?_⟩
  have once := take?_eq_false next
  have first : (peek?).run ⟨'*' :: rest, []⟩ = some (some '*', ⟨'*' :: rest, []⟩) := rfl
  rw [body]
  simp [skipSpace, StateT.run_bind, first, Reader.skip, repetition, once]
  rfl

theorem reads_partSource (p : WildcardPart) : Reads (partSource p) (partRegex p) := by
  cases p with
  | anything => exact reads_dot.star
  | segment => exact reads_notSlash.star
  | one => exact reads_notSlash
  | literal c =>
      rw [partSource]
      cases special : metaChars.contains c with
      | true => exact reads_escaped special
      | false => exact reads_plain special

theorem head?_flatMap_partSource (ps : List WildcardPart) :
    (ps.flatMap partSource ++ ['$']).head? ≠ some '?' := by
  cases ps with
  | nil => simp
  | cons p ps =>
      cases p with
      | literal c =>
          rw [List.flatMap_cons, partSource]
          split
          · simp
          · rename_i plain
            rintro ⟨⟩
            exact plain rfl
      | _ => simp [partSource]

/-- Parts are read item by item, up to the end of the text. -/
theorem run_body_parts (ps : List WildcardPart) : ∀ (s : BodyState) (fuel : Nat),
    (ps.flatMap partSource ++ ['$']).length < fuel →
      (body 0 {} s fuel).run ⟨ps.flatMap partSource ++ ['$'], []⟩ =
        some (BodyState.finish { s with
          items := some (.anchor .textEnd) :: (ps.map fun p => some (partRegex p)).reverse ++
            s.items }, ⟨[], []⟩) := by
  induction ps with
  | nil =>
      intro s fuel enough
      obtain ⟨fuel, rfl⟩ : ∃ n, fuel = n + 2 := Nat.exists_eq_add_of_le' enough
      rfl
  | cons p ps ih =>
      intro s fuel enough
      rw [List.flatMap_cons, List.append_assoc] at enough ⊢
      obtain ⟨fuel, enough, read⟩ :=
        reads_partSource p s _ fuel (head?_flatMap_partSource ps) enough
      rw [read, ih _ _ enough]
      simp

theorem run_body_start (rest : List Char) (fuel : Nat) :
    (body 0 {} ⟨[], []⟩ (fuel + 1)).run ⟨'^' :: rest, []⟩ =
      (body 0 {} ⟨[], [some (.anchor .textStart)]⟩ fuel).run ⟨rest, []⟩ := rfl

/-- What a pattern is written out as is read as the expression that it is written for. -/
theorem read?_source {pattern : String} (small : (regex pattern).weight ≤ weightLimit) :
    read? (source pattern) = some (regex pattern) := by
  let ps := parts pattern.toList
  have chars : (source pattern).toList = '^' :: (ps.flatMap partSource ++ ['$']) := by
    rw [source, String.toList_ofList, List.cons_append]
  have finished : BodyState.finish ⟨[], some (.anchor .textEnd) ::
      (ps.map fun p => some (partRegex p)).reverse ++ [some (.anchor .textStart)]⟩ =
        regex pattern := by
    simp [BodyState.finish, BodyState.current, choice, regex, ps, List.filterMap_map]
  have whole : (body 0 {} ⟨[], []⟩ (2 * (source pattern).toList.length + 2)).run
      ⟨(source pattern).toList, []⟩ = some (regex pattern, ⟨[], []⟩) := by
    rw [chars, run_body_start, run_body_parts _ _ _ (by simp; omega), finished]
  simp only [read?, whole, if_pos small]

end Reading

/-! ## The size of an expression -/

theorem weight_single_le (c : Char) : (CharClass.single c).weight ≤ 8 := by
  simp only [CharClass.single, CharClass.weight, List.foldl_cons, List.foldl_nil, Nat.zero_add]
  split
  · decide
  · split <;> decide

theorem weight_partRegex_le (p : WildcardPart) : (partRegex p).weight ≤ 12 := by
  cases p with
  | literal c => exact Nat.max_le.2 ⟨by decide, (weight_single_le c).trans (by decide)⟩
  | _ => decide

theorem weight_sequence_le {rs : List Regex} {bound : Nat} (nonempty : rs ≠ [])
    (each : ∀ r ∈ rs, r.weight ≤ bound) : (Regex.sequence rs).weight ≤ bound * rs.length := by
  induction rs with
  | nil => exact absurd rfl nonempty
  | cons r rs ih =>
      obtain ⟨first, later⟩ := List.forall_mem_cons.1 each
      cases rs with
      | nil => simpa [Regex.sequence] using first
      | cons next rs =>
          have tail := ih (List.cons_ne_nil _ _) later
          rw [List.length_cons, Nat.mul_succ, Nat.add_comm]
          exact Nat.add_le_add first tail

theorem length_parts_le (pattern : List Char) : (parts pattern).length ≤ pattern.length := by
  fun_induction parts pattern with
  | case1 => exact Nat.le_refl _
  | case2 rest ih => exact Nat.succ_le_succ (Nat.le_succ_of_le ih)
  | _ => exact Nat.succ_le_succ ‹_›

/-- A pattern takes no more than twelve states for each of its characters. -/
theorem weight_regex_le (pattern : String) :
    (regex pattern).weight ≤ 12 * (pattern.length + 2) := by
  have few := length_parts_le pattern.toList
  rw [String.length_toList] at few
  have each : ∀ r ∈ Regex.anchor .textStart :: (parts pattern.toList).map partRegex ++
      [.anchor .textEnd], r.weight ≤ 12 := by
    intro r here
    simp only [List.cons_append, List.mem_cons, List.mem_append, List.mem_map, List.not_mem_nil,
      or_false] at here
    rcases here with rfl | ⟨p, -, rfl⟩ | rfl
    · decide
    · exact weight_partRegex_le p
    · decide
  refine (weight_sequence_le (by simp) each).trans (Nat.mul_le_mul_left _ ?_)
  simpa using few

end Pattern.Wildcard

namespace PathPattern

open Pattern

/-- A wildcard pattern that is not too large once it is written out can be made ready, and then a
path matches it exactly if the pattern covers the whole path. -/
theorem wildcard_exact {pattern : String}
    (small : (Wildcard.regex pattern).weight ≤ Regex.weightLimit) :
    ∃ p, make? pattern .wildcard = some p ∧
      ∀ path, p.matchesPath path = true ↔ Wildcard.Covers pattern.toList path.toList := by
  refine ⟨⟨pattern, .wildcard, .matchesRegex (Wildcard.regex pattern)⟩, ?_, fun path => ?_⟩
  · rw [make?, Wildcard.read?_source small]
    rfl
  · exact Wildcard.matchesText_regex

/-- Of three stars the first two go over slashes, and the third stays in front of the next one;
braces stand for themselves. -/
theorem threeStars_cover :
    (Wildcard.regex "/\x7bid\x7d?***").weight ≤ Regex.weightLimit ∧
      ∃ p, make? "/\x7bid\x7d?***" .wildcard = some p ∧
        p.matchesPath "/\x7bid\x7d1/a/b" = true := by
  have small : (Wildcard.regex "/\x7bid\x7d?***").weight ≤ Regex.weightLimit :=
    (Wildcard.weight_regex_le _).trans (by decide)
  obtain ⟨p, made, exact⟩ := wildcard_exact small
  have stars : Wildcard.Covers ['*', '*', '*'] (['/', 'a', '/'] ++ (['b'] ++ [])) :=
    .anything (by decide) (.segment (by decide) (by decide) .nil)
  refine ⟨small, p, made, (exact _).2 ?_⟩
  exact .literal (by decide) (.literal (by decide) (.literal (by decide) (.literal (by decide)
    (.literal (by decide) (.one (by decide) stars)))))

end PathPattern

end ResourceInference
