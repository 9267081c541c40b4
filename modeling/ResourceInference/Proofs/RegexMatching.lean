import Mathlib.Data.Nat.Bitwise
import ResourceInference.Pattern.Regex

/-!
# What regular expressions match

A regular expression spans a text from one position to another (`Regex.Spans`), which its notation
means without any machine: sequences are composed, alternatives are joined, and a repetition is so
many spans one after the other. Running an expression on a set of positions moves it along these
spans (`Regex.testBit_ends`), so the expression matches a text exactly if it spans some part of it
(`Regex.matchesText_iff`).

Only unbounded repetitions need an argument. They are run as many times as the text has positions,
and spans never go back, so that of any number of them all but so many stay where they are
(`Regex.times_short`).
-/

set_option autoImplicit false

namespace ResourceInference.Pattern

/-- The character in front of a position; `first` stands in front of the text. -/
def charBefore (first : Option Char) (text : List Char) : Nat → Option Char
  | 0 => first
  | i + 1 => text[i]?

/-- So many steps of a relation, one after the other. -/
def Times {α : Type} (r : α → α → Prop) : Nat → α → α → Prop
  | 0, a, b => a = b
  | n + 1, a, b => ∃ c, r a c ∧ Times r n c b

theorem times_add {α : Type} {r : α → α → Prop} {m n : Nat} {a b : α} :
    Times r (m + n) a b ↔ ∃ c, Times r m a c ∧ Times r n c b := by
  induction m generalizing a with
  | zero => simp [Times]
  | succ m ih =>
      rw [Nat.succ_add]
      simp only [Times, ih]
      constructor
      · rintro ⟨d, step, c, first, later⟩
        exact ⟨c, ⟨d, step, first⟩, later⟩
      · rintro ⟨c, ⟨d, step, first⟩, later⟩
        exact ⟨d, step, c, first, later⟩

namespace Regex

/-- The expression matches what stands between two positions of a text. -/
def Spans (text : List Char) : Regex → Nat → Nat → Prop
  | empty, i, j => i = j
  | chars cls, i, j => j = i + 1 ∧ ∃ c, text[i]? = some c ∧ cls.contains c = true
  | anchor a, i, j => i = j ∧ i ≤ text.length ∧ a.holds (charBefore none text i) text[i]? = true
  | seq a b, i, j => ∃ k, Spans text a i k ∧ Spans text b k j
  | alt a b, i, j => Spans text a i j ∨ Spans text b i j
  | repeated a least more, i, j =>
    ∃ n, least ≤ n ∧ (∀ m ∈ more, n ≤ least + m) ∧ Times (Spans text a) n i j

/-! ## Sets of positions -/

theorem testBit_positionsBefore {p : Char → Bool} {text : List Char} {i : Nat} :
    (positionsBefore p text).testBit i = true ↔ ∃ c, text[i]? = some c ∧ p c = true := by
  induction text generalizing i with
  | nil => simp [positionsBefore]
  | cons c rest ih =>
      cases i with
      | zero => cases h : p c <;> simp [positionsBefore, h, Nat.testBit_zero]
      | succ i =>
          have tail : ((if p c then 1 else 0) + 2 * positionsBefore p rest) / 2 =
              positionsBefore p rest := by
            split <;> omega
          rw [positionsBefore, Nat.testBit_succ, tail, ih, List.getElem?_cons_succ]

theorem testBit_positionsAt {a : Anchor} {first : Option Char} {text : List Char} {i : Nat} :
    (positionsAt a first text).testBit i = true ↔
      i ≤ text.length ∧ a.holds (charBefore first text i) text[i]? = true := by
  induction text generalizing first i with
  | nil =>
      cases i with
      | zero => cases h : a.holds first none <;> simp [positionsAt, charBefore, h]
      | succ i => cases h : a.holds first none <;> simp [positionsAt, h, Nat.testBit_succ]
  | cons c rest ih =>
      cases i with
      | zero =>
          cases h : a.holds first (some c) <;>
            simp [positionsAt, charBefore, h, Nat.testBit_zero]
      | succ i =>
          have tail : ((if a.holds first (some c) then 1 else 0) +
              2 * positionsAt a (some c) rest) / 2 = positionsAt a (some c) rest := by
            split <;> omega
          have before : charBefore first (c :: rest) (i + 1) = charBefore (some c) rest i := by
            cases i <;> rfl
          rw [positionsAt, Nat.testBit_succ, tail, ih, before, List.getElem?_cons_succ,
            List.length_cons, Nat.add_le_add_iff_right]

theorem testBit_allPositions {text : List Char} {i : Nat} :
    (allPositions text).testBit i = true ↔ i ≤ text.length := by
  have bits : (allPositions text).testBit i = decide (i < text.length + 1) :=
    Nat.testBit_two_pow_sub_one _ _
  rw [bits, decide_eq_true_iff, Nat.lt_succ_iff]

/-! ## Moving sets along a relation -/

/-- Exactly the positions that are one step of the relation away from a set belong to its image. -/
def Moves (f : Nat → Nat) (r : Nat → Nat → Prop) : Prop :=
  ∀ set j, (f set).testBit j = true ↔ ∃ i, set.testBit i = true ∧ r i j

section

variable {f : Nat → Nat} {r : Nat → Nat → Prop}

theorem Moves.iterate (moves : Moves f r) (n : Nat) : Moves (iterate f n) (Times r n) := by
  induction n with
  | zero => exact fun set j => by simp [Regex.iterate, Times]
  | succ n ih =>
      intro set j
      rw [Regex.iterate]
      split
      · rename_i nothing
        simp [nothing]
      · rw [ih]
        simp only [Times, moves set]
        constructor
        · rintro ⟨k, ⟨i, here, step⟩, later⟩
          exact ⟨i, here, k, step, later⟩
        · rintro ⟨i, here, k, step, later⟩
          exact ⟨k, ⟨i, here, step⟩, later⟩

/-- A set to which a step adds nothing is never left. -/
theorem Moves.closed (moves : Moves f r) {set : Nat} (fixed : set ||| f set = set) {n i j : Nat}
    (here : set.testBit i = true) (steps : Times r n i j) : set.testBit j = true := by
  induction n generalizing i with
  | zero => exact steps ▸ here
  | succ n ih =>
      obtain ⟨k, step, later⟩ := steps
      have reached : (f set).testBit k = true := (moves set k).2 ⟨i, here, step⟩
      refine ih ?_ later
      rw [← fixed, Nat.testBit_or, reached, Bool.or_true]

theorem Moves.grow (moves : Moves f r) (bound : Nat) :
    Moves (grow f bound) fun i j => ∃ n ≤ bound, Times r n i j := by
  induction bound with
  | zero => exact fun set j => by simp [Regex.grow, Times]
  | succ bound ih =>
      intro set j
      rw [Regex.grow]
      dsimp only
      split
      · rename_i fixed
        constructor
        · exact fun here => ⟨j, here, 0, Nat.zero_le _, rfl⟩
        · rintro ⟨i, here, n, -, steps⟩
          exact moves.closed fixed here steps
      · rw [ih]
        constructor
        · rintro ⟨i, here, n, few, steps⟩
          rw [Nat.testBit_or, Bool.or_eq_true] at here
          rcases here with here | reached
          · exact ⟨i, here, n, Nat.le_succ_of_le few, steps⟩
          · obtain ⟨i', here, step⟩ := (moves set i).1 reached
            exact ⟨i', here, n + 1, Nat.succ_le_succ few, i, step, steps⟩
        · rintro ⟨i, here, n, few, steps⟩
          cases n with
          | zero => exact ⟨i, by simp [here], 0, Nat.zero_le _, steps⟩
          | succ n =>
              obtain ⟨k, step, later⟩ := steps
              have reached : (f set).testBit k = true := (moves set k).2 ⟨i, here, step⟩
              exact ⟨k, by simp [reached], n, Nat.le_of_succ_le_succ few, later⟩

end

/-! ## Spans go forward -/

/-- A step stays where it is, or goes forward inside a text of `length` characters. -/
def IsForward (length : Nat) (r : Nat → Nat → Prop) : Prop :=
  ∀ i j, r i j → i = j ∨ i < j ∧ j ≤ length

theorem IsForward.times {length : Nat} {r : Nat → Nat → Prop} (forward : IsForward length r)
    (n : Nat) : IsForward length (Times r n) := by
  induction n with
  | zero => exact fun i j same => .inl same
  | succ n ih =>
      rintro i j ⟨k, step, later⟩
      have first := forward i k step
      have second := ih k j later
      omega

theorem spans_isForward (text : List Char) (r : Regex) :
    IsForward text.length (Spans text r) := by
  induction r with
  | empty => exact fun i j same => .inl same
  | chars cls =>
      rintro i j ⟨rfl, c, inside, -⟩
      have := (List.getElem?_eq_some_iff.1 inside).1
      omega
  | anchor a => exact fun i j ⟨same, _⟩ => .inl same
  | seq a b iha ihb =>
      rintro i j ⟨k, first, second⟩
      have := iha i k first
      have := ihb k j second
      omega
  | alt a b iha ihb => exact fun i j either => either.elim (iha i j) (ihb i j)
  | repeated a least more ih => exact fun i j ⟨n, _, _, steps⟩ => ih.times n i j steps

/-- Steps that stay where they are can be left out, and no more others fit into the text than it
has positions. -/
theorem times_short {length : Nat} {r : Nat → Nat → Prop} (forward : IsForward length r)
    {n i j : Nat} (steps : Times r n i j) : ∃ m ≤ length - i, Times r m i j := by
  induction n generalizing i with
  | zero => exact ⟨0, Nat.zero_le _, steps⟩
  | succ n ih =>
      obtain ⟨k, step, later⟩ := steps
      obtain ⟨m, few, short⟩ := ih later
      rcases forward i k step with rfl | moved
      · exact ⟨m, few, short⟩
      · exact ⟨m + 1, by omega, k, step, short⟩

/-! ## Running an expression -/

/-- Running an expression moves a set of positions along what the expression spans. -/
theorem moves_ends (text : List Char) (r : Regex) : Moves (ends text r) (Spans text r) := by
  induction r with
  | empty => exact fun set j => by simp [ends, Spans]
  | chars cls =>
      intro set j
      simp only [ends, Spans]
      cases j with
      | zero => simp [Nat.testBit_zero]
      | succ j =>
          rw [Nat.testBit_succ, Nat.mul_div_cancel_left _ (by decide), Nat.testBit_and,
            Bool.and_eq_true, testBit_positionsBefore]
          simp
  | anchor a =>
      intro set j
      simp only [ends, Spans, Nat.testBit_and, Bool.and_eq_true, testBit_positionsAt]
      constructor
      · exact fun ⟨here, holds⟩ => ⟨j, here, rfl, holds⟩
      · rintro ⟨i, here, rfl, holds⟩
        exact ⟨here, holds⟩
  | seq a b iha ihb =>
      intro set j
      simp only [ends, Spans, ihb _ j, iha set]
      constructor
      · rintro ⟨k, ⟨i, here, first⟩, second⟩
        exact ⟨i, here, k, first, second⟩
      · rintro ⟨i, here, k, first, second⟩
        exact ⟨k, ⟨i, here, first⟩, second⟩
  | alt a b iha ihb =>
      intro set j
      simp only [ends, Spans, Nat.testBit_or, Bool.or_eq_true, iha set, ihb set, ← exists_or,
        ← and_or_left]
  | repeated a least more ih =>
      intro set j
      -- Both kinds of repetitions are the least number of steps, and then some more.
      have split : (∃ i, set.testBit i = true ∧ Spans text (repeated a least more) i j) ↔
          ∃ k, (iterate (ends text a) least set).testBit k = true ∧
            ∃ n, (∀ m ∈ more, n ≤ m) ∧ Times (Spans text a) n k j := by
        simp only [Spans, ih.iterate least set]
        constructor
        · rintro ⟨i, here, n, enough, few, steps⟩
          obtain ⟨n, rfl⟩ := Nat.exists_eq_add_of_le enough
          obtain ⟨k, first, later⟩ := times_add.1 steps
          exact ⟨k, ⟨i, here, first⟩, n,
            fun m bound => Nat.le_of_add_le_add_left (few m bound), later⟩
        · rintro ⟨k, ⟨i, here, first⟩, n, few, later⟩
          exact ⟨i, here, least + n, Nat.le_add_right _ _,
            fun m bound => Nat.add_le_add_left (few m bound) _, times_add.2 ⟨k, first, later⟩⟩
      rw [split]
      cases more with
      | some more =>
          simp only [ends, ih.grow more _ j]
          simp
      | none =>
          simp only [ends, ih.grow _ _ j]
          refine exists_congr fun k => and_congr_right fun _ => ?_
          constructor
          · exact fun ⟨n, _, steps⟩ => ⟨n, nofun, steps⟩
          · rintro ⟨n, -, steps⟩
            obtain ⟨m, few, short⟩ := times_short (spans_isForward text a) steps
            exact ⟨m, by omega, short⟩

/-- An expression matches a text exactly if it spans some part of it. -/
theorem matchesText_iff {r : Regex} {text : String} :
    r.matchesText text = true ↔ ∃ i j, i ≤ text.toList.length ∧ Spans text.toList r i j := by
  unfold matchesText
  rw [bne_iff_ne]
  constructor
  · intro some
    obtain ⟨j, reached⟩ := Nat.exists_testBit_of_ne_zero some
    obtain ⟨i, inside, spans⟩ := (moves_ends _ r _ j).1 reached
    exact ⟨i, j, testBit_allPositions.1 inside, spans⟩
  · rintro ⟨i, j, inside, spans⟩ none
    have reached := (moves_ends _ r _ j).2 ⟨i, testBit_allPositions.2 inside, spans⟩
    rw [none, Nat.zero_testBit] at reached
    cases reached

/-! ## Expressions put together -/

theorem spans_sequence_cons {text : List Char} {r : Regex} {rest : List Regex} {i j : Nat} :
    Spans text (sequence (r :: rest)) i j ↔
      ∃ k, Spans text r i k ∧ Spans text (sequence rest) k j := by
  cases rest with
  | nil => simp [sequence, Spans]
  | cons next rest => rfl

theorem spans_star {text : List Char} {r : Regex} {i j : Nat} :
    Spans text (star r) i j ↔ ∃ n, Times (Spans text r) n i j := by
  simp [star, Spans]

/-- The characters `run` stand between two positions of a text. -/
def Stands (text run : List Char) (i j : Nat) : Prop :=
  text.drop i = run ++ text.drop j ∧ j = i + run.length

theorem stands_nil {text : List Char} {i j : Nat} : Stands text [] i j ↔ i = j := by
  constructor
  · exact fun stands => stands.2.symm
  · rintro rfl
    exact ⟨rfl, rfl⟩

theorem stands_cons {text run : List Char} {c : Char} {i j : Nat} :
    Stands text (c :: run) i j ↔ text[i]? = some c ∧ Stands text run (i + 1) j := by
  have first : text.drop i = c :: (run ++ text.drop j) ↔
      text[i]? = some c ∧ text.drop (i + 1) = run ++ text.drop j := by
    rw [← List.head?_drop, ← List.tail_drop]
    cases text.drop i <;> simp
  unfold Stands
  rw [List.cons_append, first, List.length_cons, and_assoc, Nat.add_right_comm, Nat.add_assoc]

theorem Stands.le {text run : List Char} {i j : Nat} (stands : Stands text run i j)
    (inside : i ≤ text.length) : j ≤ text.length := by
  have lengths := congrArg List.length stands.1
  rw [List.length_append, List.length_drop, List.length_drop] at lengths
  have := stands.2
  omega

/-- What a text goes on with stands there. -/
theorem stands_of_drop {text run rest : List Char} {i : Nat} (whole : text.drop i = run ++ rest) :
    Stands text run i (i + run.length) ∧ rest = text.drop (i + run.length) := by
  have behind : text.drop (i + run.length) = rest := by
    rw [← List.drop_drop, whole, List.drop_left]
  exact ⟨⟨whole.trans (by rw [behind]), rfl⟩, behind.symm⟩

theorem spans_chars {text : List Char} {cls : CharClass} {i j : Nat} :
    Spans text (chars cls) i j ↔ ∃ c, cls.contains c = true ∧ Stands text [c] i j := by
  simp only [Spans, stands_cons, stands_nil]
  constructor
  · rintro ⟨rfl, c, here, inside⟩
    exact ⟨c, inside, here, rfl⟩
  · rintro ⟨c, inside, here, rfl⟩
    exact ⟨rfl, c, here, inside⟩

theorem times_chars {text : List Char} {cls : CharClass} {n i j : Nat} :
    Times (Spans text (chars cls)) n i j ↔
      ∃ run, run.length = n ∧ (∀ c ∈ run, cls.contains c = true) ∧ Stands text run i j := by
  induction n generalizing i with
  | zero => simp [Times, List.length_eq_zero_iff, stands_nil]
  | succ n ih =>
      simp only [Times, spans_chars, ih, stands_cons, stands_nil]
      constructor
      · rintro ⟨_, ⟨c, inside, here, rfl⟩, run, rfl, later, stands⟩
        exact ⟨c :: run, rfl, List.forall_mem_cons.2 ⟨inside, later⟩,
          stands_cons.2 ⟨here, stands⟩⟩
      · rintro ⟨_ | ⟨c, run⟩, count, all, stands⟩
        · cases count
        · obtain ⟨inside, later⟩ := List.forall_mem_cons.1 all
          obtain ⟨here, stands⟩ := stands_cons.1 stands
          exact ⟨i + 1, ⟨c, inside, here, rfl⟩, run, Nat.succ_inj.1 count, later, stands⟩

theorem spans_star_chars {text : List Char} {cls : CharClass} {i j : Nat} :
    Spans text (star (chars cls)) i j ↔
      ∃ run, (∀ c ∈ run, cls.contains c = true) ∧ Stands text run i j := by
  simp only [spans_star, times_chars]
  constructor
  · rintro ⟨_, run, -, all, stands⟩
    exact ⟨run, all, stands⟩
  · rintro ⟨run, all, stands⟩
    exact ⟨_, run, rfl, all, stands⟩

end Regex

end ResourceInference.Pattern
