/-!
# Cutting text at separators

Pieces of a text between the occurrences of a separator. There is always one piece more than
there are separators, and joining the pieces gives the text back (`join_split`); pieces without the
separator come back when they are joined and cut again (`split_join`).
-/

set_option autoImplicit false

namespace ResourceInference.Text

/-- The pieces of `cs` between the characters equal to `sep`. -/
def pieces (sep : Char) : List Char → List (List Char)
  | [] => [[]]
  | c :: cs =>
    if c = sep then [] :: pieces sep cs
    else match pieces sep cs with
      | [] => [[c]]
      | piece :: rest => (c :: piece) :: rest

/-- Pieces joined by `sep`. -/
def joinPieces (sep : Char) : List (List Char) → List Char
  | [] => []
  | [piece] => piece
  | piece :: next :: rest => piece ++ sep :: joinPieces sep (next :: rest)

theorem pieces_ne_nil (sep : Char) (cs : List Char) : pieces sep cs ≠ [] := by
  cases cs with
  | nil => simp [pieces]
  | cons c cs =>
    unfold pieces
    split
    · simp
    · split <;> simp

theorem joinPieces_pieces (sep : Char) (cs : List Char) :
    joinPieces sep (pieces sep cs) = cs := by
  induction cs with
  | nil => rfl
  | cons c cs ih =>
    unfold pieces
    cases h : pieces sep cs with
    | nil => exact absurd h (pieces_ne_nil sep cs)
    | cons piece rest =>
      rw [h] at ih
      by_cases here : c = sep
      · simp [here, joinPieces, ih]
      · cases rest with
        | nil => simpa [here, joinPieces] using ih
        | cons next rest => simpa [here, joinPieces] using ih

/-- The pieces of a text between the characters equal to `sep`. -/
def split (sep : Char) (s : String) : List String := (pieces sep s.toList).map String.ofList

/-- Texts joined by a character. -/
def join (sep : Char) (texts : List String) : String :=
  String.ofList (joinPieces sep (texts.map String.toList))

theorem join_split (sep : Char) (s : String) : join sep (split sep s) = s := by
  simp [join, split, Function.comp_def, joinPieces_pieces]

theorem not_mem_of_mem_pieces {sep : Char} {piece : List Char} {cs : List Char}
    (member : piece ∈ pieces sep cs) : sep ∉ piece := by
  induction cs generalizing piece with
  | nil => simp_all [pieces]
  | cons c cs ih =>
    unfold pieces at member
    split at member
    · rcases List.mem_cons.1 member with rfl | later
      · simp
      · exact ih later
    · rename_i ne
      split at member
      · rename_i none
        exact absurd none (pieces_ne_nil sep cs)
      · rename_i first rest cut
        rw [cut] at ih
        rcases List.mem_cons.1 member with rfl | later
        · have notFirst : sep ∉ first := ih List.mem_cons_self
          simp [Ne.symm ne, notFirst]
        · exact ih (List.mem_cons_of_mem _ later)

theorem pieces_of_not_mem {sep : Char} {cs : List Char} (free : sep ∉ cs) :
    pieces sep cs = [cs] := by
  induction cs with
  | nil => rfl
  | cons c cs ih =>
    have ne : c ≠ sep := fun same => free (same ▸ List.mem_cons_self)
    have rest : pieces sep cs = [cs] := ih fun member => free (List.mem_cons_of_mem _ member)
    simp [pieces, ne, rest]

/-- The pieces of a text with a separator are those before it and those behind it. -/
theorem pieces_append (sep : Char) (before after : List Char) :
    pieces sep (before ++ sep :: after) = pieces sep before ++ pieces sep after := by
  induction before with
  | nil => simp [pieces]
  | cons c before ih =>
    rw [List.cons_append, pieces, pieces, ih]
    split
    · rfl
    · cases h : pieces sep before with
      | nil => exact absurd h (pieces_ne_nil sep before)
      | cons piece rest => rfl

theorem pieces_append_sep {sep : Char} {piece : List Char} (free : sep ∉ piece) (cs : List Char) :
    pieces sep (piece ++ sep :: cs) = piece :: pieces sep cs := by
  rw [pieces_append, pieces_of_not_mem free, List.singleton_append]

/-- Pieces without the separator come back when they are joined and cut again. -/
theorem pieces_joinPieces {sep : Char} {ps : List (List Char)} (nonempty : ps ≠ [])
    (free : ∀ piece ∈ ps, sep ∉ piece) : pieces sep (joinPieces sep ps) = ps := by
  induction ps with
  | nil => exact absurd rfl nonempty
  | cons piece rest ih =>
    have first : sep ∉ piece := free piece List.mem_cons_self
    cases rest with
    | nil => exact pieces_of_not_mem first
    | cons next rest =>
      rw [joinPieces, pieces_append_sep first]
      exact congrArg (piece :: ·)
        (ih (by simp) fun other member => free other (List.mem_cons_of_mem _ member))

theorem split_ne_nil (sep : Char) (s : String) : split sep s ≠ [] := by
  simp [split, pieces_ne_nil]

theorem not_mem_of_mem_split {sep : Char} {s piece : String} (member : piece ∈ split sep s) :
    sep ∉ piece.toList := by
  obtain ⟨chars, isPiece, rfl⟩ := List.mem_map.1 member
  rw [String.toList_ofList]
  exact not_mem_of_mem_pieces isPiece

theorem split_join {sep : Char} {texts : List String} (nonempty : texts ≠ [])
    (free : ∀ text ∈ texts, sep ∉ text.toList) : split sep (join sep texts) = texts := by
  have cut : pieces sep (joinPieces sep (texts.map String.toList)) = texts.map String.toList := by
    refine pieces_joinPieces (by simpa using nonempty) fun piece member => ?_
    obtain ⟨text, isText, rfl⟩ := List.mem_map.1 member
    exact free text isText
  simp [split, join, cut, Function.comp_def]

/-- What follows the first characters `start` of `cs`, if `cs` starts with them. -/
def stripStart? : List Char → List Char → Option (List Char)
  | [], cs => some cs
  | _ :: _, [] => none
  | s :: start, c :: cs => if s = c then stripStart? start cs else none

theorem stripStart?_eq_some_iff {start cs rest : List Char} :
    stripStart? start cs = some rest ↔ cs = start ++ rest := by
  induction start generalizing cs with
  | nil => simp [stripStart?, eq_comm]
  | cons c start ih =>
    cases cs with
    | nil => simp [stripStart?]
    | cons c' cs =>
      rw [stripStart?]
      split
      · rename_i same
        rw [ih, same, List.cons_append, List.cons_inj_right]
      · rename_i differ
        simp [Ne.symm differ]

/-- What follows the last occurrence of `sep` in `cs`. -/
def afterLast? (sep : List Char) : List Char → Option (List Char)
  | [] => stripStart? sep []
  | c :: cs =>
    match afterLast? sep cs with
    | some rest => some rest
    | none => stripStart? sep (c :: cs)

/-- What stands before and after the first character equal to `sep`. -/
def cutAt? (sep : Char) : List Char → Option (List Char × List Char)
  | [] => none
  | c :: cs => if c = sep then some ([], cs) else (cutAt? sep cs).map fun cut => (c :: cut.1, cut.2)

/-- What stands before and after the last character equal to `sep`. -/
def cutAtLast? (sep : Char) (s : String) : Option (String × String) :=
  match (split sep s).reverse with
  | [] | [_] => none
  | last :: before => some (join sep before.reverse, last)

theorem joinPieces_append_singleton {sep : Char} {ps : List (List Char)} (nonempty : ps ≠ [])
    (last : List Char) : joinPieces sep (ps ++ [last]) = joinPieces sep ps ++ sep :: last := by
  induction ps with
  | nil => exact absurd rfl nonempty
  | cons piece rest ih =>
    cases rest with
    | nil => simp [joinPieces]
    | cons next rest =>
      have tail := ih (by simp)
      simp only [List.cons_append] at tail ⊢
      simp only [joinPieces, tail, List.append_assoc, List.cons_append]

/-- The last piece stands at the end. -/
theorem suffix_of_getLast? {sep : Char} {cs last : List Char}
    (h : (pieces sep cs).getLast? = some last) : last <:+ cs := by
  obtain ⟨before, cut⟩ := List.getLast?_eq_some_iff.1 h
  have joined := joinPieces_pieces sep cs
  rw [cut] at joined
  cases before with
  | nil => exact ⟨[], joined⟩
  | cons piece rest =>
    rw [joinPieces_append_singleton (by simp)] at joined
    exact ⟨joinPieces sep (piece :: rest) ++ [sep], by simpa using joined⟩

/-- A text is what stands before its last separator, that separator, and what stands after it. -/
theorem toList_of_cutAtLast? {sep : Char} {s start last : String}
    (h : cutAtLast? sep s = some (start, last)) :
    s.toList = start.toList ++ sep :: last.toList := by
  unfold cutAtLast? at h
  split at h
  · cases h
  · cases h
  · rename_i before several reversed
    cases h
    have pieces : split sep s = before.reverse ++ [last] := by
      rw [← List.reverse_inj, reversed]
      simp
    have nonempty : before.reverse.map String.toList ≠ [] := by
      simpa using several
    have joined : s.toList = (join sep (before.reverse ++ [last])).toList := by
      rw [← pieces, join_split]
    rw [joined, join, join, String.toList_ofList, String.toList_ofList, List.map_append]
    exact joinPieces_append_singleton nonempty last.toList

/-- Whether `needle` occurs in `cs`. -/
def occursIn (needle : List Char) : List Char → Bool
  | [] => needle.isEmpty
  | c :: cs => (stripStart? needle (c :: cs)).isSome || occursIn needle cs

theorem occursIn_iff {needle cs : List Char} : occursIn needle cs = true ↔ needle <:+: cs := by
  induction cs with
  | nil => simp [occursIn]
  | cons c cs ih =>
    rw [occursIn, Bool.or_eq_true, ih, List.infix_cons_iff, Option.isSome_iff_exists]
    refine or_congr_left (exists_congr fun rest => ?_)
    rw [stripStart?_eq_some_iff, eq_comm]

/-- A text without the characters of `p` at its two ends. -/
def trimBoth (p : Char → Bool) (cs : List Char) : List Char :=
  ((cs.dropWhile p).reverse.dropWhile p).reverse

theorem mem_of_mem_trimBoth {p : Char → Bool} {c : Char} {cs : List Char}
    (member : c ∈ trimBoth p cs) : c ∈ cs := by
  have dropped : c ∈ (cs.dropWhile p).reverse :=
    (List.dropWhile_sublist p).subset (List.mem_reverse.1 member)
  exact (List.dropWhile_sublist p).subset (List.mem_reverse.1 dropped)

theorem dropWhile_eq_self {p : Char → Bool} {cs : List Char} (none : ∀ c ∈ cs, p c = false) :
    cs.dropWhile p = cs := by
  cases cs with
  | nil => rfl
  | cons c rest => exact List.dropWhile_cons_of_neg (by simp [none c List.mem_cons_self])

theorem trimBoth_eq_self {p : Char → Bool} {cs : List Char} (none : ∀ c ∈ cs, p c = false) :
    trimBoth p cs = cs := by
  have noneBackwards : ∀ c ∈ cs.reverse, p c = false :=
    fun c member => none c (List.mem_reverse.1 member)
  rw [trimBoth, dropWhile_eq_self none, dropWhile_eq_self noneBackwards, List.reverse_reverse]

end ResourceInference.Text
