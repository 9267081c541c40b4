import ResourceInference.Proofs.OperationTitles

/-!
# Words as slices of bytes

The words of an identifier are found by its characters (`splitWords`). They can be cut out of its
UTF-8 bytes too, in one pass that looks at a byte, the one before it and the one after it, and keeps
the position at which the word under construction starts (`wordRanges`). A byte is taken for the
character of its code, which it is not if it is one of several bytes of a character; but then
neither is ASCII (`IsByteOf`), and cuts are made at ASCII characters only. So both ways agree, and
every range lies on the boundaries of characters (`splitWords_slices`).

Either way a character ends the word under construction, or begins a new one, or goes on with it
(`wordsFrom_step`). It follows by induction on the characters that the words are the identifier
without its separators, and that no capital follows a small letter or a digit in a word
(`IsUnbroken`).
-/

set_option autoImplicit false

namespace ResourceInference.Naming

/-! ## Cutting bytes -/

/-- A range of byte positions: the first one, and the one behind the last. -/
structure ByteRange where
  start : Nat
  stop : Nat

/-- The range between two positions, as a list of at most one range: an empty one is left out. -/
def emitRange (start stop : Nat) : List ByteRange := if start < stop then [⟨start, stop⟩] else []

/-- The ranges of words from the position `i` on, where the word under construction starts at
`start`. A byte is taken for the character of its code. -/
def rangesFrom (bytes : ByteArray) (start i : Nat) : List ByteRange :=
  if inside : i < bytes.size then
    let c := bytes[i].toChar
    if isSeparator c then emitRange start i ++ rangesFrom bytes (i + 1) (i + 1)
    else if start < i ∧
        startsWord bytes[i - 1].toChar c (bytes[i + 1]?.map UInt8.toChar).toList = true then
      ⟨start, i⟩ :: rangesFrom bytes i (i + 1)
    else rangesFrom bytes start (i + 1)
  else emitRange start bytes.size
termination_by bytes.size - i

/-- The ranges of the words of an identifier in its UTF-8 bytes. -/
def wordRanges (s : String) : List ByteRange := rangesFrom s.toByteArray 0 0

/-- The text of a range of bytes. There is none if the range does not lie in the text, or cuts a
character in two. -/
def slice? (s : String) (range : ByteRange) : Option String :=
  if ends : String.Pos.Raw.IsValid s ⟨range.start⟩ ∧ String.Pos.Raw.IsValid s ⟨range.stop⟩ ∧
      range.start ≤ range.stop then
    some (String.extract ⟨⟨range.start⟩, ends.1⟩ ⟨⟨range.stop⟩, ends.2.1⟩)
  else none

theorem slice?_eq_some {s word : String} {range : ByteRange} (h : slice? s range = some word) :
    String.Pos.Raw.IsValid s ⟨range.start⟩ ∧ String.Pos.Raw.IsValid s ⟨range.stop⟩ ∧
      range.start ≤ range.stop := by
  rw [slice?] at h
  split at h
  · assumption
  · cases h

theorem slice?_middle (before word after : String) :
    slice? (before ++ word ++ after)
      ⟨before.utf8ByteSize, before.utf8ByteSize + word.utf8ByteSize⟩ = some word := by
  have start : String.Pos.Raw.IsValid (before ++ word ++ after) ⟨before.utf8ByteSize⟩ :=
    String.Pos.Raw.isValid_iff_exists_append.2
      ⟨before, word ++ after, String.append_assoc, rfl⟩
  have stop : String.Pos.Raw.IsValid (before ++ word ++ after)
      ⟨before.utf8ByteSize + word.utf8ByteSize⟩ :=
    String.Pos.Raw.isValid_iff_exists_append.2
      ⟨before ++ word, after, rfl, by simp [String.Pos.Raw.ext_iff]⟩
  have cut := ByteArray.extract_append_size_add (a := before.toByteArray)
    (b := word.toByteArray ++ after.toByteArray) (i := 0) (j := word.toByteArray.size)
  rw [slice?, dif_pos ⟨start, stop, Nat.le_add_right ..⟩, Option.some_inj,
    ← String.toByteArray_inj, String.toByteArray_extract, String.toByteArray_append,
    String.toByteArray_append, ByteArray.append_assoc]
  exact cut.trans (ByteArray.extract_append_eq_left rfl)

section

variable {bytes : ByteArray} {start i : Nat} {a b : UInt8}

theorem getElem_of_getElem? (h : bytes[i]? = some b) : ∃ inside : i < bytes.size, bytes[i] = b := by
  by_cases inside : i < bytes.size
  · rw [getElem?_pos bytes i inside] at h
    exact ⟨inside, Option.some.inj h⟩
  · rw [getElem?_neg bytes i inside] at h
    cases h

theorem rangesFrom_end (done : bytes.size ≤ i) :
    rangesFrom bytes start i = emitRange start bytes.size := by
  rw [rangesFrom, dif_neg (Nat.not_lt.2 done)]

theorem rangesFrom_separator (here : bytes[i]? = some b) (separates : isSeparator b.toChar = true) :
    rangesFrom bytes start i = emitRange start i ++ rangesFrom bytes (i + 1) (i + 1) := by
  obtain ⟨inside, rfl⟩ := getElem_of_getElem? here
  rw [rangesFrom, dif_pos inside]
  exact if_pos separates

theorem rangesFrom_start (later : start < i) (last : bytes[i - 1]? = some a)
    (here : bytes[i]? = some b) (inWord : isSeparator b.toChar = false)
    (starts : startsWord a.toChar b.toChar (bytes[i + 1]?.map UInt8.toChar).toList = true) :
    rangesFrom bytes start i = emitRange start i ++ rangesFrom bytes i (i + 1) := by
  obtain ⟨_, rfl⟩ := getElem_of_getElem? last
  obtain ⟨inside, rfl⟩ := getElem_of_getElem? here
  rw [rangesFrom, dif_pos inside, emitRange, if_pos later]
  simp only [inWord, Bool.false_eq_true, if_false]
  exact if_pos ⟨later, starts⟩

theorem rangesFrom_next (here : bytes[i]? = some b) (inWord : isSeparator b.toChar = false)
    (goesOn : ∀ a, start < i → bytes[i - 1]? = some a →
      startsWord a.toChar b.toChar (bytes[i + 1]?.map UInt8.toChar).toList = false) :
    rangesFrom bytes start i = rangesFrom bytes start (i + 1) := by
  obtain ⟨inside, rfl⟩ := getElem_of_getElem? here
  rw [rangesFrom, dif_pos inside]
  simp only [inWord, Bool.false_eq_true, if_false]
  refine if_neg fun ⟨later, starts⟩ => ?_
  have last : bytes[i - 1]? = some bytes[i - 1] := getElem?_pos ..
  cases (goesOn _ later last).symm.trans starts

/-- Bytes that are neither separators nor capitals are passed over. -/
theorem rangesFrom_skip {n : Nat}
    (plain : ∀ k < n, ∃ b, bytes[i + k]? = some b ∧ isSeparator b.toChar = false ∧
      b.toChar.isUpper = false) :
    rangesFrom bytes start i = rangesFrom bytes start (i + n) := by
  induction n with
  | zero => rfl
  | succ n ih =>
      obtain ⟨b, here, inWord, noCapital⟩ := plain n (Nat.lt_succ_self n)
      rw [ih fun k within => plain k (Nat.lt_succ_of_lt within), ← Nat.add_assoc]
      refine rangesFrom_next here inWord fun a _ _ => ?_
      rw [startsWord, noCapital, Bool.false_and]

end

/-! ## Bytes and characters -/

/-- The byte stands for a character: it is its code, or neither is ASCII. -/
def IsByteOf (b : UInt8) (c : Char) : Prop := b.toChar = c ∨ 128 ≤ b.toNat ∧ 128 ≤ c.toNat

/-- Only ASCII characters are of a kind. -/
def OfAscii (kind : Char → Bool) : Prop := ∀ c : Char, 128 ≤ c.toNat → kind c = false

/-- A byte is of the kinds of the character that it stands for. -/
theorem IsByteOf.kind_eq {b : UInt8} {c : Char} (h : IsByteOf b c) {kind : Char → Bool}
    (only : OfAscii kind) : kind b.toChar = kind c := by
  rcases h with same | ⟨largeByte, large⟩
  · rw [same]
  · exact (only b.toChar largeByte).trans (only c large).symm

theorem OfAscii.lt {kind : Char → Bool} (only : OfAscii kind) {c : Char} (h : kind c = true) :
    c.toNat < 128 := by
  refine Nat.lt_of_not_le fun large => ?_
  cases (only c large).symm.trans h

theorem OfAscii.of_lt {kind : Char → Bool} (small : ∀ c, kind c = true → c.toNat < 128) :
    OfAscii kind :=
  fun c large => Bool.eq_false_iff.2 fun ofKind => Nat.not_lt.2 large (small c ofKind)

theorem isSeparator_iff (c : Char) : isSeparator c = true ↔ c ∈ ['_', ' ', '-', '.'] := by
  simp [isSeparator, or_assoc]

theorem ofAscii_isSeparator : OfAscii isSeparator := by
  have small : ∀ c ∈ ['_', ' ', '-', '.'], c.toNat < 128 := by simp
  exact .of_lt fun c separates => small c ((isSeparator_iff c).1 separates)

theorem ofAscii_isUpper : OfAscii Char.isUpper :=
  .of_lt fun c upper => Nat.lt_of_le_of_lt ((isUpper_iff c).1 upper).2 (by decide)

theorem ofAscii_isLower : OfAscii Char.isLower :=
  .of_lt fun c lower => Nat.lt_of_le_of_lt ((isLower_iff c).1 lower).2 (by decide)

theorem ofAscii_isDigit : OfAscii Char.isDigit :=
  .of_lt fun c digit => Nat.lt_of_le_of_lt ((isDigit_iff c).1 digit).2 (by decide)

theorem encoding_of_ascii {c : Char} (ascii : c.toNat < 128) :
    ∃ b, String.utf8EncodeChar c = [b] ∧ b.toChar = c := by
  have size : c.utf8Size = 1 := Char.utf8Size_eq_one_iff.2 (Nat.le_of_lt_succ ascii)
  refine ⟨_, String.utf8EncodeChar_eq_singleton size, Char.ext (UInt32.toNat_inj.1 ?_)⟩
  change c.val.toUInt8.toUInt32.toNat = c.toNat
  rw [UInt8.toNat_toUInt32, UInt32.toNat_toUInt8]
  exact Nat.mod_eq_of_lt (Nat.lt_trans ascii (by decide))

theorem encoding_of_large {c : Char} (large : 128 ≤ c.toNat) :
    ∀ b ∈ String.utf8EncodeChar c, 128 ≤ b.toNat := by
  have code : c.val.toNat = c.toNat := rfl
  have noAscii : ¬ c.toNat ≤ 0x7f := by omega
  simp only [String.utf8EncodeChar, code, if_neg noAscii]
  -- The first byte has its highest two bits set, and each one after it the highest one.
  split
  · simp only [List.mem_cons, List.not_mem_nil, or_false, forall_eq_or_imp, forall_eq,
      UInt8.toNat_ofNat']
    omega
  · split
    all_goals
      simp only [List.mem_cons, List.not_mem_nil, or_false, forall_eq_or_imp, forall_eq,
        UInt8.toNat_ofNat']
      omega

theorem isByteOf_of_mem {b : UInt8} {c : Char} (h : b ∈ String.utf8EncodeChar c) :
    IsByteOf b c := by
  by_cases ascii : c.toNat < 128
  · obtain ⟨only, encoding, same⟩ := encoding_of_ascii ascii
    rw [encoding, List.mem_singleton] at h
    exact .inl (h ▸ same)
  · have large := Nat.le_of_not_lt ascii
    exact .inr ⟨encoding_of_large large b h, large⟩

/-! ## Positions of characters -/

/-- The number of bytes of characters. -/
def byteCount (cs : List Char) : Nat := (cs.flatMap String.utf8EncodeChar).length

theorem byteCount_append (cs ds : List Char) :
    byteCount (cs ++ ds) = byteCount cs + byteCount ds := by
  simp [byteCount]

theorem byteCount_singleton (c : Char) : byteCount [c] = (String.utf8EncodeChar c).length := by
  simp [byteCount]

theorem length_encoding_pos (c : Char) : 0 < (String.utf8EncodeChar c).length := by
  rw [String.length_utf8EncodeChar]
  exact c.utf8Size_pos

theorem byteCount_lt {front word : List Char} (nonempty : word ≠ []) :
    byteCount front < byteCount (front ++ word) := by
  obtain ⟨c, rest, rfl⟩ := List.exists_cons_of_ne_nil nonempty
  rw [← List.singleton_append, byteCount_append, byteCount_append, byteCount_singleton]
  have pos := length_encoding_pos c
  omega

theorem size_utf8Encode (cs : List Char) : cs.utf8Encode.size = byteCount cs := by
  rw [List.utf8Encode, List.size_toByteArray, byteCount]

theorem utf8ByteSize_ofList (cs : List Char) : (String.ofList cs).utf8ByteSize = byteCount cs := by
  rw [← String.size_toByteArray, String.toByteArray_ofList, size_utf8Encode]

theorem getElem?_utf8Encode (cs : List Char) (i : Nat) :
    cs.utf8Encode[i]? = (cs.flatMap String.utf8EncodeChar)[i]? := by
  by_cases inside : i < cs.utf8Encode.size
  · have within : i < (cs.flatMap String.utf8EncodeChar).length := by
      rwa [size_utf8Encode] at inside
    rw [getElem?_pos cs.utf8Encode i inside, List.getElem?_eq_getElem within]
    exact congrArg some List.getElem_toByteArray
  · rw [getElem?_neg cs.utf8Encode i inside, List.getElem?_eq_none]
    rwa [size_utf8Encode, Nat.not_lt] at inside

section

variable (before rest : List Char) {c : Char}

theorem exists_byte {k : Nat} (within : k < (String.utf8EncodeChar c).length) :
    ∃ b, (before ++ c :: rest).utf8Encode[byteCount before + k]? = some b ∧ IsByteOf b c := by
  refine ⟨_, ?_, isByteOf_of_mem (List.getElem_mem within)⟩
  rw [getElem?_utf8Encode, List.flatMap_append, byteCount,
    List.getElem?_append_right (Nat.le_add_right ..), Nat.add_sub_cancel_left, List.flatMap_cons,
    List.getElem?_append_left within, List.getElem?_eq_getElem within]

/-- An ASCII character is one byte. -/
theorem ascii_byte (ascii : c.toNat < 128) :
    ∃ b, (before ++ c :: rest).utf8Encode[byteCount before]? = some b ∧ b.toChar = c ∧
      byteCount (before ++ [c]) = byteCount before + 1 := by
  obtain ⟨b, encoding, same⟩ := encoding_of_ascii ascii
  refine ⟨b, ?_, same, ?_⟩
  · rw [getElem?_utf8Encode, List.flatMap_append, byteCount,
      List.getElem?_append_right (Nat.le_refl _), Nat.sub_self, List.flatMap_cons, encoding]
    rfl
  · rw [byteCount_append, byteCount_singleton, encoding]
    rfl

/-- The byte in front of a position stands for the character in front of it. -/
theorem exists_last (front : List Char) {word : List Char} {prev : Char}
    (last : word.head? = some prev) :
    ∃ a, (front ++ word.reverse ++ rest).utf8Encode[byteCount (front ++ word.reverse) - 1]? =
      some a ∧ IsByteOf a prev := by
  obtain ⟨word, rfl⟩ := List.head?_eq_some_iff.1 last
  have pos := length_encoding_pos prev
  have place : byteCount (front ++ (prev :: word).reverse) - 1 =
      byteCount (front ++ word.reverse) + ((String.utf8EncodeChar prev).length - 1) := by
    rw [List.reverse_cons, ← List.append_assoc, byteCount_append _ [prev], byteCount_singleton]
    omega
  rw [place, List.reverse_cons, ← List.append_assoc, List.append_assoc _ [prev]]
  exact exists_byte _ _ (by omega)

/-- The byte behind an ASCII character is a small letter exactly if the next character is one. -/
theorem isLower_next (ascii : c.toNat < 128) :
    (((before ++ c :: rest).utf8Encode[byteCount before + 1]?.map UInt8.toChar).toList.head?.map
      Char.isLower).getD false = (rest.head?.map Char.isLower).getD false := by
  obtain ⟨b, -, -, place⟩ := ascii_byte before rest ascii
  rw [← place, ← List.singleton_append, ← List.append_assoc]
  cases rest with
  | nil =>
      have beyond : (before ++ [c] ++ []).utf8Encode[byteCount (before ++ [c])]? = none := by
        rw [List.append_nil, getElem?_neg]
        rw [size_utf8Encode]
        exact Nat.lt_irrefl _
      rw [beyond]
      rfl
  | cons d after =>
      obtain ⟨next, there, stands⟩ := exists_byte (before ++ [c]) after (length_encoding_pos d)
      rw [Nat.add_zero] at there
      rw [there]
      exact stands.kind_eq ofAscii_isLower

/-- A word starts at a byte where it starts at the character of the byte. -/
theorem startsWord_bytes {prev : Char} {a b : UInt8} (last : IsByteOf a prev) (same : b.toChar = c)
    (ascii : c.toNat < 128) :
    startsWord a.toChar b.toChar
      ((before ++ c :: rest).utf8Encode[byteCount before + 1]?.map UInt8.toChar).toList =
        startsWord prev c rest := by
  rw [startsWord, startsWord, same, isLower_next before rest ascii, last.kind_eq ofAscii_isLower,
    last.kind_eq ofAscii_isDigit, last.kind_eq ofAscii_isUpper]

end

/-! ## Steps -/

section

variable {front word rest : List Char} {c prev : Char}

theorem isUpper_of_startsWord (starts : startsWord prev c rest = true) : c.isUpper = true := by
  rw [startsWord, Bool.and_eq_true] at starts
  exact starts.1

/-- A character is a separator, or starts a word, or goes on with the word under construction. -/
theorem wordsFrom_step (word : List Char) (c : Char) (rest : List Char) :
    (isSeparator c = true ∧ wordsFrom word (c :: rest) = emitWord word ++ wordsFrom [] rest) ∨
    (isSeparator c = false ∧ ∃ prev, word.head? = some prev ∧ startsWord prev c rest = true ∧
      wordsFrom word (c :: rest) = emitWord word ++ wordsFrom [c] rest) ∨
    (isSeparator c = false ∧ (∀ prev, word.head? = some prev → startsWord prev c rest = false) ∧
      wordsFrom word (c :: rest) = wordsFrom (c :: word) rest) := by
  cases separates : isSeparator c with
  | true => exact .inl ⟨rfl, wordsFrom_cons_of_isSeparator separates⟩
  | false =>
      cases word with
      | nil => exact .inr (.inr ⟨rfl, by simp, by simp [wordsFrom, separates]⟩)
      | cons prev word =>
          cases starts : startsWord prev c rest with
          | true =>
              exact .inr (.inl ⟨rfl, prev, rfl, starts, by simp [wordsFrom, separates, starts]⟩)
          | false =>
              refine .inr (.inr ⟨rfl, ?_, by simp [wordsFrom, separates, starts]⟩)
              rintro _ ⟨⟩
              exact starts

variable (front word rest c)

theorem rangesFrom_of_isSeparator (separates : isSeparator c = true) :
    rangesFrom (front ++ word.reverse ++ c :: rest).utf8Encode (byteCount front)
        (byteCount (front ++ word.reverse)) =
      emitRange (byteCount front) (byteCount (front ++ word.reverse)) ++
        rangesFrom (front ++ word.reverse ++ c :: rest).utf8Encode
          (byteCount (front ++ word.reverse ++ [c]))
            (byteCount (front ++ word.reverse ++ [c])) := by
  have ascii := ofAscii_isSeparator.lt separates
  obtain ⟨b, here, same, place⟩ := ascii_byte (front ++ word.reverse) rest ascii
  rw [rangesFrom_separator here (by rwa [same]), place]

theorem rangesFrom_of_startsWord (inWord : isSeparator c = false) (last : word.head? = some prev)
    (starts : startsWord prev c rest = true) :
    rangesFrom (front ++ word.reverse ++ c :: rest).utf8Encode (byteCount front)
        (byteCount (front ++ word.reverse)) =
      emitRange (byteCount front) (byteCount (front ++ word.reverse)) ++
        rangesFrom (front ++ word.reverse ++ c :: rest).utf8Encode
          (byteCount (front ++ word.reverse)) (byteCount (front ++ word.reverse ++ [c])) := by
  have ascii := ofAscii_isUpper.lt (isUpper_of_startsWord starts)
  have later : byteCount front < byteCount (front ++ word.reverse) := by
    refine byteCount_lt fun empty => ?_
    rw [List.reverse_eq_nil_iff.1 empty] at last
    cases last
  obtain ⟨a, there, stands⟩ := exists_last (c :: rest) front last
  obtain ⟨b, here, same, place⟩ := ascii_byte (front ++ word.reverse) rest ascii
  have starts' := (startsWord_bytes (front ++ word.reverse) rest stands same ascii).trans starts
  rw [rangesFrom_start later there here (by rwa [same]) starts', place]

theorem rangesFrom_inside (inWord : isSeparator c = false)
    (goesOn : ∀ prev, word.head? = some prev → startsWord prev c rest = false) :
    rangesFrom (front ++ word.reverse ++ c :: rest).utf8Encode (byteCount front)
        (byteCount (front ++ word.reverse)) =
      rangesFrom (front ++ word.reverse ++ c :: rest).utf8Encode (byteCount front)
        (byteCount (front ++ word.reverse ++ [c])) := by
  by_cases capital : c.isUpper = true
  · have ascii := ofAscii_isUpper.lt capital
    obtain ⟨b, here, same, place⟩ := ascii_byte (front ++ word.reverse) rest ascii
    rw [place]
    refine rangesFrom_next here (by rwa [same]) fun a later there => ?_
    cases last : word.head? with
    | none =>
        rw [List.head?_eq_none_iff.1 last, List.reverse_nil, List.append_nil] at later
        exact absurd later (Nat.lt_irrefl _)
    | some prev =>
        obtain ⟨a', there', stands⟩ := exists_last (c :: rest) front last
        cases there.symm.trans there'
        rw [startsWord_bytes _ _ stands same ascii]
        exact goesOn prev last
  · -- A character that is no capital may have several bytes, but no word starts at any of them.
    rw [byteCount_append _ [c], byteCount_singleton]
    refine rangesFrom_skip fun k within => ?_
    obtain ⟨b, here, stands⟩ := exists_byte (front ++ word.reverse) rest within
    refine ⟨b, here, (stands.kind_eq ofAscii_isSeparator).trans inWord, ?_⟩
    exact (stands.kind_eq ofAscii_isUpper).trans (Bool.eq_false_iff.2 capital)

end

/-! ## The slices -/

section

variable {s : String} {front word rest : List Char}

theorem slice?_word (whole : s.toList = front ++ word ++ rest) :
    slice? s ⟨byteCount front, byteCount (front ++ word)⟩ = some (String.ofList word) := by
  have text : s = String.ofList front ++ String.ofList word ++ String.ofList rest := by
    rw [← String.ofList_append, ← String.ofList_append, ← whole, String.ofList_toList]
  rw [text, byteCount_append, ← utf8ByteSize_ofList, ← utf8ByteSize_ofList]
  exact slice?_middle ..

theorem slices_emitRange (whole : s.toList = front ++ word.reverse ++ rest) :
    (emitRange (byteCount front) (byteCount (front ++ word.reverse))).map (slice? s) =
      (emitWord word).map fun w => some (String.ofList w) := by
  cases word with
  | nil => simp [emitRange, emitWord]
  | cons c word =>
      rw [emitRange, if_pos (byteCount_lt (by simp)), List.map_singleton, slice?_word whole]
      rfl

/-- The slices from a position on are the words that are found from there. -/
theorem slices_rangesFrom (rest : List Char) : ∀ front word : List Char,
    s.toList = front ++ word.reverse ++ rest →
      (rangesFrom s.toByteArray (byteCount front) (byteCount (front ++ word.reverse))).map
        (slice? s) = (wordsFrom word rest).map fun w => some (String.ofList w) := by
  induction rest with
  | nil =>
      intro front word whole
      have size : s.toByteArray.size = byteCount (front ++ word.reverse) := by
        rw [← String.utf8Encode_toList, size_utf8Encode, whole, List.append_nil]
      rw [rangesFrom_end (Nat.le_of_eq size), size, slices_emitRange whole, wordsFrom]
  | cons c rest ih =>
      intro front word whole
      have bytes : s.toByteArray = (front ++ word.reverse ++ c :: rest).utf8Encode := by
        rw [← String.utf8Encode_toList, whole]
      obtain ⟨separates, cut⟩ | ⟨inWord, prev, last, starts, cut⟩ | ⟨inWord, goesOn, same⟩ :=
        wordsFrom_step word c rest
      · have later := ih (front ++ word.reverse ++ [c]) [] (by simp [whole])
        rw [List.reverse_nil, List.append_nil] at later
        rw [bytes, rangesFrom_of_isSeparator front word rest c separates, ← bytes, List.map_append,
          slices_emitRange whole, later, cut, List.map_append]
      · have later := ih (front ++ word.reverse) [c] (by simp [whole])
        rw [List.reverse_singleton] at later
        rw [bytes, rangesFrom_of_startsWord front word rest c inWord last starts, ← bytes,
          List.map_append, slices_emitRange whole, later, cut, List.map_append]
      · have later := ih front (c :: word) (by simp [whole])
        rw [List.reverse_cons, ← List.append_assoc] at later
        rw [bytes, rangesFrom_inside front word rest c inWord goesOn, ← bytes, later, same]

theorem slices_wordRanges (s : String) :
    (wordRanges s).map (slice? s) = (splitWords s).map some := by
  have slices := slices_rangesFrom s.toList [] [] (s := s) rfl
  rw [splitWords, List.map_map]
  exact slices

end

/-! ## The words -/

/-- No small letter or digit stands in front of a capital. -/
def Joined (prev c : Char) : Prop :=
  c.isUpper = true → prev.isLower = false ∧ prev.isDigit = false

/-- Characters of a word: no separator is among them, and no capital follows a small letter or a
digit. -/
structure IsUnbroken (w : List Char) : Prop where
  inWord : ∀ c ∈ w, isSeparator c = false
  joined : w.IsChain Joined

theorem joined_of_not_startsWord {prev c : Char} {rest : List Char}
    (goesOn : startsWord prev c rest = false) : Joined prev c := by
  intro capital
  rw [startsWord, capital, Bool.true_and, Bool.or_eq_false_iff, Bool.or_eq_false_iff] at goesOn
  exact goesOn.1

theorem IsUnbroken.snoc {word rest : List Char} {c : Char} (h : IsUnbroken word.reverse)
    (inWord : isSeparator c = false)
    (goesOn : ∀ prev, word.head? = some prev → startsWord prev c rest = false) :
    IsUnbroken (c :: word).reverse := by
  refine ⟨fun d member => ?_, List.isChain_reverse.2 ?_⟩
  · rcases List.mem_cons.1 (List.mem_reverse.1 member) with rfl | earlier
    · exact inWord
    · exact h.inWord d (List.mem_reverse.2 earlier)
  · have joined := List.isChain_reverse.1 h.joined
    cases word with
    | nil => exact .singleton c
    | cons prev word => exact .cons_cons (joined_of_not_startsWord (goesOn prev rfl)) joined

theorem isUnbroken_singleton {c : Char} (inWord : isSeparator c = false) : IsUnbroken [c] :=
  ⟨by simpa using inWord, .singleton c⟩

theorem mem_emitWord {word w : List Char} (h : w ∈ emitWord word) : w = word.reverse ∧ w ≠ [] := by
  cases word with
  | nil => cases h
  | cons c word =>
      obtain rfl := List.mem_singleton.1 h
      exact ⟨rfl, by simp⟩

theorem isUnbroken_of_mem_wordsFrom {w : List Char} (rest : List Char) : ∀ word : List Char,
    IsUnbroken word.reverse → w ∈ wordsFrom word rest → w ≠ [] ∧ IsUnbroken w := by
  induction rest with
  | nil =>
      intro word unbroken member
      obtain ⟨rfl, nonempty⟩ := mem_emitWord member
      exact ⟨nonempty, unbroken⟩
  | cons c rest ih =>
      intro word unbroken member
      have ended : w ∈ emitWord word → w ≠ [] ∧ IsUnbroken w := by
        intro emitted
        obtain ⟨rfl, nonempty⟩ := mem_emitWord emitted
        exact ⟨nonempty, unbroken⟩
      obtain ⟨-, cut⟩ | ⟨inWord, prev, -, -, cut⟩ | ⟨inWord, goesOn, same⟩ :=
        wordsFrom_step word c rest
      · rw [cut, List.mem_append] at member
        exact member.elim ended (ih [] ⟨by simp, .nil⟩)
      · rw [cut, List.mem_append] at member
        exact member.elim ended (ih [c] (isUnbroken_singleton inWord))
      · rw [same] at member
        exact ih (c :: word) (unbroken.snoc inWord goesOn) member

theorem flatten_emitWord (word : List Char) : (emitWord word).flatten = word.reverse := by
  cases word with
  | nil => rfl
  | cons c word => simp [emitWord]

/-- The words are all characters but the separators. -/
theorem flatten_wordsFrom (rest : List Char) : ∀ word : List Char,
    (wordsFrom word rest).flatten = word.reverse ++ rest.filter (!isSeparator ·) := by
  induction rest with
  | nil =>
      intro word
      rw [wordsFrom, flatten_emitWord, List.filter_nil, List.append_nil]
  | cons c rest ih =>
      intro word
      have kept (inWord : isSeparator c = false) :
          (c :: rest).filter (!isSeparator ·) = c :: rest.filter (!isSeparator ·) :=
        List.filter_cons_of_pos (by simp [inWord])
      obtain ⟨separates, cut⟩ | ⟨inWord, prev, -, -, cut⟩ | ⟨inWord, -, same⟩ :=
        wordsFrom_step word c rest
      · have dropped : (c :: rest).filter (!isSeparator ·) = rest.filter (!isSeparator ·) :=
          List.filter_cons_of_neg (by simp [separates])
        rw [cut, List.flatten_append, flatten_emitWord, ih, dropped]
        rfl
      · rw [cut, List.flatten_append, flatten_emitWord, ih, kept inWord]
        rfl
      · rw [same, ih, kept inWord, List.reverse_cons, List.append_assoc]
        rfl

theorem join_splitWords (s : String) :
    String.join (splitWords s) = String.ofList (s.toList.filter (!isSeparator ·)) := by
  have all := flatten_wordsFrom s.toList []
  rw [List.reverse_nil, List.nil_append] at all
  rw [← String.toList_inj, String.toList_join, String.toList_ofList, ← all, splitWords,
    List.flatMap_map]
  simp

/-- The words of an identifier, whatever its characters, are slices of its bytes: every range that
the pass over its bytes cuts out lies in the identifier and on the boundaries of characters, and the
slices are the words, in order. No word is empty, none contains `_`, a space, `-` or `.`, all words
together are the identifier without these four characters, and in no word an ASCII capital follows
an ASCII small letter or a digit. -/
theorem splitWords_slices (s : String) :
    (∀ range ∈ wordRanges s, range.start ≤ range.stop ∧ range.stop ≤ s.utf8ByteSize ∧
      String.Pos.Raw.IsValid s ⟨range.start⟩ ∧ String.Pos.Raw.IsValid s ⟨range.stop⟩) ∧
    (wordRanges s).map (slice? s) = (splitWords s).map some ∧
    (∀ w ∈ splitWords s, w ≠ "" ∧ (∀ c ∈ w.toList, c ∉ ['_', ' ', '-', '.']) ∧
      w.toList.IsChain fun prev c =>
        c.isUpper = true → prev.isLower = false ∧ prev.isDigit = false) ∧
    String.join (splitWords s) = String.ofList (s.toList.filter (· ∉ ['_', ' ', '-', '.'])) := by
  have slices := slices_wordRanges s
  refine ⟨fun range member => ?_, slices, fun w member => ?_, ?_⟩
  · have isSlice := List.mem_map_of_mem (f := slice? s) member
    rw [slices] at isSlice
    obtain ⟨w, -, same⟩ := List.mem_map.1 isSlice
    obtain ⟨start, stop, order⟩ := slice?_eq_some same.symm
    exact ⟨order, stop.le_utf8ByteSize, start, stop⟩
  · obtain ⟨chars, found, rfl⟩ := List.mem_map.1 member
    obtain ⟨nonempty, unbroken⟩ := isUnbroken_of_mem_wordsFrom s.toList [] ⟨by simp, .nil⟩ found
    rw [String.toList_ofList]
    refine ⟨fun empty => nonempty ?_, fun c inside => ?_, unbroken.joined⟩
    · rwa [String.ofList_eq_empty_iff] at empty
    · rw [← isSeparator_iff, unbroken.inWord c inside]
      exact Bool.false_ne_true
  · have same : (!isSeparator ·) = fun c => decide (c ∉ ['_', ' ', '-', '.']) := by
      funext c
      rw [decide_not, ← Bool.decide_congr (isSeparator_iff c), Bool.decide_eq_true]
    rw [join_splitWords, same]

example : splitWords "naïveHTTPServer_v2.Size" = ["naïve", "HTTP", "Server", "v2", "Size"] := by
  decide +kernel

end ResourceInference.Naming
