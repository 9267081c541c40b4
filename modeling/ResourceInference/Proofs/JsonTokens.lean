import Mathlib.Data.List.Forall2
import Mathlib.Tactic.SplitIfs
import ResourceInference.Json.Lexer
import ResourceInference.Json.Printer

/-!
# The tokens of written values

What is written as JSON is cut into the tokens that it was written from. A number or a word ends
only where the text goes on with something else, so every piece of text is looked at with what may
follow it (`Spell`): the pieces of a value are then put together one by one.

That the text of a number is read as the number is assumed of each number that is written
(`ReadsBack`).
-/

set_option autoImplicit false

namespace ResourceInference.Json

/-! ## Words and numbers -/

theorem readExponent_ok {negative : Bool} {significand : Nat} {shift : Int} {cs : List Char}
    {n : Number} {atEnd : ReadError} (other : ReadError) :
    readExponent negative significand shift atEnd cs = .ok n →
      readExponent negative significand shift other cs = .ok n := by
  unfold readExponent
  dsimp only
  split
  · exact nofun
  · exact id

theorem readFraction_ok {negative : Bool} {significand dropped : Nat} {cs : List Char}
    {n : Number} {atEnd : ReadError} (other : ReadError) :
    readFraction negative significand dropped atEnd cs = .ok n →
      readFraction negative significand dropped other cs = .ok n := by
  unfold readFraction
  dsimp only
  split
  · split
    · split <;> exact nofun
    · split
      · exact id
      · split
        · exact readExponent_ok other
        · exact nofun
  · split
    · exact readExponent_ok other
    · exact nofun
  · exact id

/-- What a number is does not depend on what would be wrong with it. -/
theorem readNumber_ok {cs : List Char} {n : Number} {atEnd : ReadError} (other : ReadError) :
    readNumber atEnd cs = .ok n → readNumber other cs = .ok n := by
  unfold readNumber
  split
  split
  · intro failed
    cases failed
  · split
    · intro failed
      cases failed
    · exact readFraction_ok other
  · split
    · exact readFraction_ok other
    · intro failed
      cases failed

theorem readWord_ok {word : List Char} {value : Literal} {atEnd : ReadError} (other : ReadError) :
    readWord atEnd word = .ok value → readWord other word = .ok value := by
  unfold readWord
  split
  · exact id
  · split
    · exact id
    · split
      · exact id
      · split <;> exact nofun

/-- A token that the text did not break off or misspell. -/
def Token.IsWhole : Token → Prop
  | .broken _ _ => False
  | _ => True

/-- What stands here cannot go on with a number or a word. -/
def Delimits (rest : List Char) : Prop :=
  ∀ c ∈ rest.head?, isNumberChar c = false ∧ c.isAlphanum = false

theorem delimits_cons {c : Char} (ends : isNumberChar c = false ∧ c.isAlphanum = false)
    (rest : List Char) : Delimits (c :: rest) := by
  rintro _ ⟨⟩
  exact ends

theorem numberToken_whole {read : List Char} {atEnd : ReadError} (other : ReadError)
    (whole : (numberToken atEnd read).IsWhole) :
    numberToken other read = numberToken atEnd read := by
  cases value : readNumber atEnd read.reverse with
  | ok n => simp only [numberToken, value, readNumber_ok other value]
  | error cause => simp [numberToken, value, Token.IsWhole] at whole

theorem wordToken_whole {read : List Char} {atEnd : ReadError} (other : ReadError)
    (whole : (wordToken atEnd read).IsWhole) :
    wordToken other read = wordToken atEnd read := by
  cases value : readWord atEnd read.reverse with
  | ok n => simp only [wordToken, value, readWord_ok other value]
  | error cause => simp [wordToken, value, Token.IsWhole] at whole

/-- The end of whole tokens is where the next ones start, if a character ends the last of them. -/
theorem tokens_finish {mode : Mode} {rest : List Char} (delimited : Delimits rest)
    (whole : ∀ token ∈ finish mode, token.IsWhole) :
    tokens mode rest = finish mode ++ tokens .between rest := by
  cases rest with
  | nil => simp [tokens, finish]
  | cons c rest =>
    obtain ⟨notNumber, notWord⟩ := delimited c rfl
    cases mode with
    | between => rfl
    | inNumber read =>
      have same := numberToken_whole .malformed (whole _ List.mem_cons_self)
      simp [tokens, step, finish, notNumber, same]
    | inWord read =>
      have same := wordToken_whole .malformed (whole _ List.mem_cons_self)
      simp [tokens, step, finish, notWord, same]
    | inString | escaped | unicode | halfPair | halfPairEscaped =>
      exact absurd (whole _ List.mem_cons_self) id

/-- Whole tokens are the same whatever follows them, if a character ends the last of them. -/
theorem tokens_append {mode : Mode} {cs rest : List Char} (delimited : Delimits rest)
    (whole : ∀ token ∈ tokens mode cs, token.IsWhole) :
    tokens mode (cs ++ rest) = tokens mode cs ++ tokens .between rest := by
  induction cs generalizing mode with
  | nil => exact tokens_finish delimited whole
  | cons c cs ih =>
    have later := @ih (step mode c).2 fun token member =>
      whole token (List.mem_append_right _ member)
    simp only [tokens, List.cons_append, List.append_assoc, later]

/-! ## Strings -/

/-- The two digits of a control character spell it. -/
theorem hexNumber?_hexDigit : ∀ n : Fin 32,
    hexNumber? ['0', '0', hexDigit (n / 16), hexDigit (n % 16)] = some n := by decide

/-- An escaped character is read as the character. -/
theorem tokens_escapeChar (read : List Char) (c : Char) (rest : List Char) :
    tokens (.inString read) (escapeChar c ++ rest) = tokens (.inString (c :: read)) rest := by
  have named : ∀ char code : Char, code ≠ 'u' → escape? code = some char →
      tokens (.inString read) (['\\', code] ++ rest) = tokens (.inString (char :: read)) rest := by
    intro char code notUnit found
    simp [tokens, step, notUnit, found]
  unfold escapeChar
  split_ifs with quote backslash visible newline tab back backspace feed
  · subst c
    exact named _ _ (by decide) rfl
  · subst c
    exact named _ _ (by decide) rfl
  · have unescaped : ¬ c.toNat < 32 := by omega
    simp [tokens, step, quote, backslash, unescaped]
  · subst c
    exact named _ _ (by decide) rfl
  · subst c
    exact named _ _ (by decide) rfl
  · subst c
    exact named _ _ (by decide) rfl
  · obtain rfl : c = '\x08' := Char.toNat_inj.1 backspace
    exact named _ _ (by decide) rfl
  · obtain rfl : c = '\x0c' := Char.toNat_inj.1 feed
    exact named _ _ (by decide) rfl
  · -- What is left is a control character without a name of its own: no half of a pair.
    have digits := hexNumber?_hexDigit ⟨c.toNat, by omega⟩
    have notHigh : ¬ 0xD800 ≤ c.toNat := by omega
    have notLow : ¬ 0xDC00 ≤ c.toNat := by omega
    simp only at digits
    simp [tokens, step, digits, afterUnit, notHigh, notLow]

/-- The escaped characters of a string are read as the string. -/
theorem tokens_quoted (cs : List Char) :
    ∀ read rest, tokens (.inString read) (cs.flatMap escapeChar ++ '"' :: rest) =
      .string (String.ofList (read.reverse ++ cs)) :: tokens .between rest := by
  induction cs with
  | nil =>
    intro read rest
    simp [tokens, step, stringToken]
  | cons c cs ih =>
    intro read rest
    rw [List.flatMap_cons, List.append_assoc, tokens_escapeChar, ih]
    simp

/-! ## Values -/

mutual

/-- The tokens of a value that is written on one line. -/
def valueTokens : Value → List Token
  | .null => [.literal .null]
  | .bool b => [.literal (.bool b)]
  | .number n => [.literal (.number n)]
  | .string s => [.string s]
  | .list items => .openList :: ([.comma].intercalate (itemTokens items) ++ [.closeList])
  | .object entries =>
    .openObject :: ([.comma].intercalate (entryTokens entries) ++ [.closeObject])

/-- The tokens of each item of a list. -/
def itemTokens : List Value → List (List Token)
  | [] => []
  | item :: rest => valueTokens item :: itemTokens rest

/-- The tokens of each entry of an object. -/
def entryTokens : List (String × Value) → List (List Token)
  | [] => []
  | (key, value) :: rest => (.string key :: .colon :: valueTokens value) :: entryTokens rest

end

mutual

/-- The numbers in a value. -/
def numbers : Value → List Number
  | .number n => [n]
  | .list items => numbersOfItems items
  | .object entries => numbersOfEntries entries
  | _ => []

/-- The numbers in the items of a list. -/
def numbersOfItems : List Value → List Number
  | [] => []
  | item :: rest => numbers item ++ numbersOfItems rest

/-- The numbers in the entries of an object. -/
def numbersOfEntries : List (String × Value) → List Number
  | [] => []
  | (_, value) :: rest => numbers value ++ numbersOfEntries rest

end

/-- The text of the number is read as the number. -/
def ReadsBack (n : Number) : Prop := tokens .between n.render.toList = [.literal (.number n)]

/-- The characters spell the tokens, whatever follows that cannot go on with the last of them. -/
structure Spell (cs : List Char) (spelt : List Token) : Prop where
  tokens : ∀ rest, Delimits rest → tokens .between (cs ++ rest) = spelt ++ tokens .between rest

namespace Spell

theorem literal {cs : List Char} {value : Literal}
    (spelt : Json.tokens .between cs = [.literal value]) : Spell cs [.literal value] := by
  refine ⟨fun rest delimited => ?_⟩
  have whole : ∀ token ∈ Json.tokens .between cs, token.IsWhole := by
    simp [spelt, Token.IsWhole]
  rw [tokens_append delimited whole, spelt]

/-- Punctuation spells itself, whatever follows. -/
theorem cons {c : Char} {token : Token} {cs : List Char} {spelt : List Token}
    (solid : isSpace c = false) (punctuation : punctuation? c = some token) (h : Spell cs spelt) :
    Spell (c :: cs) (token :: spelt) := by
  refine ⟨fun rest delimited => ?_⟩
  simp [Json.tokens, step, start, solid, punctuation, h.tokens rest delimited]

theorem nil : Spell [] [] := ⟨fun _ _ => rfl⟩

theorem append {cs more : List Char} {spelt further : List Token} (h : Spell cs spelt)
    (later : Spell more further) (apart : ∀ rest, Delimits rest → Delimits (more ++ rest)) :
    Spell (cs ++ more) (spelt ++ further) := by
  refine ⟨fun rest delimited => ?_⟩
  rw [List.append_assoc, h.tokens _ (apart rest delimited), later.tokens rest delimited,
    List.append_assoc]

theorem quote (s : String) : Spell (Json.quote s).toList [.string s] := by
  refine ⟨fun rest _ => ?_⟩
  have quoted := tokens_quoted s.toList [] rest
  have opening : step .between '"' = ([], .inString []) := rfl
  simp only [Json.quote, String.toList_ofList, List.cons_append, List.append_assoc,
    List.nil_append, Json.tokens, opening, quoted]
  simp

/-- What is spelt one by one is spelt with commas between. -/
theorem intercalate {texts : List (List Char)} {spelt : List (List Token)}
    (each : List.Forall₂ Spell texts spelt) :
    Spell ([','].intercalate texts) ([.comma].intercalate spelt) := by
  induction each with
  | nil => exact nil
  | cons first others ih =>
    cases others with
    | nil => simpa using first
    | cons second others =>
      simp only [List.intercalate_cons_cons, List.append_assoc]
      exact first.append (cons (by decide) rfl ih) fun rest _ => delimits_cons (by decide) _

end Spell

mutual

theorem spell_compact : ∀ v : Value, (∀ n ∈ numbers v, ReadsBack n) →
    Spell (compact v).toList (valueTokens v)
  | .null, _ => .literal rfl
  | .bool false, _ => .literal rfl
  | .bool true, _ => .literal rfl
  | .number n, back => .literal (back n List.mem_cons_self)
  | .string s, _ => .quote s
  | .list items, back => by
    have inner := Spell.intercalate (spell_compactItems items back)
    have closing : Spell [']'] [.closeList] := .cons (by decide) rfl .nil
    have body := inner.append closing fun _ _ => delimits_cons (by decide) _
    have all := Spell.cons (c := '[') (by decide) rfl body
    simpa [compact, valueTokens, String.toList_intercalate] using all
  | .object entries, back => by
    have inner := Spell.intercalate (spell_compactEntries entries back)
    have closing : Spell ['\x7d'] [.closeObject] := .cons (by decide) rfl .nil
    have body := inner.append closing fun _ _ => delimits_cons (by decide) _
    have all := Spell.cons (c := '\x7b') (by decide) rfl body
    simpa [compact, valueTokens, String.toList_intercalate] using all

theorem spell_compactItems : ∀ items : List Value, (∀ n ∈ numbersOfItems items, ReadsBack n) →
    List.Forall₂ Spell ((compactItems items).map String.toList) (itemTokens items)
  | [], _ => .nil
  | item :: rest, back => by
    have first := spell_compact item fun n member => back n (List.mem_append_left _ member)
    have others := spell_compactItems rest fun n member => back n (List.mem_append_right _ member)
    exact .cons first others

theorem spell_compactEntries : ∀ entries : List (String × Value),
    (∀ n ∈ numbersOfEntries entries, ReadsBack n) →
    List.Forall₂ Spell ((compactEntries entries).map String.toList) (entryTokens entries)
  | [], _ => .nil
  | (key, value) :: rest, back => by
    have first := spell_compact value fun n member => back n (List.mem_append_left _ member)
    have others := spell_compactEntries rest fun n member => back n (List.mem_append_right _ member)
    have named := (Spell.quote key).append (.cons (c := ':') (by decide) rfl first)
      fun _ _ => delimits_cons (by decide) _
    refine .cons ?_ others
    simpa using named

end

end ResourceInference.Json
