import ResourceInference.Text.Case
import ResourceInference.Text.Split

/-!
# Kebab case

A title in kebab case: its words in lower case with `-` in between. A title is cut at everything
that is neither letter nor number, and inside a piece where case changes: behind a small letter
that a capital follows, and before the last of several capitals that a small letter follows.
-/

set_option autoImplicit false

namespace ResourceInference.Naming

/-- The case that letters of a word have had so far. -/
inductive WordCase where
  | unset
  | lower
  | upper
  deriving DecidableEq

/-- The case after a character; only letters with case change it. -/
def WordCase.after (before : WordCase) (c : Char) : WordCase :=
  if Text.isLowercase c then .lower else if Text.isUppercase c then .upper else before

/-- The words of the rest of a piece, where `word` holds the word under construction, last
character first. -/
def caseWordsFrom (word : List Char) (before : WordCase) : List Char → List (List Char)
  | [] => []
  | [c] => [(c :: word).reverse]
  | c :: next :: rest =>
    if before.after c = .lower && Text.isUppercase next then
      (c :: word).reverse :: caseWordsFrom [] .unset (next :: rest)
    else if before = .upper && Text.isUppercase c && Text.isLowercase next then
      word.reverse :: caseWordsFrom [c] .unset (next :: rest)
    else caseWordsFrom (c :: word) (before.after c) (next :: rest)

/-- A word in lower case; a sigma at its end is a final one. -/
def lowerWord : List Char → List Char
  | [] => []
  | [c] => if c = 'Σ' then ['ς'] else Text.lowerOf c
  | c :: next :: rest => Text.lowerOf c ++ lowerWord (next :: rest)

/-- The pieces of a text between characters that are neither letters nor numbers. -/
def alphanumericPieces (s : String) : List (List Char) :=
  Text.pieces '-' (s.toList.map fun c => if Text.isAlphanumeric c then c else '-')

/-- A title in kebab case. -/
def kebabCase (title : String) : String :=
  let words := (alphanumericPieces title).flatMap (caseWordsFrom [] .unset)
  Text.join '-' (words.map fun word => String.ofList (lowerWord word))

end ResourceInference.Naming
