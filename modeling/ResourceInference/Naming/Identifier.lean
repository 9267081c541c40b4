import ResourceInference.Text.Case
import ResourceInference.Text.Split

/-!
# Identifiers from wire names

A wire name is cut into words at `_`, space, `-` and `.`, each word keeps its ASCII letters and
digits, and every word after a separator starts with a capital. A name wholly in upper case is
put in lower case first. The result is written with a small first letter (`sdkName`) or a capital
one (`pascalCase`), and consists of ASCII letters and digits only, but for the `_` in front of an
SDK name that would start with a number.
-/

set_option autoImplicit false

namespace ResourceInference.Naming

/-- The characters that end a word. -/
def isSeparator (c : Char) : Bool := c == '_' || c == ' ' || c == '-' || c == '.'

/-- Join the words of a name. A letter is a capital if `start` says that a word starts with it;
what is neither an ASCII letter nor a digit is dropped. -/
def joinWords (start : Bool) : List Char → List Char
  | [] => []
  | c :: cs =>
    let kept :=
      if c.isUpper || c.isDigit then [c]
      else if c.isLower then [if start then c.toUpper else c]
      else []
    kept ++ joinWords (isSeparator c) cs

/-- A name wholly in upper case in lower case, any other name unchanged. -/
def relaxCase (s : String) : String := if s = Text.upper s then Text.lower s else s

/-- The words of a name joined, the first of them with a capital if `start`. -/
def camelCase (start : Bool) (s : String) : List Char :=
  joinWords start (Text.trimBoth (· == ' ') (relaxCase s).toList)

/-- Digits at the start, then any number of `_`, then a letter. -/
def startsWithNumberChars (cs : List Char) : Bool :=
  (cs.head?.map Char.isDigit).getD false &&
    (((cs.dropWhile Char.isDigit).dropWhile (· == '_')).head?.map Char.isAlpha).getD false

/-- Whether a name starts as a number and goes on as a word, which no identifier may. -/
def startsWithNumber (s : String) : Bool := startsWithNumberChars s.toList

/-- The first letter in lower case. -/
def lowerFirst : List Char → List Char
  | [] => []
  | c :: cs => c.toLower :: cs

/-- The name of a property or parameter in the generated schema: words joined, the first letter
small, `_` in front of a leading number. -/
def sdkName (raw : String) : String :=
  let name := lowerFirst (camelCase false raw)
  String.ofList (if startsWithNumberChars name then '_' :: name else name)

/-- The words of a name joined, each with a capital. -/
def pascalCase (raw : String) : String := String.ofList (camelCase true raw)

/-! ## Words of an identifier -/

/-- Whether a word ends between `prev` and the capital `c`: after a small letter or a digit, and
before the last capital of a row of capitals that a small letter follows. -/
def startsWord (prev c : Char) (rest : List Char) : Bool :=
  c.isUpper &&
    (prev.isLower || prev.isDigit ||
      (prev.isUpper && (rest.head?.map Char.isLower).getD false))

/-- A word under construction, last character first, as a list of at most one word. -/
def emitWord (word : List Char) : List (List Char) :=
  if word.isEmpty then [] else [word.reverse]

/-- Words of the rest of an identifier, where `word` holds the word under construction, last
character first. -/
def wordsFrom (word : List Char) : List Char → List (List Char)
  | [] => emitWord word
  | c :: rest =>
    if isSeparator c then emitWord word ++ wordsFrom [] rest
    else match word with
      | [] => wordsFrom [c] rest
      | prev :: _ =>
        if startsWord prev c rest then emitWord word ++ wordsFrom [c] rest
        else wordsFrom (c :: word) rest

/-- The words of an identifier, each with its own spelling: cut at separators, which are dropped,
and where a capital starts a word. -/
def splitWords (s : String) : List String := (wordsFrom [] s.toList).map String.ofList

/-- A name in snake case as one in camel case: `get_vms_restart` is `getVmsRestart`. -/
def mergeSnakeCase (s : String) : String :=
  match Text.split '_' s with
  | [] => ""
  | first :: rest => rest.foldl (fun merged part => merged ++ pascalCase part) first

end ResourceInference.Naming
