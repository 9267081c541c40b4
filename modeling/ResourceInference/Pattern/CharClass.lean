import ResourceInference.Text.Case

/-!
# Classes of characters in patterns

A class is built from ranges and named sets by the operations of sets. `folded` closes a class
under change of case, over all scripts or over ASCII only.
-/

set_option autoImplicit false

namespace ResourceInference.Pattern

/-- A set of characters that has a name in patterns. -/
inductive NamedSet where
  | wordChar
  | decimalDigit
  | whiteSpace
  | alphabetic
  | uppercase
  | lowercase
  | cased
  | caseIgnorable
  | anyChar
  | ascii
  | assigned
  /-- A union of tables beyond ASCII, with its ASCII part as ranges. -/
  | tables (asciiRanges : List (Nat × Nat)) (tables : List (List Text.CodeRun))

/-- Whether a code point lies in one of several ranges, ends included. -/
def inRanges (ranges : List (Nat × Nat)) (code : Nat) : Bool :=
  ranges.any fun (low, high) => low ≤ code && code ≤ high

/-- The tables of all assigned categories. -/
def assignedTables : List (List Text.CodeRun) :=
  Text.letterTables ++ Text.markTables ++ Text.numberTables ++
    [Text.Category.pc, Text.Category.pd, Text.Category.ps, Text.Category.pe, Text.Category.pi,
      Text.Category.pf, Text.Category.po, Text.Category.sm, Text.Category.sc, Text.Category.sk,
      Text.Category.so, Text.Category.zs, Text.Category.zl, Text.Category.zp, Text.Category.cc,
      Text.Category.cf, Text.Category.co]

/-- Whether a character belongs to a named set. -/
def NamedSet.contains (set : NamedSet) (c : Char) : Bool :=
  match set with
  | wordChar => Text.isWordChar c
  | decimalDigit => Text.isDecimalDigit c
  | whiteSpace => Text.isWhiteSpace c
  | alphabetic => Text.isAlphabetic c
  | uppercase => Text.isUppercase c
  | lowercase => Text.isLowercase c
  | cased => Text.isCased c
  | caseIgnorable => Text.isCaseIgnorable c
  | anyChar => true
  | ascii => Text.isAscii c
  | assigned => Text.isAscii c || Text.inTables assignedTables c
  | tables asciiRanges beyond =>
    if Text.isAscii c then inRanges asciiRanges c.toNat else Text.inTables beyond c

/-- A class of characters. -/
inductive CharClass where
  /-- Ranges of code points, ends included. -/
  | ranges (ranges : List (Nat × Nat))
  | named (set : NamedSet)
  | complement (of : CharClass)
  | union (a b : CharClass)
  | intersection (a b : CharClass)
  | folded (asciiOnly : Bool) (of : CharClass)

namespace CharClass

/-- The class of one character. -/
def single (c : Char) : CharClass := ranges [(c.toNat, c.toNat)]

/-- The characters of `a` that are not in `b`. -/
def difference (a b : CharClass) : CharClass := intersection a (complement b)

/-- The characters that are in one of two classes and not in the other. -/
def symmetricDifference (a b : CharClass) : CharClass := union (difference a b) (difference b a)

/-- The characters that differ from `c` in case only. -/
def variants (asciiOnly : Bool) (c : Char) : List Char :=
  if asciiOnly then [c, c.toUpper, c.toLower] else c :: Text.caseVariants c

/-- Whether a character belongs to a class. -/
def contains : CharClass → Char → Bool
  | ranges rs, c => inRanges rs c.toNat
  | named set, c => set.contains c
  | complement a, c => !contains a c
  | union a b, c => contains a c || contains b c
  | intersection a b, c => contains a c && contains b c
  | folded asciiOnly a, c => (variants asciiOnly c).any (contains a)

/-- How many states a class takes in a compiled pattern, roughly. -/
def weight : CharClass → Nat
  | ranges rs =>
    rs.foldl (fun n (low, high) =>
      n + if high < 128 then 1 else if low == high then 3 else 8) 0
  | named .wordChar => 720
  | named .decimalDigit => 130
  | named .whiteSpace => 12
  | named .anyChar => 10
  | named .ascii => 1
  | named (.tables _ beyond) => beyond.foldl (fun n part => n + part.length) 0
  | named _ => 700
  | complement a => weight a + 10
  | union a b => weight a + weight b
  | intersection a b => weight a + weight b
  | folded _ a => 2 * weight a

end CharClass

end ResourceInference.Pattern
