import ResourceInference.Text.Category
import ResourceInference.Text.Property

/-!
# Character classes

Classes of characters in every script. On ASCII they are core's classes, decided before any table
is read.
-/

set_option autoImplicit false

namespace ResourceInference.Text

/-- Whether a character belongs to ASCII. -/
def isAscii (c : Char) : Bool := c.toNat < 128

/-- Whether a character lies on a run of one of several tables. -/
def inTables (tables : List (List CodeRun)) (c : Char) : Bool := tables.any (inRuns · c)

/-- The tables of all letters. -/
def letterTables : List (List CodeRun) :=
  [Category.lu, Category.ll, Category.lt, Category.lm, Category.lo]

/-- The tables of all marks. -/
def markTables : List (List CodeRun) := [Category.mn, Category.mc, Category.me]

/-- The tables of all numbers. -/
def numberTables : List (List CodeRun) := [Category.nd, Category.nl, Category.no]

/-- The capital letters. -/
def isUppercase (c : Char) : Bool :=
  if isAscii c then c.isUpper else inTables [Category.lu, Property.otherUppercase] c

/-- The small letters. -/
def isLowercase (c : Char) : Bool :=
  if isAscii c then c.isLower else inTables [Category.ll, Property.otherLowercase] c

/-- Letters and what counts as one. -/
def isAlphabetic (c : Char) : Bool :=
  if isAscii c then c.isAlpha
  else inTables (letterTables ++ [Category.nl, Property.otherAlphabetic]) c

/-- Letters, what counts as one, and numbers. -/
def isAlphanumeric (c : Char) : Bool :=
  if isAscii c then c.isAlphanum else isAlphabetic c || inTables numberTables c

/-- Decimal digits. -/
def isDecimalDigit (c : Char) : Bool :=
  if isAscii c then c.isDigit else inRuns Category.nd c

/-- Spaces, tabs and line breaks. -/
def isWhiteSpace (c : Char) : Bool :=
  if isAscii c then c == ' ' || (9 ≤ c.toNat && c.toNat ≤ 13) else inRuns Property.whiteSpace c

/-- What words consist of: letters, marks, decimal digits, connecting punctuation and the two
joiners. -/
def isWordChar (c : Char) : Bool :=
  if isAscii c then c.isAlphanum || c == '_'
  else isAlphabetic c || inTables (markTables ++ [Category.nd, Category.pc]) c ||
    c.toNat == 0x200C || c.toNat == 0x200D

/-- Characters that take part in case, title-case letters included. -/
def isCased (c : Char) : Bool :=
  if isAscii c then c.isAlpha
  else isUppercase c || isLowercase c || inRuns Category.lt c

/-- Characters that are looked through when the end of a cased word is sought. -/
def isCaseIgnorable (c : Char) : Bool :=
  if isAscii c then "'.:^`".contains c
  else inTables [Category.mn, Category.me, Category.cf, Category.lm, Category.sk,
    Property.otherCaseIgnorable] c

/-- Characters that are drawn onto the character before them. -/
def isGraphemeExtend (c : Char) : Bool :=
  !isAscii c && inTables [Category.mn, Category.me, Property.otherGraphemeExtend] c

/-- Characters of an assigned category that are neither spaces nor invisible, and the space. -/
def isPrintable (c : Char) : Bool :=
  if isAscii c then 32 ≤ c.toNat && c.toNat < 127
  else inTables (letterTables ++ markTables ++ numberTables ++
    [Category.pc, Category.pd, Category.ps, Category.pe, Category.pi, Category.pf, Category.po,
      Category.sm, Category.sc, Category.sk, Category.so]) c

end ResourceInference.Text
