import ResourceInference.Pattern.CharClass

/-!
# Regular expressions

A regular expression is run on all start positions at once. A set of positions in a text of `n`
characters is a number whose bits `0` to `n` say which positions belong to it; a class of
characters moves the positions in front of its characters one further, and a repetition is
applied until nothing is added.
-/

set_option autoImplicit false

namespace ResourceInference.Pattern

/-- A condition on a position between two characters. -/
inductive Anchor where
  | textStart
  | textEnd
  /-- After a line feed, or with `crlf` after any line break but not inside one. -/
  | lineStart (crlf : Bool)
  | lineEnd (crlf : Bool)
  | wordBoundary (asciiOnly : Bool)
  | notWordBoundary (asciiOnly : Bool)
  | wordStart (asciiOnly : Bool)
  | wordEnd (asciiOnly : Bool)
  | wordStartHalf (asciiOnly : Bool)
  | wordEndHalf (asciiOnly : Bool)
  deriving DecidableEq, Repr

/-- A regular expression. -/
inductive Regex where
  | empty
  | chars (cls : CharClass)
  | anchor (a : Anchor)
  | seq (a b : Regex)
  | alt (a b : Regex)
  /-- At least `least` times, and at most `least + more` times unless `more` is absent. -/
  | repeated (a : Regex) (least : Nat) (more : Option Nat)

namespace Anchor

/-- Whether a character there is one of words. -/
def isWord (asciiOnly : Bool) (c : Option Char) : Bool :=
  match c with
  | none => false
  | some c => if asciiOnly then Text.isAscii c && Text.isWordChar c else Text.isWordChar c

/-- Whether a position between `before` and `after` satisfies the condition. -/
def holds (a : Anchor) (before after : Option Char) : Bool :=
  match a with
  | textStart => before.isNone
  | textEnd => after.isNone
  | lineStart false => before.isNone || before == some '\n'
  | lineEnd false => after.isNone || after == some '\n'
  | lineStart true =>
    before.isNone || before == some '\n' || (before == some '\r' && after != some '\n')
  | lineEnd true =>
    after.isNone || after == some '\r' || (after == some '\n' && before != some '\r')
  | wordBoundary asciiOnly => isWord asciiOnly before != isWord asciiOnly after
  | notWordBoundary asciiOnly => isWord asciiOnly before == isWord asciiOnly after
  | wordStart asciiOnly => !isWord asciiOnly before && isWord asciiOnly after
  | wordEnd asciiOnly => isWord asciiOnly before && !isWord asciiOnly after
  | wordStartHalf asciiOnly => !isWord asciiOnly before
  | wordEndHalf asciiOnly => !isWord asciiOnly after

end Anchor

namespace Regex

/-! ## Sets of positions -/

/-- The positions in front of the characters that satisfy `p`. -/
def positionsBefore (p : Char → Bool) : List Char → Nat
  | [] => 0
  | c :: rest => (if p c then 1 else 0) + 2 * positionsBefore p rest

/-- The positions that satisfy a condition; `before` is the character in front of the text. -/
def positionsAt (a : Anchor) (before : Option Char) : List Char → Nat
  | [] => if a.holds before none then 1 else 0
  | c :: rest => (if a.holds before (some c) then 1 else 0) + 2 * positionsAt a (some c) rest

/-- All positions of a text. -/
def allPositions (text : List Char) : Nat := Nat.pow 2 (text.length + 1) - 1

/-! ## Matching -/

/-- Apply `f` so often, adding up the results, until nothing is added. -/
def grow (f : Nat → Nat) : Nat → Nat → Nat
  | 0, set => set
  | bound + 1, set =>
    let larger := set ||| f set
    if larger = set then set else grow f bound larger

/-- Apply `f` so often, or until nothing is left. -/
def iterate (f : Nat → Nat) : Nat → Nat → Nat
  | 0, set => set
  | count + 1, set => if set = 0 then 0 else iterate f count (f set)

/-- The positions where the expression can end when it starts at a position of the set. -/
def ends (text : List Char) : Regex → Nat → Nat
  | empty, set => set
  | chars cls, set => 2 * (set &&& positionsBefore cls.contains text)
  | anchor a, set => set &&& positionsAt a none text
  | seq a b, set => ends text b (ends text a set)
  | alt a b, set => ends text a set ||| ends text b set
  | repeated a least more, set =>
    let start := iterate (ends text a) least set
    match more with
    | some more => grow (ends text a) more start
    | none => grow (ends text a) (text.length + 1) start

/-- Whether the expression matches some part of a text. -/
def matchesText (r : Regex) (text : String) : Bool :=
  ends text.toList r (allPositions text.toList) != 0

/-! ## Construction -/

/-- Expressions one after the other. -/
def sequence : List Regex → Regex
  | [] => empty
  | [r] => r
  | r :: rest => seq r (sequence rest)

/-- A class that has no characters. -/
def never : Regex := chars (.ranges [])

/-- One of several expressions. -/
def choice : List Regex → Regex
  | [] => never
  | [r] => r
  | r :: rest => alt r (choice rest)

/-- One character. -/
def literal (c : Char) : Regex := chars (.single c)

/-- Any number of times. -/
def star (r : Regex) : Regex := repeated r 0 none

/-! ## Size -/

/-- How many states an expression takes when it is compiled, roughly: counted repetitions are
written out. -/
def weight : Regex → Nat
  | empty => 1
  | chars cls => max 1 cls.weight
  | anchor _ => 1
  | seq a b => weight a + weight b
  | alt a b => weight a + weight b + 2
  | repeated a least more => (least + more.getD 1) * (weight a + 1)

/-- The greatest size of an expression: ten mebibytes of states of 32 bytes. -/
def weightLimit : Nat := 10 * Nat.pow 2 20 / 32

end Regex

end ResourceInference.Pattern
