/-!
# Wildcards

A wildcard pattern is matched against a whole path. `**` stands for any characters of one line,
a single `*` for any characters other than `/`, `?` for one such character, and everything else
for itself. Stars are paired from the left. A pattern is written out as a regular expression that
is anchored on both sides.
-/

set_option autoImplicit false

namespace ResourceInference.Pattern

/-- A part of a wildcard pattern. -/
inductive WildcardPart where
  /-- Any characters but line feeds. -/
  | anything
  /-- Any characters but slashes. -/
  | segment
  /-- One character that is no slash. -/
  | one
  | literal (c : Char)
  deriving DecidableEq, Repr

namespace Wildcard

/-- The parts of a pattern. -/
def parts : List Char → List WildcardPart
  | [] => []
  | '*' :: '*' :: rest => .anything :: parts rest
  | '*' :: rest => .segment :: parts rest
  | '?' :: rest => .one :: parts rest
  | c :: rest => .literal c :: parts rest

/-- The characters that regular expressions give a meaning. -/
def metaChars : List Char :=
  ['\\', '.', '+', '*', '?', '(', ')', '|', '[', ']', '\x7b', '\x7d', '^', '$', '#', '&', '-', '~']

/-- A part as regular expressions write it. -/
def partSource : WildcardPart → List Char
  | .anything => ['.', '*']
  | .segment => ['[', '^', '/', ']', '*']
  | .one => ['[', '^', '/', ']']
  | .literal c => if metaChars.contains c then ['\\', c] else [c]

/-- The regular expression that a pattern is written out as, from the start of the text to its
end. -/
def source (pattern : String) : String :=
  String.ofList ('^' :: (parts pattern.toList).flatMap partSource ++ ['$'])

end Wildcard

end ResourceInference.Pattern
