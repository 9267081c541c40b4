/-!
# Places in a YAML text

A cursor is what is left of a text, together with the line and the column where it starts. YAML
needs both: columns say what belongs to a block, and a key has to stand on one line.
-/

set_option autoImplicit false

namespace ResourceInference.Yaml

/-! ## Characters -/

/-- The characters that end a line. -/
def isBreak (c : Char) : Bool :=
  c == '\n' || c == '\r' || c == '\x85' || c == '\u2028' || c == '\u2029'

/-- Spaces and tabs. -/
def isBlank (c : Char) : Bool := c == ' ' || c == '\t'

/-- Whether what comes next, if anything does, is a blank or ends a line. -/
def endsWord : Option Char → Bool
  | none => true
  | some c => isBlank c || isBreak c

/-- Whether what comes next, if anything does, ends a line. -/
def endsLine : Option Char → Bool
  | none => true
  | some c => isBreak c

/-- The characters that a YAML text may hold. -/
def isAllowed (c : Char) : Bool :=
  let n := c.toNat
  n == 0x09 || n == 0x0A || n == 0x0D || (0x20 ≤ n && n ≤ 0x7E) || n == 0x85 ||
    (0xA0 ≤ n && n ≤ 0xFFFD && n ≠ 0xFEFF) || 0x10000 ≤ n

/-! ## Cursors -/

/-- A place in a text. -/
structure Cursor where
  rest : List Char
  line : Nat := 0
  column : Nat := 0
  index : Nat := 0

namespace Cursor

/-- The character at a distance. -/
def peek? (cur : Cursor) (distance : Nat) : Option Char := cur.rest[distance]?

/-- The next character. -/
def head? (cur : Cursor) : Option Char := cur.rest.head?

/-- Past so many characters that do not end a line. -/
def skip (cur : Cursor) (count : Nat) : Cursor :=
  { cur with rest := cur.rest.drop count, column := cur.column + count, index := cur.index + count }

/-- Past the end of a line. -/
def skipBreak (cur : Cursor) : Cursor :=
  match cur.rest with
  | '\r' :: '\n' :: rest => ⟨rest, cur.line + 1, 0, cur.index + 2⟩
  | _ :: rest => ⟨rest, cur.line + 1, 0, cur.index + 1⟩
  | [] => cur

/-- The text that the end of a line stands for: a line feed, but for the two separators of
Unicode. -/
def breakChar (cur : Cursor) : Char :=
  match cur.rest with
  | '\u2028' :: _ => '\u2028'
  | '\u2029' :: _ => '\u2029'
  | _ => '\n'

/-- Past the characters that satisfy `p`, none of which may end a line. -/
def skipWhile (cur : Cursor) (p : Char → Bool) : Cursor :=
  cur.skip (cur.rest.takeWhile p).length

/-- Past a comment, if one starts here. -/
def skipComment (cur : Cursor) : Cursor :=
  if cur.head? == some '#' then cur.skipWhile fun c => !isBreak c else cur

/-- Whether `---` or `...` stands here at the start of a line. -/
def atDocumentMark (cur : Cursor) : Bool :=
  cur.column == 0 && endsWord (cur.peek? 3) &&
    (cur.rest.take 3 == ['-', '-', '-'] || cur.rest.take 3 == ['.', '.', '.'])

end Cursor

end ResourceInference.Yaml
