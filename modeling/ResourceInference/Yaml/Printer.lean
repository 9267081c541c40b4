import ResourceInference.Data.Value
import ResourceInference.Yaml.Cursor
import ResourceInference.Yaml.Plain

/-!
# YAML text of values

A value in block style, two spaces for every level, lists as far in as their keys. A text is plain
if it reads back as that text; else it is in single quotes, or in double quotes where an escape is
needed. A text of several lines is a literal block if its lines can be kept as they are.
-/

set_option autoImplicit false

namespace ResourceInference.Yaml

/-! ## What a text holds -/

/-- A text with each character between its two neighbours. -/
def neighbours (before : Option Char) : List Char → List (Option Char × Char × Option Char)
  | [] => []
  | c :: rest => (before, c, rest.head?) :: neighbours (some c) rest

/-- Whether some character has a property, given its neighbours. -/
def anyPlace (cs : List Char) (p : Option Char → Char → Option Char → Bool) : Bool :=
  (neighbours none cs).any fun (before, c, next) => p before c next

/-- Whether a character would be taken for an indicator of block style. -/
def isBlockIndicator (before : Option Char) (c : Char) (next : Option Char) : Bool :=
  match before with
  | none => "#,[]\x7b\x7d&*!|>'\"%@`".contains c || ("?:-".contains c && endsWord next)
  | some before => (c == ':' && endsWord next) || (c == '#' && endsWord (some before))

/-- Whether a text starts like the mark of a document. -/
def startsLikeMark (cs : List Char) : Bool :=
  cs.take 3 == ['-', '-', '-'] || cs.take 3 == ['.', '.', '.']

/-- The characters that may be written as they are. -/
def isPrintable (c : Char) : Bool :=
  let n := c.toNat
  n == 0x0A || (0x20 ≤ n && n ≤ 0x7E) || (0xA0 ≤ n && n ≤ 0xFFFD && n ≠ 0xFEFF)

/-- Whether a text has characters that have to be escaped, or spaces at the end of a line. -/
def needsEscapes (cs : List Char) : Bool :=
  cs.any (fun c => !isPrintable c) ||
    anyPlace cs fun before c _ => isBreak c && before == some ' '

/-- Whether a line starts with a space, the first line apart. -/
def hasIndentedLine (cs : List Char) : Bool :=
  anyPlace cs fun before c _ => c == ' ' && before.any isBreak

/-- Whether a text starts or ends with a space or the end of a line. -/
def hasLooseEnds (cs : List Char) : Bool :=
  let isSpace (c : Char) : Bool := c == ' ' || isBreak c
  cs.head?.any isSpace || cs.getLast?.any isSpace

/-- Whether a text without quotes reads back as that text. -/
def canBePlain (cs : List Char) : Bool :=
  !(needsEscapes cs || hasLooseEnds cs || cs.any isBreak || startsLikeMark cs ||
    anyPlace cs isBlockIndicator)

/-- Whether a text in single quotes reads back as that text. -/
def canBeSingle (cs : List Char) : Bool := !(needsEscapes cs || hasIndentedLine cs)

/-- Whether a text can be a literal block. -/
def canBeLiteral (cs : List Char) : Bool := !(needsEscapes cs || cs.getLast? == some ' ')

/-- Whether a text would be taken for something other than a text, or for a number with a leading
zero. -/
def looksTyped (s : String) : Bool := plainKind s ≠ .text || isZeroPadded s.toList

/-! ## Styles -/

/-- The start of a line that is so many spaces in. -/
def lineStart (indent : Nat) : List Char := '\n' :: List.replicate indent ' '

/-- The short escapes, by code point. -/
def shortEscapes : List (Nat × Char) :=
  [(0x00, '0'), (0x07, 'a'), (0x08, 'b'), (0x09, 't'), (0x0A, 'n'), (0x0B, 'v'), (0x0C, 'f'),
    (0x0D, 'r'), (0x1B, 'e'), (0x22, '"'), (0x5C, '\\'), (0x85, 'N'), (0x2028, 'L'),
    (0x2029, 'P')]

/-- A code point in at least so many digits of radix sixteen. -/
def hexCode (width : Nat) (n : Nat) : List Char :=
  let digits := (Nat.toDigits 16 n).map Char.toUpper
  List.replicate (width - digits.length) '0' ++ digits

/-- A character in double quotes. -/
def escaped (c : Char) : List Char :=
  if isPrintable c && !isBreak c && c ≠ '"' && c ≠ '\\' then [c]
  else match shortEscapes.lookup c.toNat with
    | some letter => ['\\', letter]
    | none =>
      if c.toNat < 0x100 then '\\' :: 'x' :: hexCode 2 c.toNat
      else if c.toNat < 0x10000 then '\\' :: 'u' :: hexCode 4 c.toNat
      else '\\' :: 'U' :: hexCode 8 c.toNat

/-- A text in double quotes. -/
def doubleQuoted (cs : List Char) : List Char := '"' :: cs.flatMap escaped ++ ['"']

/-- The characters of a text in single quotes; behind the end of a line the next line is
indented. -/
def singleQuotedFrom (indent : Nat) (atStart : Bool) : List Char → List Char
  | [] => if atStart then List.replicate indent ' ' else []
  | c :: rest =>
    if isBreak c then c :: singleQuotedFrom indent true rest
    else
      (if atStart then List.replicate indent ' ' else []) ++
        (if c = '\'' then ['\'', '\''] else [c]) ++ singleQuotedFrom indent false rest

/-- A text in single quotes. -/
def singleQuoted (indent : Nat) (cs : List Char) : List Char :=
  '\'' :: singleQuotedFrom indent false cs ++ ['\'']

/-- What a literal block says of the ends of lines at its end: a text that ends with none, or with
more than one, has a sign. -/
def chompingSign (cs : List Char) : List Char :=
  match cs.reverse with
  | last :: before =>
    if !isBreak last then ['-']
    else if before.isEmpty || before.head?.any isBreak then ['+']
    else []
  | [] => ['-']

/-- The lines of a literal block. The end of the last line is left to what follows. -/
def literalLines (indent : Nat) (atStart : Bool) : List Char → List Char
  | [] => []
  | [c] => if isBreak c then [] else (if atStart then List.replicate indent ' ' else []) ++ [c]
  | c :: next :: rest =>
    if isBreak c then c :: literalLines indent true (next :: rest)
    else
      (if atStart then List.replicate indent ' ' else []) ++
        c :: literalLines indent false (next :: rest)

/-- A text as a literal block; the indentation is said if the first line does not show it. -/
def literal (indent : Nat) (cs : List Char) : List Char :=
  let hint := if cs.head?.any fun c => c == ' ' || isBreak c then ['2'] else []
  '|' :: hint ++ chompingSign cs ++ '\n' :: literalLines indent true cs

/-- A text as a scalar inside something indented by two less than `indent`. A key of a simple
entry stands on one line. -/
def scalarText (indent : Nat) (isKey : Bool) (s : String) : String :=
  let cs := s.toList
  String.ofList (
    if cs.contains '\n' then
      if canBeLiteral cs && !isKey then literal indent cs else doubleQuoted cs
    else if !looksTyped s && canBePlain cs then cs
    else if canBeSingle cs && !(isKey && cs.any isBreak) then singleQuoted indent cs
    else doubleQuoted cs)

/-! ## Blocks -/

/-- The greatest length of a key, in bytes, that stands in front of a colon. -/
def simpleKeyLimit : Nat := 128

/-- A key with its colon. A long key, or one of several lines, gets a question mark. -/
def keyText (indent : Nat) (key : String) : String :=
  if key.utf8ByteSize ≤ simpleKeyLimit && !key.toList.any isBreak then
    scalarText (indent + 2) true key ++ ":"
  else
    "? " ++ scalarText (indent + 2) false key ++ String.ofList (lineStart indent) ++ ":"

/-- Parts of a block, each on lines of its own. -/
def joinLines (indent : Nat) (parts : List String) : String :=
  (String.ofList (lineStart indent)).intercalate parts

mutual

/-- What stands behind the colon of an entry, whose key is so many spaces in. -/
def entryValue (indent : Nat) : Value → String
  | .object [] => " \x7b\x7d"
  | .object (entry :: rest) =>
    String.ofList (lineStart (indent + 2)) ++
      joinLines (indent + 2) (blockEntries (indent + 2) (entry :: rest))
  | .list [] => " []"
  | .list (item :: rest) =>
    String.ofList (lineStart indent) ++ joinLines indent (blockItems indent (item :: rest))
  | .string s => " " ++ scalarText (indent + 2) false s
  | .number n => " " ++ n.render
  | .bool b => if b then " true" else " false"
  | .null => " null"

/-- The entries of a mapping that is so many spaces in. -/
def blockEntries (indent : Nat) : List (String × Value) → List String
  | [] => []
  | (key, value) :: rest =>
    (keyText indent key ++ entryValue indent value) :: blockEntries indent rest

/-- What stands behind the dash of an item, which is so many spaces in. -/
def itemValue (indent : Nat) : Value → String
  | .object [] => "\x7b\x7d"
  | .object (entry :: rest) =>
    joinLines (indent + 2) (blockEntries (indent + 2) (entry :: rest))
  | .list [] => "[]"
  | .list (item :: rest) => joinLines (indent + 2) (blockItems (indent + 2) (item :: rest))
  | .string s => scalarText (indent + 2) false s
  | .number n => n.render
  | .bool b => if b then "true" else "false"
  | .null => "null"

/-- The items of a list that is so many spaces in. -/
def blockItems (indent : Nat) : List Value → List String
  | [] => []
  | item :: rest => ("- " ++ itemValue indent item) :: blockItems indent rest

end

/-- The text of a mapping. -/
def printEntries (entries : List (String × Value)) : String :=
  match entries with
  | [] => "\x7b\x7d\n"
  | entries => joinLines 0 (blockEntries 0 entries) ++ "\n"

end ResourceInference.Yaml
