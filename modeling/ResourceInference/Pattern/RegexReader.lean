import ResourceInference.Pattern.PropertyName
import ResourceInference.Pattern.Regex
import ResourceInference.Text.Split

/-!
# Reading regular expressions

The notation of regular expressions: groups, classes with set operations, counted repetition,
flags, anchors, Unicode properties. There is no look-around and there are no back-references.

A reader is a state of the characters that are left. Nesting is bounded by an amount of fuel that
the length of the text provides, as every level takes a character.
-/

set_option autoImplicit false

namespace ResourceInference.Pattern

/-- The flags that are in force. -/
structure Flags where
  ignoreCase : Bool := false
  multiLine : Bool := false
  dotAll : Bool := false
  unicode : Bool := true
  ignoreSpace : Bool := false
  crlf : Bool := false

/-- What a reader has in front of it, and the names of the groups it has read. -/
structure Source where
  rest : List Char
  groupNames : List (List Char) := []

/-- A reader: a value and what is left, or no value for what is not a regular expression. -/
abbrev Reader := StateT Source Option

namespace Reader

/-- The next character, if there is one. -/
def peek? : Reader (Option Char) := do return (← get).rest.head?

/-- Go past a character. -/
def skip (count : Nat) : Reader Unit := modify fun s => { s with rest := s.rest.drop count }

/-- Take the next character. -/
def next : Reader Char := do
  match (← get).rest with
  | c :: rest => modify fun s => { s with rest }; pure c
  | [] => failure

/-- Take some characters, if they come next. -/
def take? (start : List Char) : Reader Bool := do
  match Text.stripStart? start (← get).rest with
  | some rest => modify fun s => { s with rest }; pure true
  | none => pure false

/-- Take a character that must come next. -/
def expect (c : Char) : Reader Unit := do
  if (← take? [c]) then pure () else failure

/-- Take the characters as long as they satisfy `p`. -/
def takeWhile (p : Char → Bool) : Reader (List Char) := do
  let cs := (← get).rest
  modify fun s => { s with rest := cs.dropWhile p }
  pure (cs.takeWhile p)

/-- What is left of a text after white space and comments. -/
def withoutSpace (inComment : Bool) : List Char → List Char
  | [] => []
  | c :: rest =>
    if inComment then withoutSpace (c ≠ '\n') rest
    else if Text.isWhiteSpace c then withoutSpace false rest
    else if c = '#' then withoutSpace true rest
    else c :: rest

/-- Go past white space and comments, if they do not count. -/
def skipSpace (flags : Flags) : Reader Unit :=
  if flags.ignoreSpace then modify fun s => { s with rest := withoutSpace false s.rest }
  else pure ()

/-- Fail unless the condition holds. -/
def require (condition : Bool) : Reader Unit := if condition then pure () else failure

/-! ## Classes of single characters -/

/-- The class of a character as it is written. -/
def literalClass (flags : Flags) (c : Char) : CharClass :=
  if flags.ignoreCase then .folded (!flags.unicode) (.single c) else .single c

/-- A class that is written, or its complement; without Unicode no complement is one of whole
characters. -/
def signed (flags : Flags) (negated : Bool) (cls : CharClass) : Reader CharClass :=
  if negated then do require flags.unicode; pure (.complement cls) else pure cls

/-- The class of a backslash and a letter: digits, space or words. -/
def shorthandClass (flags : Flags) (letter : Char) : Reader CharClass := do
  let cls : CharClass :=
    match letter.toLower with
    | 'd' => if flags.unicode then .named .decimalDigit else .ranges [(0x30, 0x39)]
    | 's' => if flags.unicode then .named .whiteSpace else .ranges [(0x09, 0x0D), (0x20, 0x20)]
    | _ =>
      if flags.unicode then .named .wordChar
      else .ranges [(0x30, 0x39), (0x41, 0x5A), (0x5F, 0x5F), (0x61, 0x7A)]
  signed flags letter.isUpper cls

/-- Cut a text at the first place where one of two characters stands. -/
def cutAtEither (a b : Char) (cs : List Char) : Option (List Char × List Char) :=
  match cs.dropWhile (fun c => c ≠ a && c ≠ b) with
  | [] => none
  | _ :: rest => some (cs.takeWhile (fun c => c ≠ a && c ≠ b), rest)

/-- The class of a property that braces enclose, and whether it is the complement that is
meant. -/
def propertyInBraces (body : List Char) : Option (Bool × CharClass) :=
  match cutAtEither '=' ':' body with
  | some (name, value) =>
    match name.reverse with
    | '!' :: reversed => (classByValue? reversed.reverse value).map fun cls => (true, cls)
    | _ => (classByValue? name value).map fun cls => (false, cls)
  | none => (classByName? body).map fun cls => (false, cls)

/-- The class of a Unicode property, after `\p` or `\P`. -/
def propertyClass (flags : Flags) (letter : Char) : Reader CharClass := do
  require flags.unicode
  let c ← next
  let (negated, cls) ←
    if c = '\x7b' then do
      let body ← takeWhile (· ≠ '\x7d')
      expect '\x7d'
      let (inner, name) := match body with
        | '^' :: rest => (true, rest)
        | _ => (false, body)
      match propertyInBraces name with
      | some (negated, cls) => pure (inner != negated, cls)
      | none => failure
    else match classByName? [c] with
      | some cls => pure (false, cls)
      | none => failure
  let cls := if flags.ignoreCase then .folded false cls else cls
  pure (if (letter == 'P') != negated then .complement cls else cls)

/-! ## Escapes -/

/-- What a backslash starts. -/
inductive Escape where
  | char (c : Char)
  | cls (cls : CharClass)
  | anchor (a : Anchor)

/-- The value of a hexadecimal digit. -/
def hexValue? (c : Char) : Option Nat :=
  if c.isDigit then some (c.toNat - '0'.toNat)
  else if 'a' ≤ c ∧ c ≤ 'f' then some (c.toNat - 'a'.toNat + 10)
  else if 'A' ≤ c ∧ c ≤ 'F' then some (c.toNat - 'A'.toNat + 10)
  else none

/-- The character whose code point is spelt in hexadecimal digits. -/
def hexChar? (digits : List Char) : Option Char :=
  match digits with
  | [] => none
  | _ =>
    (digits.foldl (fun n c => n.bind fun n => (hexValue? c).map (n * 16 + ·)) (some 0)).bind
      fun code =>
        if code < 0xD800 ∨ (0xDFFF < code ∧ code < 0x110000) then some (Char.ofNat code) else none

/-- The character of an escape by code point, with so many digits or with braces. -/
def hexEscape (flags : Flags) (digits : Nat) : Reader Escape := do
  skipSpace flags
  let char? ←
    if (← take? ['\x7b']) then do
      let body ← takeWhile (· ≠ '\x7d')
      expect '\x7d'
      pure (hexChar? (body.filter fun c => !(flags.ignoreSpace && Text.isWhiteSpace c)))
    else do
      let body := (← get).rest.take digits
      require (body.length == digits)
      skip digits
      pure (hexChar? body)
  match char? with
  | some c => require (flags.unicode || c.toNat < 128); pure (.char c)
  | none => failure

/-- Whether a backslash in front of an ASCII character makes it a literal. -/
def isEscapable (c : Char) : Bool :=
  Text.isAscii c && !c.isAlphanum && c ≠ '<' && c ≠ '>'

/-- The anchor that `\b` and a name in braces mean. -/
def wordAnchor? (asciiOnly : Bool) (name : String) : Option Anchor :=
  match name with
  | "start" => some (.wordStart asciiOnly)
  | "end" => some (.wordEnd asciiOnly)
  | "start-half" => some (.wordStartHalf asciiOnly)
  | "end-half" => some (.wordEndHalf asciiOnly)
  | _ => none

/-- What follows `\b`: a name in braces, or else nothing that belongs to it. -/
def wordBoundary (flags : Flags) : Reader Escape := do
  let asciiOnly := !flags.unicode
  match (← get).rest with
  | '\x7b' :: c :: _ =>
    if c.isAlpha || c = '-' then
      skip 1
      let name ← takeWhile fun c => c.isAlpha || c = '-'
      expect '\x7d'
      match wordAnchor? asciiOnly (String.ofList name) with
      | some a => pure (.anchor a)
      | none => failure
    else pure (.anchor (.wordBoundary asciiOnly))
  | ['\x7b'] => failure
  | _ => pure (.anchor (.wordBoundary asciiOnly))

/-- What a backslash starts; the backslash is already taken. -/
def escape (flags : Flags) : Reader Escape := do
  let c ← next
  match c with
  | 'x' => hexEscape flags 2
  | 'u' => hexEscape flags 4
  | 'U' => hexEscape flags 8
  | 'p' | 'P' => return .cls (← propertyClass flags c)
  | 'd' | 's' | 'w' | 'D' | 'S' | 'W' => return .cls (← shorthandClass flags c)
  | 'a' => return .char '\x07'
  | 'f' => return .char '\x0c'
  | 't' => return .char '\t'
  | 'n' => return .char '\n'
  | 'r' => return .char '\r'
  | 'v' => return .char '\x0b'
  | 'A' => return .anchor .textStart
  | 'z' => return .anchor .textEnd
  | 'b' => wordBoundary flags
  | 'B' => return .anchor (.notWordBoundary (!flags.unicode))
  | '<' => return .anchor (.wordStart (!flags.unicode))
  | '>' => return .anchor (.wordEnd (!flags.unicode))
  | _ => if isEscapable c then return .char c else failure

/-! ## Bracketed classes -/

/-- An operation between two parts of a bracketed class. -/
inductive SetOperation where
  | intersection
  | difference
  | symmetricDifference

/-- The operation applied. -/
def SetOperation.apply : SetOperation → CharClass → CharClass → CharClass
  | intersection, a, b => .intersection a b
  | difference, a, b => a.difference b
  | symmetricDifference, a, b => a.symmetricDifference b

/-- A class closed under change of case, if case does not count. -/
def foldedIf (flags : Flags) (cls : CharClass) : CharClass :=
  if flags.ignoreCase then .folded (!flags.unicode) cls else cls

/-- The class so far: the operation that waits for its second part, and the part under
construction. -/
structure ClassState where
  pending : Option (CharClass × SetOperation)
  part : CharClass

/-- The class when its parts are complete. -/
def ClassState.finish (s : ClassState) (flags : Flags) : CharClass :=
  match s.pending with
  | none => foldedIf flags s.part
  | some (first, operation) => operation.apply (foldedIf flags first) (foldedIf flags s.part)

/-- A class by name, `[:name:]`, if one comes next. -/
def namedClass? (flags : Flags) : Reader (Option CharClass) := do
  match Text.stripStart? ['[', ':'] (← get).rest with
  | none => pure none
  | some body =>
    let (negated, body) := match body with
      | '^' :: rest => (true, rest)
      | _ => (false, body)
    let name := body.takeWhile (· ≠ ':')
    match Text.stripStart? [':', ']'] (body.dropWhile (· ≠ ':')),
        asciiClass? (String.ofList name) with
    | some rest, some ranges =>
      modify fun s => { s with rest }
      return some (← signed flags negated (.ranges ranges))
    | _, _ => pure none

/-- One item of a bracketed class: a character, or a class by escape. -/
def classItem (flags : Flags) : Reader Escape := do
  let c ← next
  if c = '\\' then escape flags else pure (.char c)

/-- The class of an item that is no end of a range. -/
def itemClass : Escape → Reader CharClass
  | .char c => pure (.single c)
  | .cls cls => pure cls
  | .anchor _ => failure

/-- An item, or a range between two. -/
def classRange (flags : Flags) : Reader CharClass := do
  let first ← classItem flags
  skipSpace flags
  let rest := (← get).rest
  require (!rest.isEmpty)
  let afterDash := if flags.ignoreSpace then withoutSpace false (rest.drop 1) else rest.drop 1
  if rest.head? ≠ some '-' || afterDash.head? == some ']' || afterDash.head? == some '-' then
    itemClass first
  else
    skip 1
    skipSpace flags
    match first, ← classItem flags with
    | .char low, .char high =>
      require (low.toNat ≤ high.toNat)
      pure (.ranges [(low.toNat, high.toNat)])
    | _, _ => failure

/-- Hyphens at the start of a class are characters. -/
def leadingDashes (flags : Flags) (cls : CharClass) : Nat → Reader CharClass
  | 0 => pure cls
  | fuel + 1 => do
    if (← take? ['-']) then
      skipSpace flags
      leadingDashes flags (.union cls (.single '-')) fuel
    else pure cls

/-- The operation that comes next, if one does. -/
def setOperation? : Reader (Option SetOperation) := do
  if (← take? ['&', '&']) then pure (some .intersection)
  else if (← take? ['-', '-']) then pure (some .difference)
  else if (← take? ['~', '~']) then pure (some .symmetricDifference)
  else pure none

mutual

/-- A bracketed class; its opening bracket is already taken. -/
def bracketed (flags : Flags) : Nat → Reader CharClass
  | 0 => failure
  | fuel + 1 => do
    skipSpace flags
    let negated ← take? ['^']
    if negated then skipSpace flags
    let dashes ← leadingDashes flags (.ranges []) (← get).rest.length
    let start ←
      match dashes with
      | .ranges [] => if (← take? [']']) then pure (CharClass.single ']') else pure dashes
      | _ => pure dashes
    let cls ← classBody flags ⟨none, start⟩ fuel
    signed flags negated cls

/-- The rest of a bracketed class, up to its closing bracket. -/
def classBody (flags : Flags) (s : ClassState) : Nat → Reader CharClass
  | 0 => failure
  | fuel + 1 => do
    skipSpace flags
    if (← take? [']']) then pure (s.finish flags)
    else match ← setOperation? with
      | some operation =>
        let first := s.finish flags
        classBody flags ⟨some (first, operation), .ranges []⟩ fuel
      | none =>
        if (← peek?) == some '[' then
          match ← namedClass? flags with
          | some cls => classBody flags { s with part := .union s.part cls } fuel
          | none =>
            skip 1
            let inner ← bracketed flags fuel
            classBody flags { s with part := .union s.part inner } fuel
        else
          let item ← classRange flags
          classBody flags { s with part := .union s.part item } fuel

end

/-! ## Repetition -/

/-- A decimal number with white space around it. -/
def decimal? : Reader (Option Nat) := do
  let _ ← takeWhile Text.isWhiteSpace
  let digits ← takeWhile Char.isDigit
  let _ ← takeWhile Text.isWhiteSpace
  if digits.isEmpty then pure none
  else
    let n := digits.foldl (fun n c => n * 10 + (c.toNat - '0'.toNat)) 0
    require (n < Nat.pow 2 32)
    pure (some n)

/-- The bounds of a counted repetition, after its opening brace. -/
def bounds (flags : Flags) : Reader (Nat × Option Nat) := do
  skipSpace flags
  let least ← decimal?
  let result ←
    if (← take? [',']) then do
      skipSpace flags
      if (← peek?) == some '\x7d' then
        match least with
        | some n => pure (n, none)
        | none => failure
      else match least, ← decimal? with
        | some n, some m => require (n ≤ m); pure (n, some (m - n))
        | _, _ => failure
    else match least with
      | some n => pure (n, some 0)
      | none => failure
  expect '\x7d'
  pure result

/-- The bounds of the repetition that a character starts. -/
def repetition (flags : Flags) (c : Char) : Reader (Nat × Option Nat) := do
  let result ←
    match c with
    | '*' => pure (0, none)
    | '+' => pure (1, none)
    | '?' => pure (0, some 1)
    | _ => bounds flags
  skipSpace flags
  let _ ← take? ['?']
  pure result

/-! ## Groups and sequences -/

/-- One flag, set or cleared. -/
def setFlag (flags : Flags) (c : Char) (on : Bool) : Option Flags :=
  match c with
  | 'i' => some { flags with ignoreCase := on }
  | 'm' => some { flags with multiLine := on }
  | 's' => some { flags with dotAll := on }
  | 'u' => some { flags with unicode := on }
  | 'x' => some { flags with ignoreSpace := on }
  | 'R' => some { flags with crlf := on }
  | 'U' => some flags
  | _ => none

/-- The flags that a list of letters sets, and clears after a hyphen. No letter may come twice,
and something has to follow a hyphen. -/
def applyFlags (flags : Flags) (on : Bool) (seen : List Char) : List Char → Option Flags
  | [] => if seen.head? == some '-' then none else some flags
  | c :: rest =>
    if seen.contains c then none
    else if c = '-' then applyFlags flags false (c :: seen) rest
    else (setFlag flags c on).bind fun flags => applyFlags flags on (c :: seen) rest

/-- The name of a group, up to its closing bracket. -/
def groupName : Reader Unit := do
  let name ← takeWhile (· ≠ '>')
  expect '>'
  let start (c : Char) : Bool := c == '_' || Text.isAlphabetic c
  let inner (c : Char) : Bool :=
    c == '_' || c == '.' || c == '[' || c == ']' || Text.isAlphanumeric c
  match name with
  | [] => failure
  | c :: rest => require (start c && rest.all inner)
  require (!(← get).groupNames.contains name)
  modify fun s => { s with groupNames := name :: s.groupNames }

/-- How a group starts: with new flags for what follows it, or as a group with some flags. -/
inductive GroupStart where
  | flagsOnly (flags : Flags)
  | group (flags : Flags)

/-- The start of a group; its opening parenthesis is already taken. -/
def groupStart (flags : Flags) : Reader GroupStart := do
  skipSpace flags
  let rest := (← get).rest
  let starts (start : String) : Bool := (Text.stripStart? start.toList rest).isSome
  require (!(["?=", "?!", "?<=", "?<!"].any starts))
  if starts "?P<" then
    skip 3
    groupName
    pure (.group flags)
  else if starts "?<" then
    skip 2
    groupName
    pure (.group flags)
  else if starts "?" then
    skip 1
    let letters ← takeWhile fun c => c ≠ ':' && c ≠ ')'
    let stop ← next
    match applyFlags flags true [] letters with
    | none => failure
    | some inner =>
      if stop = ')' then do
        require (!letters.isEmpty)
        pure (.flagsOnly inner)
      else pure (.group inner)
  else pure (.group flags)

/-- The expression of any character. -/
def dot (flags : Flags) : Reader Regex := do
  require flags.unicode
  pure (.chars
    (if flags.dotAll then .named .anyChar
    else if flags.crlf then .complement (.ranges [(0x0A, 0x0A), (0x0D, 0x0D)])
    else .complement (.single '\n')))

/-- The expression of one character that starts neither a group nor a class nor a repetition. -/
def primitive (flags : Flags) (c : Char) : Reader Regex := do
  match c with
  | '\\' =>
    match ← escape flags with
    | .char c => pure (.chars (literalClass flags c))
    | .cls cls => pure (.chars cls)
    | .anchor a => pure (.anchor a)
  | '.' => dot flags
  | '^' => pure (.anchor (if flags.multiLine then .lineStart flags.crlf else .textStart))
  | '$' => pure (.anchor (if flags.multiLine then .lineEnd flags.crlf else .textEnd))
  | _ => pure (.chars (literalClass flags c))

/-- The deepest nesting of groups. -/
def depthLimit : Nat := 250

/-- The alternatives read so far, and the items of the one under construction, last first. An
item that only sets flags is absent, and cannot be repeated. -/
structure BodyState where
  alternatives : List Regex
  items : List (Option Regex)

/-- The alternative under construction. -/
def BodyState.current (s : BodyState) : Regex := Regex.sequence (s.items.reverse.filterMap id)

/-- The expression of all alternatives. -/
def BodyState.finish (s : BodyState) : Regex := Regex.choice (s.alternatives ++ [s.current])

/-- The alternatives of a group or of the whole text, up to what ends them. -/
def body (depth : Nat) (flags : Flags) (s : BodyState) : Nat → Reader Regex
  | 0 => failure
  | fuel + 1 => do
    skipSpace flags
    match ← peek? with
    | none => pure s.finish
    | some ')' => pure s.finish
    | some '|' =>
      skip 1
      body depth flags ⟨s.alternatives ++ [s.current], []⟩ fuel
    | some '(' =>
      skip 1
      match ← groupStart flags with
      | .flagsOnly flags => body depth flags { s with items := none :: s.items } fuel
      | .group inner =>
        require (depth < depthLimit)
        let r ← body (depth + 1) inner ⟨[], []⟩ fuel
        expect ')'
        body depth flags { s with items := some r :: s.items } fuel
    | some '[' =>
      skip 1
      let cls ← bracketed flags fuel
      body depth flags { s with items := some (.chars cls) :: s.items } fuel
    | some c =>
      skip 1
      if c = '*' || c = '+' || c = '?' || c = '\x7b' then
        match s.items with
        | some r :: rest =>
          let (least, more) ← repetition flags c
          body depth flags { s with items := some (.repeated r least more) :: rest } fuel
        | _ => failure
      else
        let r ← primitive flags c
        body depth flags { s with items := some r :: s.items } fuel

end Reader

/-- The regular expression that a text spells, if it spells one that is not too large. -/
def Regex.read? (text : String) : Option Regex :=
  let chars := text.toList
  match (Reader.body 0 {} ⟨[], []⟩ (2 * chars.length + 2)).run ⟨chars, []⟩ with
  | some (r, ⟨[], _⟩) => if r.weight ≤ Regex.weightLimit then some r else none
  | _ => none

end ResourceInference.Pattern
