import ResourceInference.Yaml.Scalar

/-!
# YAML tokens

A YAML text as a list of tokens. Indentation opens and closes blocks, which become tokens of
their own. Whether a scalar is a key is known only at the colon behind it: the place of every
token that may turn out to start a key is remembered, one for each level of flow collections, and
the colon puts the tokens for the key there.
-/

set_option autoImplicit false

namespace ResourceInference.Yaml

/-- A token of YAML. -/
inductive Token where
  | versionDirective (major minor : Nat)
  | tagDirective (handle replacement : String)
  | documentStart
  | documentEnd
  | blockSequenceStart
  | blockMappingStart
  | blockEnd
  | flowSequenceStart
  | flowSequenceEnd
  | flowMappingStart
  | flowMappingEnd
  | blockEntry
  | flowEntry
  | key
  | value
  | alias (name : String)
  | anchor (name : String)
  | tag (handle suffix : String)
  | scalar (isPlain : Bool) (text : String)
  deriving DecidableEq

/-- A place where a key may start. -/
structure KeyPlace where
  /-- How many tokens stand in front of it. -/
  token : Nat
  /-- Whether nothing but a key may stand there. -/
  required : Bool
  line : Nat
  column : Nat
  index : Nat

/-- The state of a scanner. -/
structure Scanner where
  cursor : Cursor
  /-- The column of the innermost block, -1 outside of all. -/
  indent : Int := -1
  /-- The columns of the blocks around it. -/
  outer : List Int := []
  /-- The place of a key on the innermost level. -/
  keyPlace : Option KeyPlace := none
  /-- The places of keys on the levels around it, one for each flow collection that is open. -/
  outerKeys : List (Option KeyPlace) := []
  /-- Whether a key may start here. -/
  keyAllowed : Bool := true
  /-- The tokens so far, last first. -/
  tokens : List Token := []

/-- A step of scanning; it fails on what is not YAML. -/
abbrev Scan := StateT Scanner Option

namespace Scan

/-- Whether the scanner is inside a flow collection. -/
def inFlow : Scan Bool := return !(← get).outerKeys.isEmpty

/-- Write a token. -/
def emit (token : Token) : Scan Unit := modify fun s => { s with tokens := token :: s.tokens }

/-- Go past so many characters. -/
def skip (count : Nat) : Scan Unit := modify fun s => { s with cursor := s.cursor.skip count }

/-- Write a token in front of which so many tokens stand. -/
def insertAt (place : Nat) (token : Token) : Scan Unit :=
  modify fun s =>
    let behind := s.tokens.length - place
    { s with tokens := s.tokens.take behind ++ token :: s.tokens.drop behind }

/-! ## Places of keys -/

/-- Fail if the condition holds. -/
def failIf (condition : Bool) : Scan Unit := if condition then failure else pure ()

/-- Forget the place of a key; it must not be one where only a key may stand. -/
def dropKey : Scan Unit := do
  failIf ((← get).keyPlace.any (·.required))
  modify fun s => { s with keyPlace := none }

/-- A key has to stand on one line, and within 1024 characters. -/
def isStale (cur : Cursor) (place : KeyPlace) : Bool :=
  place.line < cur.line || place.index + 1024 < cur.index

/-- Forget the places that are too far back. -/
def dropStaleKeys : Scan Unit := do
  let s ← get
  let stale (place : Option KeyPlace) : Bool := place.any (isStale s.cursor)
  let places := s.keyPlace :: s.outerKeys
  failIf (places.any fun place => stale place && place.any (·.required))
  let fresh (place : Option KeyPlace) : Option KeyPlace := if stale place then none else place
  set { s with keyPlace := fresh s.keyPlace, outerKeys := s.outerKeys.map fresh }

/-- Remember this place, if a key may start here. -/
def rememberKey : Scan Unit := do
  let s ← get
  if s.keyAllowed then
    let cur := s.cursor
    let required := !(← inFlow) && s.indent == Int.ofNat cur.column
    dropKey
    modify fun s => { s with
      keyPlace := some ⟨s.tokens.length, required, cur.line, cur.column, cur.index⟩ }
  else pure ()

/-- Say whether a key may start at the next token. -/
def allowKey (allowed : Bool) : Scan Unit := modify fun s => { s with keyAllowed := allowed }

/-! ## Indentation -/

/-- Open a block at a column further in. `place` says where its token goes, if not here. -/
def openBlock (column : Nat) (place : Option Nat) (token : Token) : Scan Unit := do
  let s ← get
  if !(← inFlow) && s.indent < Int.ofNat column then
    set { s with indent := Int.ofNat column, outer := s.indent :: s.outer }
    insertAt (place.getD s.tokens.length) token
  else pure ()

/-- Close the blocks further in than a column. -/
def closeBlocks (column : Int) : Nat → Scan Unit
  | 0 => pure ()
  | bound + 1 => do
    let s ← get
    if !(← inFlow) && column < s.indent then
      match s.outer with
      | indent :: outer =>
        set { s with indent, outer, tokens := .blockEnd :: s.tokens }
        closeBlocks column bound
      | [] => pure ()
    else pure ()

/-- Close the blocks further in than a column. -/
def unindent (column : Int) : Scan Unit := do
  closeBlocks column ((← get).outer.length + 1)

/-! ## White space between tokens -/

/-- Go to the next token. The end of a line allows a key to start, except in flow collections;
where a key may start, a tab does not count as white space. -/
def toNextToken : Nat → Scan Unit
  | 0 => pure ()
  | fuel + 1 => do
    let s ← get
    let flow ← inFlow
    let cur := (s.cursor.skipWhile fun c =>
      c == ' ' || (c == '\t' && (flow || !s.keyAllowed))).skipComment
    if cur.head?.any isBreak then
      set { s with cursor := cur.skipBreak, keyAllowed := s.keyAllowed || !flow }
      toNextToken fuel
    else set { s with cursor := cur }

/-! ## Names -/

/-- The characters of names. -/
def isNameChar (c : Char) : Bool := c.isAlphanum || c == '_' || c == '-'

/-- The characters of the suffix of a tag, as it stands. -/
def isTagChar (c : Char) : Bool :=
  isNameChar c || ";/?:@&=+$.!~*'()%".contains c

/-- The same within `!<` and `>`, where also commas and brackets may stand. -/
def isUriChar (c : Char) : Bool := isTagChar c || c == ',' || c == '[' || c == ']'

/-- Take the characters that satisfy `p`. -/
def takeWhile (p : Char → Bool) : Scan (List Char) := do
  let taken := (← get).cursor.rest.takeWhile p
  skip taken.length
  pure taken

/-- The name of an anchor or alias, behind its indicator. -/
def anchorName : Scan String := do
  skip 1
  let name ← takeWhile isNameChar
  let next := (← get).cursor.head?
  failIf (name.isEmpty || !(endsWord next || next.any fun c => "?:,]\x7d%@`".contains c))
  pure (String.ofList name)

/-- A tag: in full within `!<` and `>`, or with a handle and a suffix. -/
def tagToken : Scan Token := do
  let cur := (← get).cursor
  let token ←
    if cur.peek? 1 == some '<' then do
      skip 2
      let uri ← takeWhile isUriChar
      failIf (uri.isEmpty || (← get).cursor.head? ≠ some '>')
      skip 1
      pure (Token.tag "" (String.ofList uri))
    else do
      skip 1
      let name ← takeWhile isNameChar
      if (← get).cursor.head? == some '!' then
        skip 1
        let suffix ← takeWhile isTagChar
        failIf suffix.isEmpty
        pure (Token.tag (String.ofList ('!' :: name ++ ['!'])) (String.ofList suffix))
      else
        let suffix ← takeWhile isTagChar
        pure (Token.tag "!" (String.ofList (name ++ suffix)))
  let next := (← get).cursor.head?
  failIf !(endsWord next || ((← inFlow) && next == some ','))
  pure token

/-- A decimal number. -/
def decimal : Scan Nat := do
  let digits ← takeWhile Char.isDigit
  failIf digits.isEmpty
  pure (digits.foldl (fun n c => n * 10 + (c.toNat - '0'.toNat)) 0)

/-- A directive: a version, or an abbreviation for tags. -/
def directive : Scan Token := do
  skip 1
  let name ← takeWhile isNameChar
  let _ ← takeWhile isBlank
  let token ←
    if name == "YAML".toList then do
      let major ← decimal
      failIf ((← get).cursor.head? ≠ some '.')
      skip 1
      pure (Token.versionDirective major (← decimal))
    else if name == "TAG".toList then do
      let handle ← takeWhile fun c => isNameChar c || c == '!'
      failIf (handle.head? ≠ some '!')
      let blanks ← takeWhile isBlank
      let uri ← takeWhile isUriChar
      failIf (blanks.isEmpty || uri.isEmpty)
      pure (Token.tagDirective (String.ofList handle) (String.ofList uri))
    else failure
  let _ ← takeWhile isBlank
  modify fun s => { s with cursor := s.cursor.skipComment }
  failIf !(endsLine (← get).cursor.head?)
  pure token

/-! ## Tokens -/

/-- Leave all blocks, where no key can be under way. -/
def leaveBlocks : Scan Unit := do
  unindent (-1)
  dropKey
  allowKey false

/-- Take a single character that opens a flow collection. -/
def openFlow (token : Token) : Scan Unit := do
  rememberKey
  modify fun s => { s with
    keyPlace := none, outerKeys := s.keyPlace :: s.outerKeys, keyAllowed := true }
  skip 1
  emit token

/-- Take a single character that closes a flow collection. -/
def closeFlow (token : Token) : Scan Unit := do
  dropKey
  modify fun s => match s.outerKeys with
    | place :: outer => { s with keyPlace := place, outerKeys := outer, keyAllowed := false }
    | [] => { s with keyAllowed := false }
  skip 1
  emit token

/-- Take the indicator of an item of a block sequence. -/
def takeBlockEntry : Scan Unit := do
  let s ← get
  if !(← inFlow) then
    failIf !s.keyAllowed
    openBlock s.cursor.column none .blockSequenceStart
  dropKey
  allowKey true
  skip 1
  emit .blockEntry

/-- Take the indicator of a key. -/
def takeKey : Scan Unit := do
  let s ← get
  let flow ← inFlow
  if !flow then
    failIf !s.keyAllowed
    openBlock s.cursor.column none .blockMappingStart
  dropKey
  allowKey !flow
  skip 1
  emit .key

/-- Take the indicator of a value. If a key may have started on this line, it has. -/
def takeValue : Scan Unit := do
  let s ← get
  let flow ← inFlow
  match s.keyPlace with
  | some place =>
    insertAt place.token .key
    openBlock place.column (some place.token) .blockMappingStart
    modify fun s => { s with keyPlace := none, keyAllowed := false }
  | none =>
    if !flow then
      failIf !s.keyAllowed
      openBlock s.cursor.column none .blockMappingStart
    allowKey !flow
  skip 1
  emit .value

/-- Take a token that a key may start with. -/
def takeNamed (token : Scan Token) : Scan Unit := do
  rememberKey
  allowKey false
  emit (← token)

/-- Take a text in quotes. -/
def takeQuoted (single : Bool) : Scan Unit := do
  rememberKey
  allowKey false
  let cur := (← get).cursor.skip 1
  let (text, cur) ← quoted single [] {} cur (2 * cur.rest.length + 2)
  modify fun s => { s with cursor := cur }
  emit (.scalar false (String.ofList text.reverse))

/-- Take a text that is a block. -/
def takeBlockScalar (literal : Bool) : Scan Unit := do
  dropKey
  allowKey true
  let s ← get
  let parent := if s.indent < 0 then none else some s.indent.toNat
  let (text, cur) ← blockScalar literal parent (s.cursor.skip 1)
  modify fun s => { s with cursor := cur }
  emit (.scalar false (String.ofList text.reverse))

/-- Take a plain scalar. -/
def takePlain : Scan Unit := do
  rememberKey
  allowKey false
  let s ← get
  let result ← plain (← inFlow) (s.indent + 1).toNat [] {} s.cursor (2 * s.cursor.rest.length + 2)
  modify fun s => { s with cursor := result.cursor, keyAllowed := s.keyAllowed || result.lineEnded }
  emit (.scalar true (String.ofList result.text.reverse))

/-- Whether a plain scalar may start with a character, followed by another. -/
def startsPlain (flow : Bool) (c : Char) (next : Option Char) : Bool :=
  !(isBlank c || isBreak c || "-?:,[]\x7b\x7d#&*!|>'\"%@`".contains c) ||
    (c == '-' && !next.any isBlank) ||
    (!flow && (c == '?' || c == ':') && !endsWord next)

/-- Take the token that starts with a character. -/
def takeToken (c : Char) : Scan Unit := do
  let cur := (← get).cursor
  let flow ← inFlow
  let next := cur.peek? 1
  if cur.column == 0 && c == '%' then
    leaveBlocks
    emit (← directive)
  else if cur.atDocumentMark then
    leaveBlocks
    skip 3
    emit (if c == '-' then .documentStart else .documentEnd)
  else if c == '[' then openFlow .flowSequenceStart
  else if c == '\x7b' then openFlow .flowMappingStart
  else if c == ']' then closeFlow .flowSequenceEnd
  else if c == '\x7d' then closeFlow .flowMappingEnd
  else if c == ',' then
    dropKey
    allowKey true
    skip 1
    emit .flowEntry
  else if c == '-' && endsWord next then takeBlockEntry
  else if c == '?' && (flow || endsWord next) then takeKey
  else if c == ':' && (flow || endsWord next) then takeValue
  else if c == '*' then takeNamed (Token.alias <$> anchorName)
  else if c == '&' then takeNamed (Token.anchor <$> anchorName)
  else if c == '!' then takeNamed tagToken
  else if c == '|' && !flow then takeBlockScalar true
  else if c == '>' && !flow then takeBlockScalar false
  else if c == '\'' then takeQuoted true
  else if c == '"' then takeQuoted false
  else if startsPlain flow c next then takePlain
  else failure

/-- Take all tokens up to the end of the text. -/
def takeTokens : Nat → Scan Unit
  | 0 => failure
  | fuel + 1 => do
    toNextToken ((← get).cursor.rest.length + 1)
    dropStaleKeys
    unindent (Int.ofNat (← get).cursor.column)
    match (← get).cursor.head? with
    | none => leaveBlocks
    | some c =>
      takeToken c
      takeTokens fuel

end Scan

/-- The tokens of a text, if it has no others. A byte order mark in front does not count. -/
def tokens? (text : String) : Option (List Token) :=
  let chars := match text.toList with
    | '\ufeff' :: rest => rest
    | chars => chars
  if chars.all isAllowed then
    ((Scan.takeTokens (chars.length + 2)).run { cursor := { rest := chars } }).map fun (_, s) =>
      s.tokens.reverse
  else none

end ResourceInference.Yaml
