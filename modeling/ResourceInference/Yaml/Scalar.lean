import ResourceInference.Yaml.Cursor

/-!
# YAML scalars

The four ways to write a text: plain, in quotes of two kinds, and as a block. Ends of lines inside
a scalar are folded: one of them becomes a space, of several the first is dropped. Characters read
so far are kept last first.
-/

set_option autoImplicit false

namespace ResourceInference.Yaml

/-! ## Folding -/

/-- White space that has been passed and not yet written: blanks on a line, or the ends of lines
and whatever blanks are between them. -/
structure Gap where
  /-- Blanks, last first. -/
  blanks : List Char := []
  /-- The first end of a line, if there is one and it is not escaped. -/
  firstBreak : Option Char := none
  /-- The other ends of lines, last first. -/
  moreBreaks : List Char := []
  /-- Whether a line has ended. -/
  ended : Bool := false

namespace Gap

/-- A gap with one blank more; blanks behind the end of a line do not count. -/
def addBlank (g : Gap) (c : Char) : Gap :=
  if g.ended then g else { g with blanks := c :: g.blanks }

/-- A gap with one end of a line more; blanks in front of it do not count. -/
def addBreak (g : Gap) (c : Char) : Gap :=
  if g.ended then { g with moreBreaks := c :: g.moreBreaks }
  else { g with blanks := [], firstBreak := some c, ended := true }

/-- The text of a gap, last character first. -/
def text (g : Gap) : List Char :=
  if g.ended then
    match g.firstBreak with
    | some '\n' => if g.moreBreaks.isEmpty then [' '] else g.moreBreaks
    | some c => g.moreBreaks ++ [c]
    | none => g.moreBreaks
  else g.blanks

end Gap

/-- Pass blanks and ends of lines. In a plain scalar of a block no tab may stand in front of the
column `indent`. -/
def passGap (indent : Option Nat) (g : Gap) (cur : Cursor) : Nat → Option (Gap × Cursor)
  | 0 => none
  | fuel + 1 =>
    match cur.head? with
    | some c =>
      if isBlank c then
        if g.ended && c == '\t' && indent.any (cur.column < ·) then none
        else passGap indent (g.addBlank c) (cur.skip 1) fuel
      else if isBreak c then passGap indent (g.addBreak cur.breakChar) cur.skipBreak fuel
      else some (g, cur)
    | none => some (g, cur)

/-! ## Plain scalars -/

/-- What a scanner of a plain scalar brings: its text, whether a line ended behind it, and the
place behind it. -/
structure PlainResult where
  text : List Char
  lineEnded : Bool
  cursor : Cursor

/-- Whether a plain scalar ends at a place. -/
def endsPlain (inFlow : Bool) (cur : Cursor) : Bool :=
  match cur.head? with
  | none => true
  | some c =>
    isBlank c || isBreak c || (c == ':' && endsWord (cur.peek? 1)) ||
      (inFlow && [',', '[', ']', '\x7b', '\x7d'].contains c)

/-- Whether a colon stands in front of an indicator of a flow collection. -/
def isStrayColon (inFlow : Bool) (cur : Cursor) : Bool :=
  inFlow && cur.head? == some ':' &&
    ((cur.peek? 1).map [',', '?', '[', ']', '\x7b', '\x7d'].contains).getD false

/-- The characters of a plain scalar up to white space or its end. -/
def plainWord (inFlow : Bool) (done : List Char) (cur : Cursor) :
    Nat → Option (List Char × Cursor)
  | 0 => none
  | fuel + 1 =>
    if isStrayColon inFlow cur then none
    else if endsPlain inFlow cur then some (done, cur)
    else match cur.head? with
      | some c => plainWord inFlow (c :: done) (cur.skip 1) fuel
      | none => some (done, cur)

/-- A plain scalar whose block is indented to `indent`. `done` is its text so far and `g` the gap
behind it. -/
def plain (inFlow : Bool) (indent : Nat) (done : List Char) (g : Gap) (cur : Cursor) :
    Nat → Option PlainResult
  | 0 => none
  | fuel + 1 => do
    let stop : PlainResult := ⟨done, g.ended, cur⟩
    if cur.atDocumentMark || cur.head? == some '#' then pure stop
    else
      let (word, cur) ← plainWord inFlow [] cur fuel
      let stop : PlainResult :=
        if word.isEmpty then ⟨done, g.ended, cur⟩ else ⟨word ++ g.text ++ done, false, cur⟩
      if !((cur.head?.map fun c => isBlank c || isBreak c).getD false) then pure stop
      else
        let before := if word.isEmpty then g else {}
        let (gap, next) ← passGap (some indent) before cur fuel
        if !inFlow && next.column < indent then
          pure { stop with lineEnded := gap.ended, cursor := next }
        else plain inFlow indent stop.text gap next fuel

/-! ## Quoted scalars -/

/-- The value of a hexadecimal digit. -/
def hexDigitValue? (c : Char) : Option Nat :=
  if c.isDigit then some (c.toNat - '0'.toNat)
  else if 'a' ≤ c ∧ c ≤ 'f' then some (c.toNat - 'a'.toNat + 10)
  else if 'A' ≤ c ∧ c ≤ 'F' then some (c.toNat - 'A'.toNat + 10)
  else none

/-- The character that an escape letter stands for. -/
def escapeChar? : Char → Option Char
  | '0' => some '\x00'
  | 'a' => some '\x07'
  | 'b' => some '\x08'
  | 't' => some '\t'
  | '\t' => some '\t'
  | 'n' => some '\n'
  | 'v' => some '\x0b'
  | 'f' => some '\x0c'
  | 'r' => some '\r'
  | 'e' => some '\x1b'
  | ' ' => some ' '
  | '"' => some '"'
  | '/' => some '/'
  | '\\' => some '\\'
  | 'N' => some '\x85'
  | '_' => some '\xa0'
  | 'L' => some '\u2028'
  | 'P' => some '\u2029'
  | _ => none

/-- How many hexadecimal digits follow an escape letter. -/
def escapeDigits? : Char → Option Nat
  | 'x' => some 2
  | 'u' => some 4
  | 'U' => some 8
  | _ => none

/-- The character of an escape, and the place behind it; the backslash is at the cursor. -/
def escapeAt (cur : Cursor) : Option (Char × Cursor) :=
  (cur.peek? 1).bind fun letter =>
    match escapeDigits? letter with
    | some count =>
      let digits := (cur.rest.drop 2).take count
      if digits.length ≠ count then none
      else (digits.foldl
          (fun n c => n.bind fun n => (hexDigitValue? c).map (n * 16 + ·)) (some 0)).bind
        fun code =>
          if code < 0xD800 ∨ (0xDFFF < code ∧ code < 0x110000) then
            some (Char.ofNat code, cur.skip (2 + count))
          else none
    | none => (escapeChar? letter).map fun c => (c, cur.skip 2)

/-- The text in quotes, from behind the first quote to behind the last one. `g` is the gap behind
the text so far. -/
def quoted (single : Bool) (done : List Char) (g : Gap) (cur : Cursor) :
    Nat → Option (List Char × Cursor)
  | 0 => none
  | fuel + 1 =>
    if cur.atDocumentMark then none
    else match cur.head? with
      | none => none
      | some c =>
        if isBlank c || isBreak c then
          (passGap none g cur fuel).bind fun (gap, next) => quoted single done gap next fuel
        else
          let done := g.text ++ done
          if single && c == '\'' then
            if cur.peek? 1 == some '\'' then quoted single ('\'' :: done) {} (cur.skip 2) fuel
            else some (done, cur.skip 1)
          else if !single && c == '"' then some (done, cur.skip 1)
          else if !single && c == '\\' then
            if (cur.peek? 1).any isBreak then
              quoted single done { ended := true } (cur.skip 1).skipBreak fuel
            else (escapeAt cur).bind fun (char, next) => quoted single (char :: done) {} next fuel
          else quoted single (c :: done) {} (cur.skip 1) fuel

/-! ## Block scalars -/

/-- What happens to the ends of lines at the end of a block scalar. -/
inductive Chomping where
  | strip
  | clip
  | keep
  deriving DecidableEq

/-- How a block scalar starts. -/
structure BlockHeader where
  chomping : Chomping := .clip
  /-- How much further in than its surroundings it stands, if this is said. -/
  increment : Option Nat := none

/-- The signs behind the indicator of a block scalar, in either order. -/
def blockHeader (cur : Cursor) : Option (BlockHeader × Cursor) :=
  let chomping? (c : Option Char) : Option Chomping :=
    if c == some '+' then some .keep else if c == some '-' then some .strip else none
  let digit? (c : Option Char) : Option Nat :=
    c.bind fun c => if c.isDigit then some (c.toNat - '0'.toNat) else none
  let (chomping, cur) := match chomping? cur.head? with
    | some chomping => (some chomping, cur.skip 1)
    | none => (none, cur)
  let (increment, cur) := match digit? cur.head? with
    | some n => (some n, cur.skip 1)
    | none => (none, cur)
  let (chomping, cur) := match chomping, increment, chomping? cur.head? with
    | none, some _, some chomping => (some chomping, cur.skip 1)
    | chomping, _, _ => (chomping, cur)
  if increment = some 0 then none else some (⟨chomping.getD .clip, increment⟩, cur)

/-- Pass indentation and empty lines. Without an `indent` every space is indentation. The ends of
lines come last first, with the greatest column that was reached. -/
def blockBreaks (indent : Option Nat) (breaks : List Char) (most : Nat) (cur : Cursor) :
    Nat → Option (List Char × Nat × Cursor)
  | 0 => none
  | fuel + 1 =>
    let spaces := (cur.rest.takeWhile (· == ' ')).length
    let next := match indent with
      | some n => cur.skip (min spaces (n - cur.column))
      | none => cur.skip spaces
    let most := max most next.column
    let inIndent := indent.all (next.column < ·)
    if inIndent && next.head? == some '\t' then none
    else if (next.head?.map isBreak).getD false then
      blockBreaks indent (next.breakChar :: breaks) most next.skipBreak fuel
    else some (breaks, most, next)

/-- The state between two lines of a block scalar: its text so far, the end of the last line, the
ends of the empty lines behind it, and whether the last line started with a blank. Texts are last
character first. -/
structure BlockState where
  done : List Char := []
  lastBreak : Option Char := none
  breaks : List Char := []
  blankStart : Bool := false

/-- What stands between the text so far and the next line, which starts with a blank or not. -/
def BlockState.joined (s : BlockState) (literal startsBlank : Bool) : List Char :=
  let folds := !literal && s.lastBreak == some '\n' && !s.blankStart && !startsBlank
  let joint :=
    if folds then (if s.breaks.isEmpty then [' '] else [])
    else s.lastBreak.toList
  s.breaks ++ joint ++ s.done

/-- The lines of a block scalar that is indented to `indent`. -/
def blockLines (literal : Bool) (indent : Nat) (s : BlockState) (cur : Cursor) :
    Nat → Option (BlockState × Cursor)
  | 0 => none
  | fuel + 1 =>
    if cur.column ≠ indent || cur.head?.isNone then some (s, cur)
    else
      let startsBlank := (cur.head?.map isBlank).getD false
      let content := cur.rest.takeWhile fun c => !isBreak c
      let behind := cur.skip content.length
      let done := content.reverse ++ s.joined literal startsBlank
      let lastBreak := if behind.head?.isNone then none else some behind.breakChar
      (blockBreaks (some indent) [] 0 behind.skipBreak fuel).bind fun (breaks, _, next) =>
        blockLines literal indent ⟨done, lastBreak, breaks, startsBlank⟩ next fuel

/-- A block scalar inside a block that is indented to `parent`, or to nothing. The indicator is
already passed. -/
def blockScalar (literal : Bool) (parent : Option Nat) (cur : Cursor) :
    Option (List Char × Cursor) := do
  let fuel := cur.rest.length + 2
  let (header, cur) ← blockHeader cur
  let cur := (cur.skipWhile isBlank).skipComment
  if !endsLine cur.head? then none
  let cur := cur.skipBreak
  let given := header.increment.map fun n => parent.getD 0 + n
  let (breaks, most, cur) ← blockBreaks given [] 0 cur fuel
  let indent := given.getD (max most (max 1 ((parent.map (· + 1)).getD 0)))
  let (s, cur) ← blockLines literal indent { breaks } cur fuel
  let done := match header.chomping with
    | .strip => s.done
    | .clip => s.lastBreak.toList ++ s.done
    | .keep => s.breaks ++ s.lastBreak.toList ++ s.done
  pure (done, cur)

end ResourceInference.Yaml
