import ResourceInference.Data.Number

/-!
# JSON tokens

A JSON text as a list of tokens. The lexer is a machine with one step for every character, so it
is structurally recursive on the text. A token that is broken off or misspelt becomes a token of
its own, `Token.broken`, which says what is wrong: the text ends (`truncated`) or goes on in a way
that it must not (`malformed`).
-/

set_option autoImplicit false

namespace ResourceInference.Json

/-- Why a text is not JSON. -/
inductive ReadError where
  /-- The text ends too early. -/
  | truncated
  /-- The text goes on in a way that is not JSON. -/
  | malformed
  deriving DecidableEq, Repr

/-- A scalar other than a string. -/
inductive Literal where
  | null
  | bool (b : Bool)
  | number (n : Number)

/-- A token of JSON. -/
inductive Token where
  | openList
  | closeList
  | openObject
  | closeObject
  | colon
  | comma
  | literal (value : Literal)
  | string (s : String)
  /-- No token; `quoted` if it starts as a string. -/
  | broken (quoted : Bool) (cause : ReadError)

/-! ## Numbers -/

/-- The greatest significand that is kept digit by digit. -/
def significandLimit : Nat := Nat.pow 2 64

/-- Read digits onto a significand. Digits that would take it past the limit are dropped; the
count of digits read and of digits dropped is returned with it, and what follows the digits. -/
def takeDigits (significand read dropped : Nat) :
    List Char → Nat × Nat × Nat × List Char
  | [] => (significand, read, dropped, [])
  | c :: rest =>
    if c.isDigit then
      let grown := significand * 10 + (c.toNat - '0'.toNat)
      if dropped = 0 ∧ grown < significandLimit then takeDigits grown (read + 1) 0 rest
      else takeDigits significand (read + 1) (dropped + 1) rest
    else (significand, read, dropped, c :: rest)

/-- Divide by ten so often, 308 times at a time. -/
def divideByTens (x : Float) (tens : Nat) : Nat → Float
  | 0 => x
  | bound + 1 =>
    if x == 0.0 then x
    else if tens ≤ 308 then x / Float.ofScientific 1 false tens
    else divideByTens (x / 1e308) (tens - 308) bound

/-- The float of a significand and a power of ten: both are rounded, and so is their product or
quotient. A float too great to be finite is no number. -/
def scaled? (negative : Bool) (significand : Nat) (exponent : Int) : Option Number :=
  let x := Float.ofNat significand
  let magnitude : Option Float :=
    if 0 ≤ exponent then
      if 308 < exponent then (if significand = 0 then some x else none)
      else
        let y := x * Float.ofScientific 1 false exponent.toNat
        if y.isInf then none else some y
    else some (divideByTens x (-exponent).toNat ((-exponent).toNat / 308 + 1))
  magnitude.map fun y => Number.ofFloat (if negative then -y else y)

/-- An integer if it fits into 64 bits, signed or not, or else a float. `-0` is a float. -/
def integerNumber (negative : Bool) (n : Nat) : Number :=
  if !negative then .integer n
  else if n = 0 ∨ Nat.pow 2 63 < n then .ofFloat (-(Float.ofNat n))
  else .integer (-(Int.ofNat n))

/-- The number that an exponent ends. `significand · 10^shift` is what stands in front of it. -/
def readExponent (negative : Bool) (significand : Nat) (shift : Int) (atEnd : ReadError)
    (cs : List Char) : Except ReadError Number :=
  let (down, digits) := match cs with
    | '+' :: rest => (false, rest)
    | '-' :: rest => (true, rest)
    | _ => (false, cs)
  match digits with
  | [] => .error atEnd
  | _ =>
    if digits.all Char.isDigit then
      let size := digits.foldl (fun n c => n * 10 + (c.toNat - '0'.toNat)) 0
      if Nat.pow 2 31 ≤ size then
        if significand = 0 ∨ down then .ok (.ofFloat (if negative then -0.0 else 0.0))
        else .error .malformed
      else
        let exponent := shift + (if down then -(Int.ofNat size) else Int.ofNat size)
        match scaled? negative significand exponent with
        | some n => .ok n
        | none => .error .malformed
    else .error .malformed

/-- The number that a fraction or an exponent ends. -/
def readFraction (negative : Bool) (significand dropped : Nat) (atEnd : ReadError) :
    List Char → Except ReadError Number
  | '.' :: rest =>
    let (all, read, lost, tail) := takeDigits significand 0 0 rest
    if read = 0 then (if tail.isEmpty then .error atEnd else .error .malformed)
    else
      let shift := Int.ofNat dropped + Int.ofNat lost - Int.ofNat read
      match tail with
      | [] => (scaled? negative all shift).elim (.error .malformed) .ok
      | c :: exponent =>
        if c = 'e' ∨ c = 'E' then readExponent negative all shift atEnd exponent
        else .error .malformed
  | c :: exponent =>
    if c = 'e' ∨ c = 'E' then readExponent negative significand dropped atEnd exponent
    else .error .malformed
  | [] =>
    if dropped = 0 then .ok (integerNumber negative significand)
    else (scaled? negative significand dropped).elim (.error .malformed) .ok

/-- The number that a run of the characters of numbers spells. `atEnd` is what is wrong with a
number that the run breaks off. -/
def readNumber (atEnd : ReadError) (cs : List Char) : Except ReadError Number :=
  let (negative, digits) := match cs with
    | '-' :: rest => (true, rest)
    | _ => (false, cs)
  match digits with
  | [] => .error atEnd
  | '0' :: rest =>
    if (rest.head?.map Char.isDigit).getD false then .error .malformed
    else readFraction negative 0 0 atEnd rest
  | c :: _ =>
    if c.isDigit then
      let (significand, _, dropped, tail) := takeDigits 0 0 0 digits
      readFraction negative significand dropped atEnd tail
    else .error .malformed

/-! ## Words -/

/-- The scalar that a run of letters spells. -/
def readWord (atEnd : ReadError) (word : List Char) : Except ReadError Literal :=
  if word = "null".toList then .ok .null
  else if word = "true".toList then .ok (.bool true)
  else if word = "false".toList then .ok (.bool false)
  else if ["null", "true", "false"].any fun full => word.isPrefixOf full.toList then .error atEnd
  else .error .malformed

/-! ## The machine -/

/-- Where the machine is. Characters read so far are kept last first. -/
inductive Mode where
  | between
  | inNumber (read : List Char)
  | inWord (read : List Char)
  | inString (read : List Char)
  | escaped (read : List Char)
  /-- In a `\u` escape, after some of its digits; `high` is the first half of a surrogate pair
  that the escape has to complete. -/
  | unicode (read : List Char) (high : Option Nat) (digits : List Char)
  /-- After the first half of a surrogate pair. -/
  | halfPair (read : List Char) (high : Nat)
  /-- After the first half of a surrogate pair and a backslash. -/
  | halfPairEscaped (read : List Char) (high : Nat)

/-- White space of JSON. -/
def isSpace (c : Char) : Bool := c == ' ' || c == '\n' || c == '\t' || c == '\r'

/-- The characters that numbers consist of. -/
def isNumberChar (c : Char) : Bool :=
  c.isDigit || c == '-' || c == '+' || c == '.' || c == 'e' || c == 'E'

/-- The value of a hexadecimal digit. -/
def hexValue? (c : Char) : Option Nat :=
  if c.isDigit then some (c.toNat - '0'.toNat)
  else if 'a' ≤ c ∧ c ≤ 'f' then some (c.toNat - 'a'.toNat + 10)
  else if 'A' ≤ c ∧ c ≤ 'F' then some (c.toNat - 'A'.toNat + 10)
  else none

/-- The number that hexadecimal digits spell, first digit first. -/
def hexNumber? (digits : List Char) : Option Nat :=
  digits.foldl (fun n c => n.bind fun n => (hexValue? c).map (n * 16 + ·)) (some 0)

/-- The token that a run of characters of numbers ends in. -/
def numberToken (atEnd : ReadError) (read : List Char) : Token :=
  match readNumber atEnd read.reverse with
  | .ok n => .literal (.number n)
  | .error cause => .broken false cause

/-- The token that a run of letters ends in. -/
def wordToken (atEnd : ReadError) (read : List Char) : Token :=
  match readWord atEnd read.reverse with
  | .ok value => .literal value
  | .error cause => .broken false cause

/-- The token of a string. -/
def stringToken (read : List Char) : Token := .string (String.ofList read.reverse)

/-- The token of a character between tokens. -/
def punctuation? : Char → Option Token
  | '[' => some .openList
  | ']' => some .closeList
  | '\x7b' => some .openObject
  | '\x7d' => some .closeObject
  | ':' => some .colon
  | ',' => some .comma
  | _ => none

/-- What a character between tokens does: the tokens it ends, and the mode it starts. -/
def start (c : Char) : List Token × Mode :=
  if isSpace c then ([], .between)
  else match punctuation? c with
    | some token => ([token], .between)
    | none =>
      if c = '"' then ([], .inString [])
      else if c = '-' || c.isDigit then ([], .inNumber [c])
      else if c.isAlpha then ([], .inWord [c])
      else ([.broken false .malformed], .between)

/-- The character that a backslash and a letter stand for. -/
def escape? : Char → Option Char
  | '"' => some '"'
  | '\\' => some '\\'
  | '/' => some '/'
  | 'b' => some '\x08'
  | 'f' => some '\x0c'
  | 'n' => some '\n'
  | 'r' => some '\r'
  | 't' => some '\t'
  | _ => none

/-- What the code unit of a `\u` escape does in a string. -/
def afterUnit (read : List Char) (high : Option Nat) (unit : Nat) : List Token × Mode :=
  match high with
  | none =>
    if 0xD800 ≤ unit ∧ unit < 0xDC00 then ([], .halfPair read unit)
    else if 0xDC00 ≤ unit ∧ unit < 0xE000 then ([.broken true .malformed], .between)
    else ([], .inString (Char.ofNat unit :: read))
  | some first =>
    if 0xDC00 ≤ unit ∧ unit < 0xE000 then
      let code := 0x10000 + (first - 0xD800) * 0x400 + (unit - 0xDC00)
      ([], .inString (Char.ofNat code :: read))
    else ([.broken true .malformed], .between)

/-- One step: the tokens that a character ends, and the mode after it. -/
def step : Mode → Char → List Token × Mode
  | .between, c => start c
  | .inNumber read, c =>
    if isNumberChar c then ([], .inNumber (c :: read))
    else
      let (tokens, mode) := start c
      (numberToken .malformed read :: tokens, mode)
  | .inWord read, c =>
    if c.isAlphanum then ([], .inWord (c :: read))
    else
      let (tokens, mode) := start c
      (wordToken .malformed read :: tokens, mode)
  | .inString read, c =>
    if c = '"' then ([stringToken read], .between)
    else if c = '\\' then ([], .escaped read)
    else if c.toNat < 32 then ([.broken true .malformed], .between)
    else ([], .inString (c :: read))
  | .escaped read, c =>
    if c = 'u' then ([], .unicode read none [])
    else match escape? c with
      | some char => ([], .inString (char :: read))
      | none => ([.broken true .malformed], .between)
  | .unicode read high digits, c =>
    let digits := digits ++ [c]
    if digits.length < 4 then ([], .unicode read high digits)
    else match hexNumber? digits with
      | some unit => afterUnit read high unit
      | none => ([.broken true .malformed], .between)
  | .halfPair read high, c =>
    if c = '\\' then ([], .halfPairEscaped read high) else ([.broken true .malformed], .between)
  | .halfPairEscaped read high, c =>
    if c = 'u' then ([], .unicode read (some high) []) else ([.broken true .malformed], .between)

/-- The token that the end of the text ends. -/
def finish : Mode → List Token
  | .between => []
  | .inNumber read => [numberToken .truncated read]
  | .inWord read => [wordToken .truncated read]
  | .unicode _ _ digits =>
    [.broken true (if (String.ofList digits).utf8ByteSize < 4 then .truncated else .malformed)]
  | _ => [.broken true .truncated]

/-- The tokens of a text. -/
def tokens (mode : Mode) : List Char → List Token
  | [] => finish mode
  | c :: rest =>
    let (ended, next) := step mode c
    ended ++ tokens next rest

end ResourceInference.Json
