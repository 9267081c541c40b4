import ResourceInference.Data.Number

/-!
# Types of plain YAML scalars

The type that a scalar without quotes has by itself: null, boolean, integer (also `0x`, `0o` and
`0b`), float, or else a text. Digits after a leading zero are a text (`010`), and so is everything
with `_`.
-/

set_option autoImplicit false

namespace ResourceInference.Yaml

/-- What a plain scalar is. -/
inductive PlainKind where
  | null
  | bool (b : Bool)
  | number (n : Number)
  /-- An infinity, or what is not a number. -/
  | nonFinite
  /-- An integer that does not fit into 64 bits, but into 128. -/
  | oversized
  | text
  deriving DecidableEq

/-- The scalars that are null. -/
def isNullWord (s : String) : Bool := s = "null" || s = "Null" || s = "NULL" || s = "~"

/-- The scalars that are booleans. -/
def boolWord? (s : String) : Option Bool :=
  if s = "true" ∨ s = "True" ∨ s = "TRUE" then some true
  else if s = "false" ∨ s = "False" ∨ s = "FALSE" then some false
  else none

/-- The value of a digit in a radix of at most sixteen. -/
def digitValue? (radix : Nat) (c : Char) : Option Nat :=
  let value :=
    if c.isDigit then c.toNat - '0'.toNat
    else if c.isLower then c.toNat - 'a'.toNat + 10
    else if c.isUpper then c.toNat - 'A'.toNat + 10
    else 16
  if value < radix then some value else none

/-- The number that digits of a radix spell; at least one digit is needed. -/
def natOfDigits? (radix : Nat) : List Char → Option Nat
  | [] => none
  | digits => digits.foldl
      (fun n c => n.bind fun n => (digitValue? radix c).map (n * radix + ·)) (some 0)

/-- A sign in front of a scalar, cut off. -/
def dropSign : List Char → List Char
  | '+' :: rest => rest
  | '-' :: rest => rest
  | cs => cs

/-- More than one digit, the first of them zero, after a sign or none. -/
def isZeroPadded (cs : List Char) : Bool :=
  match dropSign cs with
  | '0' :: c :: rest => c.isDigit && rest.all Char.isDigit
  | _ => false

/-- The size of an integer without its sign, in one of the four radixes. -/
def magnitude? : List Char → Option Nat
  | '0' :: 'x' :: rest => natOfDigits? 16 rest
  | '0' :: 'o' :: rest => natOfDigits? 8 rest
  | '0' :: 'b' :: rest => natOfDigits? 2 rest
  | cs => natOfDigits? 10 cs

/-- The integer that a scalar spells. -/
def integer? (cs : List Char) : Option Int :=
  if isZeroPadded cs then none
  else match cs with
    | '-' :: rest => (magnitude? rest).map fun n => -(Int.ofNat n)
    | '+' :: rest => (magnitude? rest).map Int.ofNat
    | _ => (magnitude? cs).map Int.ofNat

/-- What an integer is: a number if it fits into 64 bits, signed or not. -/
def integerKind? (n : Int) : Option PlainKind :=
  let bound (bits : Nat) : Int := Int.ofNat (Nat.pow 2 bits)
  if -bound 63 ≤ n ∧ n < bound 64 then some (.number (.integer n))
  else if -bound 127 ≤ n ∧ n < bound 128 then some .oversized
  else none

/-- The float nearest to `digits · 10^exponent`, if it is finite. -/
def nearestFloat? (digits : List Char) (exponent : Int) : Option Float :=
  let significand := digits.foldl (fun n c => n * 10 + (c.toNat - '0'.toNat)) 0
  let size := Int.ofNat (Nat.toDigits 10 significand).length + exponent
  if significand = 0 ∨ size < -400 then some 0.0
  else if 400 < size then none
  else
    let x := if 0 ≤ exponent then
        Float.ofScientific (significand * Nat.pow 10 exponent.toNat) false 0
      else Float.ofScientific significand true (-exponent).toNat
    if x.isInf then none else some x

/-- The exponent that ends a float, or none at all. -/
def exponent? : List Char → Option Int
  | [] => some 0
  | c :: rest =>
    if c = 'e' ∨ c = 'E' then
      match rest with
      | '-' :: digits => (natOfDigits? 10 digits).map fun n => -(Int.ofNat n)
      | '+' :: digits => (natOfDigits? 10 digits).map Int.ofNat
      | digits => (natOfDigits? 10 digits).map Int.ofNat
    else none

/-- The float that a scalar without a sign spells: digits, with a point among them or not, and an
exponent or none. -/
def unsignedFloat? (cs : List Char) : Option Float :=
  let whole := cs.takeWhile Char.isDigit
  let (fraction, tail) := match cs.dropWhile Char.isDigit with
    | '.' :: rest => (rest.takeWhile Char.isDigit, rest.dropWhile Char.isDigit)
    | rest => ([], rest)
  if whole.isEmpty && fraction.isEmpty then none
  else (exponent? tail).bind fun exponent =>
    nearestFloat? (whole ++ fraction) (exponent - Int.ofNat fraction.length)

/-- The float that a scalar spells. -/
def float? : List Char → Option Float
  | '-' :: rest => (unsignedFloat? rest).map (-·)
  | '+' :: rest => unsignedFloat? rest
  | cs => unsignedFloat? cs

/-- Whether a scalar is one of the words for an infinity or for what is not a number. -/
def isNonFiniteWord (s : String) : Bool :=
  [".inf", ".Inf", ".INF", "+.inf", "+.Inf", "+.INF", "-.inf", "-.Inf", "-.INF",
    ".nan", ".NaN", ".NAN"].contains s

/-- What a plain scalar is by itself. -/
def plainKind (s : String) : PlainKind :=
  if s.isEmpty || isNullWord s then .null
  else match boolWord? s with
    | some b => .bool b
    | none =>
      match (integer? s.toList).bind integerKind? with
      | some kind => kind
      | none =>
        if isZeroPadded s.toList then .text
        else if isNonFiniteWord s then .nonFinite
        else match float? s.toList with
          | some x => .number (.ofFloat x)
          | none => .text

end ResourceInference.Yaml
