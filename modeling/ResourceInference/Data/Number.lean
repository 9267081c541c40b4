import ResourceInference.Decimal.Shortest

/-!
# Numbers in documents

A number is an integer or a 64-bit float, and stays what its text made it: `1` and `1.0` are
different numbers. A float is kept as its bits, so that numbers have decidable equality; the
comparison of two numbers by value (`Number.same`) takes `0.0` and `-0.0` for one.

A float is written with the fewest digits that read back, positionally from `1e-5` up to below
`1e16` and with an exponent elsewhere, and never without `.` or `e`.
-/

set_option autoImplicit false

namespace ResourceInference

/-- A number of a document. -/
inductive Number where
  | integer (n : Int)
  | real (bits : UInt64)
  deriving DecidableEq, Repr, Inhabited

namespace Number

/-- The number of a float. -/
def ofFloat (x : Float) : Number := real x.toBits

/-- Whether two numbers are of one kind and have one value. -/
def same : Number → Number → Bool
  | integer m, integer n => m == n
  | real a, real b => Float.ofBits a == Float.ofBits b
  | _, _ => false

/-- Where positional notation of floats begins and ends, as powers of ten. -/
structure RealFormat where
  leastPoint : Int
  greatestPoint : Int

/-- The decimal point stands at most four places in front of the first digit, and at most sixteen
behind it. -/
def realFormat : RealFormat := ⟨-4, 16⟩

/-- `count` zeros. -/
def zeros (count : Int) : String := String.ofList (List.replicate count.toNat '0')

/-- The digits of a float with a decimal point put in, or with an exponent. -/
def renderScientific (s : Decimal.Scientific) : String :=
  let digits := Nat.repr s.digits
  let count := Int.ofNat digits.length
  let point := count + s.exponent
  if 0 ≤ s.exponent && point ≤ realFormat.greatestPoint then
    digits ++ zeros s.exponent ++ ".0"
  else if 0 < point && point ≤ realFormat.greatestPoint then
    String.ofList (digits.toList.take point.toNat) ++ "." ++
      String.ofList (digits.toList.drop point.toNat)
  else if realFormat.leastPoint ≤ point && point ≤ 0 then "0." ++ zeros (-point) ++ digits
  else
    let first := String.ofList (digits.toList.take 1)
    let rest := String.ofList (digits.toList.drop 1)
    (if rest.isEmpty then first else first ++ "." ++ rest) ++ "e" ++ toString (point - 1)

/-- The text of a float. -/
def renderReal (bits : UInt64) : String :=
  let parts := Decimal.binaryParts bits
  let sign := if parts.negative then "-" else ""
  if parts.m = 0 then sign ++ "0.0"
  else sign ++ renderScientific (Decimal.shortest parts.m parts.q parts.lowest)

/-- The text of a number. -/
def render : Number → String
  | integer n => toString n
  | real bits => renderReal bits

end Number

end ResourceInference
