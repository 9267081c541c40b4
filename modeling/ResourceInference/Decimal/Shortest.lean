/-!
# Shortest decimal digits of a binary fraction

A finite 64-bit float is `m · 2^q`, and stands for every real number that rounds to it. Among the
decimal grids of 1, 2, … digits the first one that has a point in this interval gives the digits;
of two points the nearer one is taken, and of two equally near ones the even one.

All arithmetic is exact, on natural numbers.
-/

set_option autoImplicit false

namespace ResourceInference.Decimal

/-- A positive number `digits · 10^exponent`. -/
structure Scientific where
  digits : Nat
  exponent : Int
  deriving DecidableEq, Repr

/-- A positive rational number. -/
structure Ratio where
  num : Nat
  den : Nat

namespace Ratio

/-- `m · 2^q` -/
def ofBinary (m : Nat) (q : Int) : Ratio :=
  if 0 ≤ q then ⟨m * Nat.pow 2 q.toNat, 1⟩ else ⟨m, Nat.pow 2 (-q).toNat⟩

/-- `r · 10^-k` -/
def scaleDown (r : Ratio) (k : Int) : Ratio :=
  if 0 ≤ k then ⟨r.num, r.den * Nat.pow 10 k.toNat⟩
  else ⟨r.num * Nat.pow 10 (-k).toNat, r.den⟩

def lt (a b : Ratio) : Bool := a.num * b.den < b.num * a.den

def le (a b : Ratio) : Bool := a.num * b.den ≤ b.num * a.den

end Ratio

/-- How many decimal digits a number has. -/
def digitCount (n : Nat) : Nat := (Nat.toDigits 10 n).length

/-- How often a number has to be multiplied by ten to reach 1, `bound` at most. -/
def stepsToOne (r : Ratio) : Nat → Nat
  | 0 => 0
  | bound + 1 => if r.den ≤ r.num then 0 else stepsToOne ⟨r.num * 10, r.den⟩ bound + 1

/-- The `e` with `10^e ≤ r < 10^(e+1)`, for `r` no smaller than a 64-bit float. -/
def magnitude (r : Ratio) : Int :=
  if r.den ≤ r.num then Int.ofNat (digitCount (r.num / r.den)) - 1
  else - Int.ofNat (stepsToOne r 400)

/-- The real numbers that round to one float: the ends belong to it if `closed`. -/
structure Interval where
  low : Ratio
  high : Ratio
  closed : Bool

/-- Whether a number rounds to the float of the interval. -/
def Interval.contains (i : Interval) (r : Ratio) : Bool :=
  if i.closed then i.low.le r && r.le i.high else i.low.lt r && r.lt i.high

/-- Twice the distance of a grid point above and below: negative if `lower` is nearer to
`scaled`, zero if both neighbours are equally near. -/
def nearerLower (scaled : Ratio) (lower : Nat) : Int :=
  2 * Int.ofNat scaled.num - Int.ofNat ((2 * lower + 1) * scaled.den)

/-- The best point of the grid with step `10^k` among the two neighbours of the value, if one of
them lies in the interval. -/
def gridPoint? (value : Ratio) (i : Interval) (k : Int) : Option Scientific :=
  let scaled := value.scaleDown k
  let lower := scaled.num / scaled.den
  let inside (n : Nat) : Bool := i.contains (Ratio.scaleDown ⟨n, 1⟩ (-k))
  let lowerFits := 0 < lower && inside lower
  let upperFits := inside (lower + 1)
  if lowerFits && upperFits then
    let d := nearerLower scaled lower
    some ⟨if d < 0 || (d == 0 && lower % 2 == 0) then lower else lower + 1, k⟩
  else if lowerFits then some ⟨lower, k⟩
  else if upperFits then some ⟨lower + 1, k⟩
  else none

/-- The first grid with a point, starting at `k` and refining `steps` times. -/
def firstGridPoint (value : Ratio) (i : Interval) (k : Int) : Nat → Scientific
  | 0 => ⟨0, 0⟩
  | steps + 1 => (gridPoint? value i k).getD (firstGridPoint value i (k - 1) steps)

/-- Move trailing zeros of the digits into the exponent, `bound` of them at most. -/
def stripZeros (s : Scientific) : Nat → Scientific
  | 0 => s
  | bound + 1 =>
    if s.digits % 10 = 0 ∧ s.digits ≠ 0 then stripZeros ⟨s.digits / 10, s.exponent + 1⟩ bound
    else s

/-- The fewest digits that read back as `m · 2^q`, where `m` is positive and `lowest` says that
`m` is the least significand of its exponent, so that the float below is only half as far. -/
def shortest (m : Nat) (q : Int) (lowest : Bool) : Scientific :=
  let value := Ratio.ofBinary m q
  let interval : Interval := {
    low := if lowest then Ratio.ofBinary (4 * m - 1) (q - 2) else Ratio.ofBinary (2 * m - 1) (q - 1)
    high := Ratio.ofBinary (2 * m + 1) (q - 1)
    closed := m % 2 == 0 }
  stripZeros (firstGridPoint value interval (magnitude value) 18) 20

/-- A 64-bit float taken apart: its sign, its significand `m` and its exponent `q`, and whether
`m` is the least significand of a normal exponent above the lowest one. -/
structure BinaryParts where
  negative : Bool
  m : Nat
  q : Int
  lowest : Bool

/-- The parts of a float, given by its bits. -/
def binaryParts (bits : UInt64) : BinaryParts :=
  let n := bits.toNat
  let fraction := n % Nat.pow 2 52
  let biased := (n / Nat.pow 2 52) % 2048
  if biased = 0 then ⟨Nat.pow 2 63 ≤ n, fraction, -1074, false⟩
  else
    ⟨Nat.pow 2 63 ≤ n, fraction + Nat.pow 2 52, Int.ofNat biased - 1075,
      fraction == 0 && 1 < biased⟩

end ResourceInference.Decimal
