/-!
# Runs of code points

Character properties and case mappings are tables of runs: arithmetic progressions of code
points, most of them with step 1, some with step 2 because upper and lower case alternate.
-/

set_option autoImplicit false

namespace ResourceInference.Text

/-- The code points `first, first + step, …, last`. -/
structure CodeRun where
  first : Nat
  last : Nat
  step : Nat
  deriving Repr, DecidableEq

/-- A run of code points that a mapping moves by one amount. -/
structure CodeShift where
  run : CodeRun
  amount : Int
  deriving Repr, DecidableEq

/-- Whether a code point lies on the run. -/
def CodeRun.contains (run : CodeRun) (code : Nat) : Bool :=
  run.first ≤ code && code ≤ run.last && (code - run.first) % run.step == 0

/-- Whether a character lies on one of the runs of a table. -/
def inRuns (table : List CodeRun) (c : Char) : Bool :=
  table.any (·.contains c.toNat)

/-- Where a table of shifts sends a code point, if a run of the table holds it. -/
def shifted? (table : List CodeShift) (code : Nat) : Option Nat :=
  (table.find? (·.run.contains code)).map fun row => (Int.ofNat code + row.amount).toNat

/-- The code points that a table of shifts sends to `code`. -/
def unshifted (table : List CodeShift) (code : Nat) : List Nat :=
  table.filterMap fun row =>
    let source := (Int.ofNat code - row.amount).toNat
    if row.run.contains source then some source else none

end ResourceInference.Text
