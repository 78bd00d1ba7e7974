/-
Sets of characters as lists of code point ranges, and case mappings as lists of
runs. The tables of this library are values of these two types; membership is a
comparison of numbers, so a statement about a whole table is one about its rows.
-/
set_option autoImplicit false

namespace MapScript

/-! ## Ranges -/

/-- The code points from `first` to `last`, both included. -/
structure CodeRange where
  first : Nat
  last : Nat
deriving Repr, DecidableEq

namespace CodeRange

/-- The ranges that a table lists as pairs. -/
def ofPairs (pairs : List (Nat × Nat)) : List CodeRange :=
  pairs.map fun (first, last) => ⟨first, last⟩

/-- Whether the range holds the code point `n`. -/
def contains (range : CodeRange) (n : Nat) : Bool :=
  decide (range.first ≤ n) && decide (n ≤ range.last)

/-- Whether one of the ranges holds the character. -/
def anyContains (ranges : List CodeRange) (c : Char) : Bool :=
  ranges.any (·.contains c.toNat)

end CodeRange

/-! ## Runs of case partners -/

/-- Every `step`-th code point from `first` to `last`, each with the partner that
is `shift` above it. -/
structure CaseRun where
  first : Nat
  last : Nat
  step : Nat
  shift : Int
deriving Repr, DecidableEq

namespace CaseRun

/-- The runs that a table lists as quadruples. -/
def ofTuples (rows : List (Nat × Nat × Nat × Int)) : List CaseRun :=
  rows.map fun (first, last, step, shift) => ⟨first, last, step, shift⟩

/-- Whether the run holds the code point `n`. -/
def contains (run : CaseRun) (n : Nat) : Bool :=
  decide (run.first ≤ n) && decide (n ≤ run.last) && (n - run.first) % run.step == 0

/-- The partner of a code point of the run. -/
def partner (run : CaseRun) (n : Nat) : Nat := ((n : Int) + run.shift).toNat

/-- The partner of the character in the first run that holds it; a character of
no run is its own partner. -/
def map (runs : List CaseRun) (c : Char) : Char :=
  match runs.find? (·.contains c.toNat) with
  | some run => Char.ofNat (run.partner c.toNat)
  | none => c

end CaseRun

end MapScript
