/-
The shortest decimal that reads back as a given double.

A decimal reads back as a double when it lies in the interval of reals that are
rounded to it: half a spacing to both sides, a quarter below a power of two, the
ends included exactly when the mantissa is even. For one digit, two digits and so
on, the two neighbours of the value on the grid of decimals of that length are
tried; the first grid with a neighbour in the interval is the shortest, because a
grid that has any point in the interval has one of these two there.

All comparisons are between natural numbers: the value, the ends of the interval and
the grid points are brought over one denominator.
-/
import MapScript.Number.Exact

set_option autoImplicit false

namespace MapScript.Number

/-! ## Intervals -/

/-- The reals that are rounded to one double, in quarters of a unit. -/
structure Interval where
  low : Nat
  value : Nat
  high : Nat
  closed : Bool
deriving Repr

/-- The interval of the double with this positive count of units. -/
def Interval.ofUnits (units : Nat) : Interval :=
  let bits := spacingBits units
  let spacing := Nat.pow 2 bits
  let narrow := decide (0 < bits) && units == Nat.pow 2 (bits + 52)
  { low := 4 * units - (if narrow then spacing else 2 * spacing)
    value := 4 * units
    high := 4 * units + 2 * spacing
    closed := units / spacing % 2 == 0 }

/-- Quarters of a unit in the number one. -/
def quartersPerOne : Nat := 4 * unitsPerOne

/-! ## Decimal grids -/

/-- A positive decimal: `digits` are the significant digits read as one number, and
`exponent` is the power of ten of the first of them. -/
structure Decimal where
  digits : Nat
  exponent : Int
deriving Repr, DecidableEq

/-- Whether ten to the power `e` is at most the number with this many quarters. -/
def powerAtMost (e : Int) (quarters : Nat) : Bool :=
  if 0 ≤ e then decide (Nat.pow 10 e.toNat * quartersPerOne ≤ quarters)
  else decide (quartersPerOne ≤ quarters * Nat.pow 10 (-e).toNat)

/-- The power of ten of the first digit. The binary logarithm fixes it up to one. -/
def leadingExponent (quarters : Nat) : Int :=
  let guess := ((quarters.log2 : Int) - 1076) * 30103 / 100000
  if powerAtMost (guess + 1) quarters then guess + 1
  else if powerAtMost guess quarters then guess
  else guess - 1

/-- Which of two equally near decimals is taken. -/
inductive Tie where
  | up
  | toEven
deriving Repr, DecidableEq

/-- The nearest decimal of `count` digits that lies in the interval, if one does.
`first` is the power of ten of the first digit of the value. -/
def Interval.decimal? (interval : Interval) (tie : Tie) (first : Int) (count : Nat) :
    Option Decimal :=
  -- one step of the grid is `10 ^ last`; `step` and `scale` bring it and the
  -- quarters over one denominator
  let last := first - (count : Int) + 1
  let step := quartersPerOne * Nat.pow 10 last.toNat
  let scale := Nat.pow 10 (-last).toNat
  let below := interval.value * scale / step
  let above := below + 1
  let inside (n : Nat) : Bool :=
    if interval.closed then
      decide (interval.low * scale ≤ n * step) && decide (n * step ≤ interval.high * scale)
    else decide (interval.low * scale < n * step) && decide (n * step < interval.high * scale)
  let toBelow := interval.value * scale - below * step
  let toAbove := above * step - interval.value * scale
  let aboveIsNearer :=
    decide (toAbove < toBelow) ||
      (toAbove == toBelow && (match tie with | .up => true | .toEven => below % 2 == 1))
  let chosen? :=
    if inside below && inside above then some (if aboveIsNearer then above else below)
    else if inside below then some below
    else if inside above then some above
    else none
  -- the neighbour above may have one digit more
  chosen?.map fun n => if n = Nat.pow 10 count then ⟨1, first + 1⟩ else ⟨n, first⟩

/-- The first grid among those of `count` digits and more on which the interval has
a point. Seventeen digits tell any two doubles apart, so `fuel` is never used up. -/
def Interval.shortestFrom (interval : Interval) (tie : Tie) (first : Int) :
    (fuel count : Nat) → Decimal
  | 0, count => ⟨interval.value * Nat.pow 10 count / quartersPerOne, first⟩
  | fuel + 1, count =>
    match interval.decimal? tie first count with
    | some decimal => decimal
    | none => interval.shortestFrom tie first fuel (count + 1)

/-- **The shortest decimal** that reads back as the double with this positive count
of units, and of several the nearest. -/
def shortest (tie : Tie) (units : Nat) : Decimal :=
  let interval := Interval.ofUnits units
  interval.shortestFrom tie (leadingExponent interval.value) 17 1

end MapScript.Number
