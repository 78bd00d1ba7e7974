/-
Random numbers between two bounds.

`random` draws a number at or above the lower bound and below the upper one, and
`randomint` an integer between the bounds, both included. Where the bounds leave no
choice nothing is drawn.
-/
import MapScript.Builtin.Numeric

set_option autoImplicit false

namespace MapScript

/-- Monads in which numbers can be drawn: every number from zero to `n` is as likely as
any other. -/
class Draws (m : Type → Type) where
  draw : (n : Nat) → m (Fin (n + 1))

namespace Builtin

/-- The two bounds that the arguments give, the lower one first. -/
def bounds (arguments : Arguments) : Except ScriptError (Float × Float) :=
  match arguments.items with
  | [low, high] => do
    let low ← arguments.number low
    let high ← arguments.number high
    if low > high then
      arguments.refuse ("min (".toList ++ Number.plain.render low ++
        ") is greater than max (".toList ++ Number.plain.render high ++ [')'])
    else .ok (low, high)
  | items =>
    arguments.refuse ("expected 2 arguments (min,max), got ".toList ++ Text.ofNat items.length)

/-! ## Real numbers -/

/-- What a call of `random` has to do. -/
inductive RealChoice where
  | forced (x : Float)
  | between (low high : Float)

/-- The choice that the arguments leave. -/
def realChoice (arguments : Arguments) : Except ScriptError RealChoice := do
  let (low, high) ← bounds arguments
  if low == high then .ok (.forced low)
  else if Number.isFinite (high - low) then .ok (.between low high)
  else arguments.refuse "range is too wide".toList

/-- The number at `step` of the `2 ^ 52` equal steps from `low` to `high`. Rounding never
puts a later step before an earlier one, but it may carry the last ones to `high`. -/
def atStep (low high : Float) (step : Nat) : Float :=
  Float.ofNat step / Float.ofNat (Nat.pow 2 52) * (high - low) + low

/-- The greatest step whose number is below `high` and which agrees with `step` above its
last `bits` bits. -/
def lastStepFrom (low high : Float) : (bits step : Nat) → Nat
  | 0, step => step
  | bits + 1, step =>
    let raised := step + Nat.pow 2 bits
    lastStepFrom low high bits (if atStep low high raised < high then raised else step)

/-- The last step whose number is below `high`. -/
def lastStep (low high : Float) : Nat := lastStepFrom low high 52 0

variable {m : Type → Type} [Monad m] [Draws m]

/-- **A random number** between two bounds. Of the steps that stay below the upper bound,
each is as likely as any other. -/
def random : Function m := fun arguments => do
  match realChoice arguments with
  | .error error => pure (.error error)
  | .ok (.forced x) => pure (.ok (Number.format x))
  | .ok (.between low high) =>
    let step ← Draws.draw (lastStep low high)
    pure (.ok (Number.plain.render (atStep low high step.val)))

/-! ## Integers -/

/-- The least and the greatest integer between the bounds; of integers beyond 64 bits
the last one that fits is taken. -/
def integerRange (arguments : Arguments) : Except ScriptError (Int × Int) := do
  let (low, high) ← bounds arguments
  let least := Number.Rounding.toInt .up Number.leastInt64 Number.greatestInt64 low
  let greatest := Number.Rounding.toInt .down Number.leastInt64 Number.greatestInt64 high
  if least > greatest then arguments.refuse "range holds no integer".toList
  else .ok (least, greatest)

/-- **A random integer** between two bounds. -/
def randomInteger : Function m := fun arguments => do
  match integerRange arguments with
  | .error error => pure (.error error)
  | .ok (least, greatest) =>
    let step ← Draws.draw (greatest - least).toNat
    pure (.ok (Text.ofInt (least + step.val)))

end Builtin

end MapScript
