/-
Scaling of point definitions.

A point definition is a JSON array of points, and a point an array of components. The
last number of a point is its time. What stands before the time is scaled, as far as it
is a number; the time and what stands after it, such as the name of an easing, stays.
-/
import MapScript.Builtin.Numeric
import MapScript.Json.Reader

set_option autoImplicit false

namespace MapScript.Builtin

/-! ## Points -/

/-- A number as a component: a whole number of moderate size is an integer. -/
def component (x : Float) : Json :=
  if Number.isWhole x && decide (x.abs < 1e15) then .integer (Number.toInt64 x)
  else Json.ofFloat x

/-- A component that stands before the time. -/
def scaleComponent (factor : Float) (value : Json) : Json :=
  match value.toNumber? with
  | some x => component (x * factor)
  | none => value

/-- The position of the last number. -/
def lastNumber? : List Json → Option Nat
  | [] => none
  | value :: rest =>
    match lastNumber? rest with
    | some i => some (i + 1)
    | none => if value.isNumber then some 0 else none

/-- What is wrong with a point definition. -/
inductive PointFault where
  | notAnArray
  | pointNotAnArray
  | noTime
deriving Repr, DecidableEq

/-- The wording of a fault. -/
def PointFault.message : PointFault → Text
  | .notAnArray => "point definition must be an array".toList
  | .pointNotAnArray => "each point must be an array".toList
  | .noTime => "point has no time component".toList

/-- One point, scaled. -/
def scalePoint (factor : Float) (point : Json) : Except PointFault Json :=
  match point with
  | .array components =>
    match lastNumber? components with
    | some time =>
      .ok (.array
        ((components.take time).map (scaleComponent factor) ++ components.drop time))
    | none => .error .noTime
  | _ => .error .pointNotAnArray

/-- The points of a list, scaled one after the other. -/
def scalePointList (factor : Float) : List Json → Except PointFault (List Json)
  | [] => .ok []
  | point :: rest => do
    let scaled ← scalePoint factor point
    .ok (scaled :: (← scalePointList factor rest))

/-- **All points of a definition, scaled.** -/
def scalePoints (factor : Float) (definition : Json) : Except PointFault Json :=
  match definition with
  | .array points => (scalePointList factor points).map .array
  | _ => .error .notAnArray

/-! ## The function -/

/-- The scaled definition for the arguments. The factor stands after the last comma,
because the definition has commas of its own. -/
def scaledPoints (arguments : Arguments) : Except ScriptError Text :=
  match Text.cutLast ',' arguments.raw with
  | none => arguments.refuse "expected a point definition and a factor".toList
  | some (definition, factor) => do
    let factor ← arguments.number factor
    match Json.read (Text.trim definition) with
    | .error message =>
      arguments.refuse ("invalid point definition: ".toList ++ message)
    | .ok points =>
      match scalePoints factor points with
      | .error fault => arguments.refuse fault.message
      | .ok scaled => .ok scaled.compact

/-- **Scales a point definition** by a factor. -/
def multiplyPoints {m : Type → Type} [Monad m] : Function m :=
  fun arguments => pure (scaledPoints arguments)

end MapScript.Builtin
