/-
The functions of expressions.

A function takes one value: what stands in its parentheses, a tuple when there are
commas. The script functions take their arguments from it one by one and complain
about their number in words of their own; the library functions insist on a tuple of
the right length. A name is looked up among the script functions first.
-/
import MapScript.Text.Case
import MapScript.Text.Blank
import MapScript.Number.Hyperbolic
import MapScript.Expr.Error

set_option autoImplicit false

namespace MapScript.Expr

/-! ## Reading values -/

namespace Value

/-- The value as a double. -/
def toNumber (value : Value) : Except Error Float :=
  match value with
  | .float x => .ok x
  | .int n => .ok (Float.ofInt n)
  | _ => .error (.unexpected .number value)

/-- The value as an integer. -/
def toInt (value : Value) : Except Error Int :=
  match value with
  | .int n => .ok n
  | _ => .error (.unexpected .int value)

/-- The value as a truth value. -/
def toBoolean (value : Value) : Except Error Bool :=
  match value with
  | .boolean b => .ok b
  | _ => .error (.unexpected .boolean value)

/-- The value as a text. -/
def toText (value : Value) : Except Error Text :=
  match value with
  | .string text => .ok text
  | _ => .error (.unexpected .string value)

/-- The members of a tuple. -/
def toItems (value : Value) : Except Error (List Value) :=
  match value with
  | .tuple items => .ok items
  | _ => .error (.unexpected .tuple value)

/-- The two members of a pair. -/
def toPair (value : Value) : Except Error (Value × Value) :=
  match value with
  | .tuple [first, second] => .ok (first, second)
  | .tuple _ => .error (.unexpected (.tupleOf 2) value)
  | _ => .error (.unexpected .tuple value)

/-- Whether the value is one of the list. -/
def isAmong (value : Value) (items : List Value) : Bool := items.any (same · value)

end Value

/-! ## Script functions -/

/-- The arguments that a function gets: the members of a tuple, nothing, or one. -/
def argumentsOf : Value → List Value
  | .tuple items => items
  | .empty => []
  | value => [value]

/-- The arguments as doubles, if there are `arity` of them. -/
def numbers (function : Text) (arity : Nat) (argument : Value) : Except Error (List Float) :=
  let arguments := argumentsOf argument
  if arguments.length = arity then arguments.mapM Value.toNumber
  else .error (.wrongArity function arity arguments.length)

/-- The sign of a number as a number. -/
def signum (x : Float) : Float := if x > 0.0 then 1.0 else if x < 0.0 then -1.0 else 0.0

/-- The larger number. The absent number gives way, and of two equal ones the second
stands: that shows when both are zeros of different signs. -/
def larger (x y : Float) : Float := if x.isNaN || x ≤ y then y else x

/-- The smaller number. The absent number gives way, and of two equal ones the second
stands: that shows when both are zeros of different signs. -/
def smaller (x y : Float) : Float := if x.isNaN || y ≤ x then y else x

/-- The difference to the nearest multiple of the divisor. -/
def nearestRemainder (x y : Float) : Float :=
  x - y * Number.Rounding.nearestEven.apply (x / y)

/-- The script functions of one number. -/
def scriptUnary? (name : String) : Option (Float → Float) :=
  match name with
  | "Abs" => some Float.abs
  | "Acos" => some Float.acos
  | "Asin" => some Float.asin
  | "Atan" => some Float.atan
  | "Ceiling" => some Number.Rounding.up.apply
  | "Cos" => some Float.cos
  | "Exp" => some Float.exp
  | "Floor" => some Number.Rounding.down.apply
  | "Log10" => some Float.log10
  | "Sign" => some signum
  | "Sin" => some Float.sin
  | "Sqrt" => some Float.sqrt
  | "Tan" => some Float.tan
  | "Truncate" => some Number.Rounding.towardZero.apply
  | _ => none

/-- The script functions of two numbers. -/
def scriptBinary? (name : String) : Option (Float → Float → Float) :=
  match name with
  | "Pow" => some Float.pow
  | "Log" => some fun x base => x.log / base.log
  | "Max" => some larger
  | "Min" => some smaller
  | "IEEERemainder" => some nearestRemainder
  | _ => none

/-- A number rounded to a count of decimal places, a half to the even neighbour. -/
def roundTo (digits x : Float) : Float :=
  let scale := Number.power 10.0 (Number.toInt32 digits)
  Number.Rounding.nearestEven.apply (x * scale) / scale

/-- Rounds to whole numbers, or to the places that a second argument counts. -/
def round (argument : Value) : Except Error Value := do
  let arity := if (argumentsOf argument).length = 1 then 1 else 2
  match ← numbers "Round".toList arity argument with
  | x :: digits :: _ => .ok (.float (roundTo digits x))
  | [x] => .ok (.float (Number.Rounding.nearestEven.apply x))
  | [] => .ok .empty

/-- Chooses between two values; both have been evaluated. -/
def choose (argument : Value) : Except Error Value :=
  match argumentsOf argument with
  | [condition, yes, no] => do
    if ← condition.toBoolean then .ok yes else .ok no
  | arguments => .error (.wrongChoiceArity arguments.length)

/-- Whether the first argument is among the others. -/
def isOneOf (argument : Value) : Except Error Value :=
  match argumentsOf argument with
  | value :: candidate :: more => .ok (.boolean (value.isAmong (candidate :: more)))
  | _ => .error .missingCandidate

/-- **The script functions.** -/
def scriptFunction? (name : Text) : Option (Value → Except Error Value) :=
  let name := String.ofList name
  match scriptUnary? name with
  | some f => some fun argument => do
    match ← numbers name.toList 1 argument with
    | [x] => .ok (.float (f x))
    | _ => .ok .empty
  | none =>
    match scriptBinary? name with
    | some f => some fun argument => do
      match ← numbers name.toList 2 argument with
      | [x, y] => .ok (.float (f x y))
      | _ => .ok .empty
    | none =>
      match name with
      | "Round" => some round
      | "if" => some choose
      | "in" => some isOneOf
      | _ => none

/-! ## Library functions of numbers -/

/-- The library functions of one number. -/
def libraryUnary? (name : String) : Option (Float → Float) :=
  match name with
  | "math::ln" => some Float.log
  | "math::log2" => some Float.log2
  | "math::log10" => some Float.log10
  | "math::exp" => some Float.exp
  | "math::exp2" => some Float.exp2
  | "math::cos" => some Float.cos
  | "math::acos" => some Float.acos
  | "math::cosh" => some Float.cosh
  | "math::acosh" => some Float.acosh
  | "math::sin" => some Float.sin
  | "math::asin" => some Float.asin
  | "math::sinh" => some Float.sinh
  | "math::asinh" => some Float.asinh
  | "math::tan" => some Float.tan
  | "math::atan" => some Float.atan
  | "math::tanh" => some Float.tanh
  | "math::atanh" => some Number.artanh
  | "math::sqrt" => some Float.sqrt
  | "math::cbrt" => some Number.cubeRoot
  | "floor" => some Number.Rounding.down.apply
  | "ceil" => some Number.Rounding.up.apply
  | "round" => some Number.Rounding.nearestAway.apply
  | _ => none

/-- The library functions of two numbers. -/
def libraryBinary? (name : String) : Option (Float → Float → Float) :=
  match name with
  | "math::log" => some fun x base => x.log / base.log
  | "math::pow" => some Float.pow
  | "math::atan2" => some Float.atan2
  | "math::hypot" => some Number.hypotenuse
  | _ => none

/-- Whether a number is neither zero nor so small that it has lost digits. -/
def isNormal (x : Float) : Bool :=
  match Number.decode x with
  | .finite _ units => decide (Nat.pow 2 52 ≤ units)
  | _ => false

/-- The library predicates of numbers. -/
def libraryPredicate? (name : String) : Option (Float → Bool) :=
  match name with
  | "math::is_nan" => some Float.isNaN
  | "math::is_finite" => some Number.isFinite
  | "math::is_infinite" => some Float.isInf
  | "math::is_normal" => some isNormal
  | _ => none

/-! ## Integers of 64 bits -/

/-- The integer of 64 bits with the same last 64 bits. -/
def wrapInt64 (n : Int) : Int := n.bmod (Nat.pow 2 64)

/-- The last 64 bits of an integer. -/
def bitsOf (n : Int) : Nat := (n.emod (Nat.pow 2 64 : Nat)).toNat

/-- An operation on bits as one on integers. -/
def onBits (f : Nat → Nat → Nat) (a b : Int) : Int := wrapInt64 (f (bitsOf a) (bitsOf b))

/-- The count by which a shift by `n` moves the bits. -/
def shiftCount (n : Int) : Nat := (n.emod 64).toNat

/-- The library functions of two integers. -/
def libraryIntBinary? (name : String) : Option (Int → Int → Int) :=
  match name with
  | "bitand" => some (onBits Nat.land)
  | "bitor" => some (onBits Nat.lor)
  | "bitxor" => some (onBits Nat.xor)
  | "shl" => some fun a n => wrapInt64 (a * (Nat.pow 2 (shiftCount n) : Nat))
  | "shr" => some fun a n => a.fdiv (Nat.pow 2 (shiftCount n) : Nat)
  | _ => none

/-! ## Library functions of tuples and texts -/

/-- The extreme of the integers and the extreme of the doubles of a tuple, starting
from the given ones. -/
def extremes (pickInt : Int → Int → Int) (pickFloat : Float → Float → Float) :
    Int × Float → List Value → Except Error (Int × Float)
  | found, [] => .ok found
  | (n, x), .float y :: rest => extremes pickInt pickFloat (n, pickFloat x y) rest
  | (n, x), .int m :: rest => extremes pickInt pickFloat (pickInt n m, x) rest
  | _, value :: _ => .error (.unexpected .number value)

/-- The smallest number of a tuple. -/
def least (argument : Value) : Except Error Value := do
  let (n, x) ← extremes min smaller (Number.greatestInt64, 1.0 / 0.0) (← argument.toItems)
  .ok (if Float.ofInt n < x then .int n else .float x)

/-- The greatest number of a tuple. -/
def greatest (argument : Value) : Except Error Value := do
  let (n, x) ← extremes max larger (Number.leastInt64, -1.0 / 0.0) (← argument.toItems)
  .ok (if Float.ofInt n > x then .int n else .float x)

/-- The name of the kind of a value. -/
def kindText : Kind → Text
  | .string => "string".toList
  | .float => "float".toList
  | .int => "int".toList
  | .boolean => "boolean".toList
  | .tuple => "tuple".toList
  | .empty => "empty".toList

/-- Whether a value can be looked for in a tuple. -/
def isPlain (value : Value) : Bool :=
  match value.kind with
  | .tuple | .empty => false
  | _ => true

/-- The refusal to look for a value in a tuple. -/
def notPlain (value : Value) : Error :=
  .unexpected (.oneOf [.string, .int, .float, .boolean]) value

/-- Whether a tuple holds a value. -/
def tupleHolds (argument : Value) : Except Error Value := do
  let (items, value) ← argument.toPair
  let items ← items.toItems
  if isPlain value then .ok (.boolean (value.isAmong items)) else .error (notPlain value)

/-- Whether a tuple holds one of the values of another. -/
def tupleHoldsAny (argument : Value) : Except Error Value := do
  let (items, values) ← argument.toPair
  let items ← items.toItems
  let values ← values.toItems
  match values.find? fun value => !isPlain value with
  | some value => .error (notPlain value)
  | none => .ok (.boolean (values.any (·.isAmong items)))

/-- The number of bytes of a text or of members of a tuple. -/
def size (argument : Value) : Except Error Value :=
  match argument with
  | .string text => .ok (.int text.byteSize)
  | .tuple items => .ok (.int items.length)
  | _ => .error (.unexpected (.oneOf [.string, .tuple]) argument)

/-- The value as a position in a text: an integer that is not negative. -/
def Value.toPosition (value : Value) : Except Error Nat := do
  let n ← value.toInt
  if n < 0 then .error .invalidIndex else .ok n.toNat

/-- The bytes of a text from one position up to another. -/
def slice (text : Text) (start stop : Nat) : Except Error Value :=
  if stop < start ∨ text.byteSize < stop then .error .invalidIndex
  else .ok (.string (Text.takeBytes (stop - start) (text.dropBytes start)))

/-- A part of a text: from a position to its end or up to a second position. The
positions are read from left to right, and the first that is no position is the one
complained about. -/
def substring (argument : Value) : Except Error Value :=
  match argument with
  | .tuple [text, start] => do
    let text ← text.toText
    slice text (← start.toPosition) text.byteSize
  | .tuple [text, start, stop] => do
    let text ← text.toText
    let start ← start.toPosition
    slice text start (← stop.toPosition)
  | .tuple _ => .error (.unexpected (.tupleFrom 2 3) argument)
  | _ => .error (.unexpected .tuple argument)

/-- The text of a value: a text is its own, and any other value is spelled out. -/
def textOf : Value → Text
  | .string text => text
  | value => value.spell

/-- A function of texts as one of values. -/
def onText (f : Text → Text) (argument : Value) : Except Error Value := do
  .ok (.string (f (← argument.toText)))

/-- The absolute value; an integer stays one. -/
def absolute (argument : Value) : Except Error Value :=
  match argument with
  | .int n => .ok (.int (wrapInt64 n.natAbs))
  | .float x => .ok (.float x.abs)
  | _ => .error (.unexpected .number argument)

/-- The library functions with rules of their own. -/
def librarySpecial? (name : String) : Option (Value → Except Error Value) :=
  match name with
  | "math::abs" => some absolute
  | "min" => some least
  | "max" => some greatest
  | "typeof" => some fun argument => .ok (.string (kindText argument.kind))
  | "contains" => some tupleHolds
  | "contains_any" => some tupleHoldsAny
  | "len" => some size
  | "bitnot" => some fun argument => do .ok (.int (-(← argument.toInt) - 1))
  | "str::to_lowercase" => some (onText Text.toLower)
  | "str::to_uppercase" => some (onText Text.toUpper)
  | "str::trim" => some (onText Text.trim)
  | "str::from" => some fun argument => .ok (.string (textOf argument))
  | "str::substring" => some substring
  | _ => none

/-- **The library functions.** -/
def libraryFunction? (name : Text) : Option (Value → Except Error Value) :=
  let name := String.ofList name
  match libraryUnary? name with
  | some f => some fun argument => do .ok (.float (f (← argument.toNumber)))
  | none =>
    match libraryBinary? name with
    | some f => some fun argument => do
      let (x, y) ← argument.toPair
      let x ← x.toNumber
      .ok (.float (f x (← y.toNumber)))
    | none =>
      match libraryPredicate? name with
      | some f => some fun argument => do .ok (.boolean (f (← argument.toNumber)))
      | none =>
        match libraryIntBinary? name with
        | some f => some fun argument => do
          let (a, b) ← argument.toPair
          let a ← a.toInt
          .ok (.int (f a (← b.toInt)))
        | none => librarySpecial? name

/-- Calls the function of a name. -/
def callFunction (name : Text) (argument : Value) : Except Error Value :=
  match scriptFunction? name with
  | some f => f argument
  | none =>
    match libraryFunction? name with
    | some f => f argument
    | none => .error (.unboundFunction name)

end MapScript.Expr
