/-
The value of an expression.

All operands are evaluated, from left to right, before an operator looks at any of
them; no operand is skipped, also not those of a choice or of the connectives. Integers
stay integers among themselves and become doubles next to one.
-/
import MapScript.Expr.Literal
import MapScript.Expr.Tree
import MapScript.Expr.Function

set_option autoImplicit false

namespace MapScript.Expr

/-! ## Operators -/

/-- Keeps an integer that fits into 64 bits. -/
def fits (n : Int) : Option Int :=
  if Number.leastInt64 ≤ n ∧ n ≤ Number.greatestInt64 then some n else none

/-- The checked result of an operation on integers. -/
def Arithmetic.onInts : Arithmetic → Int → Int → Option Int
  | .add, a, b => fits (a + b)
  | .subtract, a, b => fits (a - b)
  | .multiply, a, b => fits (a * b)
  | .divide, a, b => if b = 0 then none else fits (a.tdiv b)
  | .modulate, a, b =>
    -- the remainder exists only where the quotient does
    if b = 0 then none else (fits (a.tdiv b)).map fun _ => a.tmod b

/-- The result of an operation on doubles. -/
def Arithmetic.onFloats : Arithmetic → Float → Float → Float
  | .add => (· + ·)
  | .subtract => (· - ·)
  | .multiply => (· * ·)
  | .divide => (· / ·)
  | .modulate => Number.remainder

/-- An operation on two numbers. -/
def Arithmetic.apply (operation : Arithmetic) (left right : Value) : Except Error Value := do
  let x ← left.toNumber
  let y ← right.toNumber
  match left, right with
  | .int a, .int b =>
    match operation.onInts a b with
    | some n => .ok (.int n)
    | none => .error (.overflow operation a b)
  | _, _ => .ok (.float (operation.onFloats x y))

/-- Refuses what is neither a number nor a text. -/
def requireNumberOrString (value : Value) : Except Error Unit :=
  match value with
  | .string _ | .int _ | .float _ => .ok ()
  | _ => .error (.unexpected .numberOrString value)

/-- The sum of two numbers, or two texts put together. -/
def sum (left right : Value) : Except Error Value := do
  requireNumberOrString left
  requireNumberOrString right
  match left, right with
  | .string a, .string b => .ok (.string (a ++ b))
  | .string _, _ => .error (.wrongSum [left.kind, right.kind])
  | _, .string _ => .error (.wrongSum [left.kind, right.kind])
  | _, _ => Arithmetic.add.apply left right

/-- The comparisons by size. -/
inductive Comparison where
  | gt
  | lt
  | ge
  | le
deriving Repr, DecidableEq

/-- Whether an order of two things is as the comparison wants it. -/
def Comparison.accepts : Comparison → Ordering → Bool
  | .gt, order => order == .gt
  | .lt, order => order == .lt
  | .ge, order => order != .lt
  | .le, order => order != .gt

/-- The comparison of two doubles; the absent number is in no order to any other. -/
def Comparison.onFloats : Comparison → Float → Float → Bool
  | .gt, x, y => x > y
  | .lt, x, y => x < y
  | .ge, x, y => x ≥ y
  | .le, x, y => x ≤ y

/-- Compares two texts or two numbers. -/
def Comparison.apply (comparison : Comparison) (left right : Value) : Except Error Value := do
  requireNumberOrString left
  requireNumberOrString right
  match left, right with
  | .string a, .string b => .ok (.boolean (comparison.accepts (Text.order a b)))
  | .int a, .int b => .ok (.boolean (comparison.accepts (compare a b)))
  | _, _ => do
    let x ← left.toNumber
    .ok (.boolean (comparison.onFloats x (← right.toNumber)))

/-- The value of an operator with two operands. -/
def Sign.apply (sign : Sign) (left right : Value) : Except Error Value :=
  match sign with
  | .plus => sum left right
  | .minus => Arithmetic.subtract.apply left right
  | .star => Arithmetic.multiply.apply left right
  | .slash => Arithmetic.divide.apply left right
  | .percent => Arithmetic.modulate.apply left right
  | .hat => do
    let x ← left.toNumber
    .ok (.float (x.pow (← right.toNumber)))
  | .eq => .ok (.boolean (left.same right))
  | .ne => .ok (.boolean (!left.same right))
  | .gt => Comparison.gt.apply left right
  | .lt => Comparison.lt.apply left right
  | .ge => Comparison.ge.apply left right
  | .le => Comparison.le.apply left right
  | .and => do
    let a ← left.toBoolean
    let b ← right.toBoolean
    .ok (.boolean (a && b))
  | .or => do
    let a ← left.toBoolean
    let b ← right.toBoolean
    .ok (.boolean (a || b))

/-- The number with the other sign. -/
def negate (value : Value) : Except Error Value :=
  match value with
  | .int n =>
    match fits (-n) with
    | some m => .ok (.int m)
    | none => .error (.negationOverflow n)
  | .float x => .ok (.float (-x))
  | _ => .error (.unexpected .number value)

/-- **The value of an operator** for the values of its operands. -/
def Operator.apply (operator : Operator) (operands : List Value) : Except Error Value :=
  let wrongCount (expected : Nat) : Except Error Value :=
    .error (.operandCount expected operands.length)
  match operator with
  | .group => .ok (operands.head?.getD .empty)
  | .sign s =>
    match operands with
    | [left, right] => s.apply left right
    | _ => wrongCount 2
  | .negate =>
    match operands with
    | [value] => Expr.negate value
    | _ => wrongCount 1
  | .not =>
    match operands with
    | [value] => do .ok (.boolean (!(← value.toBoolean)))
    | _ => wrongCount 1
  | .assign | .assignWith => .error .assignment
  | .tuple => .ok (.tuple operands)
  | .chain =>
    match operands.getLast? with
    | some value => .ok value
    | none => wrongCount 1
  | .constant value => if operands.isEmpty then .ok value else wrongCount 0
  | .target name => if operands.isEmpty then .ok (.string name) else wrongCount 0
  | .lookup name => if operands.isEmpty then .error (.unboundVariable name) else wrongCount 0
  | .call name =>
    match operands with
    | [argument] => callFunction name argument
    | _ => wrongCount 1

/-! ## Trees -/

mutual

/-- The value of a tree. -/
def Node.eval : Node → Except Error Value
  | .mk operator operands => do
    let values ← Node.evalAll operands
    operator.apply values.reverse

/-- The values of operands, last one first; the first operand is evaluated first. -/
def Node.evalAll : List Node → Except Error (List Value)
  | [] => .ok []
  | last :: earlier => do
    let values ← Node.evalAll earlier
    let value ← Node.eval last
    .ok (value :: values)

end

/-- The value of a text in which whole numbers have been marked. -/
def evaluateMarked (text : Text) : Except Error Value := do
  (← Node.ofTokens (← tokenize text)).eval

/-- **The text of the value of an expression.** -/
def evaluate (expression : Text) : Except Error Text :=
  (evaluateMarked (markIntegers expression)).map Value.render

end MapScript.Expr
