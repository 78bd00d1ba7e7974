/-
Why an expression has no value.

Each cause is one constructor with what its message mentions; the wording is in one
function at the end.
-/
import MapScript.Expr.Value

set_option autoImplicit false

namespace MapScript.Expr

/-- What an operator or a function expected of one value. -/
inductive Expectation where
  | string
  | int
  | number
  | numberOrString
  | boolean
  | tuple
  | tupleOf (size : Nat)
  | tupleFrom (least greatest : Nat)
  | oneOf (kinds : List Kind)
deriving Repr, DecidableEq

/-- The checked operations on two integers. -/
inductive Arithmetic where
  | add
  | subtract
  | multiply
  | divide
  | modulate
deriving Repr, DecidableEq

/-- **Why an expression has no value.** -/
inductive Error where
  /-- A string literal without its closing quote. -/
  | unclosedQuote
  /-- A backslash in a string literal before anything but a quote or a backslash. -/
  | illegalEscape (escaped : Option Char)
  /-- A comment between slash and star without its end. -/
  | unclosedComment
  /-- A single `&` or `|` that ends the expression or stands before something else. -/
  | loneConnective (connective : Char) (next : Option Text)
  | unmatchedOpen
  | unmatchedClose
  /-- Two operands next to each other around a parenthesis. -/
  | missingOperator
  /-- An operand directly after an operand. -/
  | appendedToOperand
  | precedenceViolation
  | operandCount (expected actual : Nat)
  | unexpected (expectation : Expectation) (actual : Value)
  | wrongSum (kinds : List Kind)
  | overflow (operation : Arithmetic) (left right : Int)
  | negationOverflow (operand : Int)
  | assignment
  | unboundVariable (name : Text)
  | unboundFunction (name : Text)
  | invalidIndex
  | wrongArity (function : Text) (expected actual : Nat)
  | wrongChoiceArity (actual : Nat)
  | missingCandidate

/-! ## Wording -/

/-- What the value should have been. -/
def Expectation.phrase : Expectation → Text
  | .string => "a Value::String".toList
  | .int => "a Value::Int".toList
  | .number => "a Value::Float or Value::Int".toList
  | .numberOrString => "a Value::Number or a Value::String".toList
  | .boolean => "a Value::Boolean".toList
  | .tuple => "a Value::Tuple".toList
  | .tupleOf size => "a Value::Tuple of length ".toList ++ Text.ofNat size
  | .tupleFrom least greatest =>
    "a Value::Tuple of length ".toList ++ Text.ofNat least ++ " to ".toList ++
      Text.ofNat greatest
  | .oneOf kinds =>
    "one of [".toList ++ Text.join [',', ' '] (kinds.map Kind.name) ++ [']']

/-- The operation as a message begins with it. -/
def Arithmetic.participle : Arithmetic → Text
  | .add => "adding".toList
  | .subtract => "subtracting".toList
  | .multiply => "multiplying".toList
  | .divide => "dividing".toList
  | .modulate => "modulating".toList

/-- The sign of the operation. -/
def Arithmetic.sign : Arithmetic → Char
  | .add => '+'
  | .subtract => '-'
  | .multiply => '*'
  | .divide => '/'
  | .modulate => '%'

/-- **The message of an error.** -/
def Error.message : Error → Text
  | .unclosedQuote => "Found an unmatched double quote '\"'".toList
  | .illegalEscape escaped => "Illegal escape sequence: \\".toList ++ escaped.toList
  | .unclosedComment => "Error: unmatched inline comment".toList
  | .loneConnective c none =>
    "Found a partial token '".toList ++ [c] ++
      "' that should be followed by another partial token.".toList
  | .loneConnective c (some next) =>
    "Found a partial token '".toList ++ [c] ++ "' that should not be followed by '".toList ++
      next ++ "'.".toList
  | .unmatchedOpen => "Found an unmatched opening parenthesis '('.".toList
  | .unmatchedClose => "Found an unmatched closing parenthesis ')'.".toList
  | .missingOperator =>
    ("Found an opening parenthesis that is preceded by something that does not take " ++
      "any arguments on the right, or found a closing parenthesis that is succeeded by " ++
      "something that does not take any arguments on the left.").toList
  | .appendedToOperand => "Tried to append a node to a leaf node.".toList
  | .precedenceViolation =>
    "Tried to append a node to another node with higher precedence.".toList
  | .operandCount expected actual =>
    "An operator expected ".toList ++ Text.ofNat expected ++ " arguments, but got ".toList ++
      Text.ofNat actual ++ ['.']
  | .unexpected expectation actual =>
    "Expected ".toList ++ expectation.phrase ++ ", but got ".toList ++ actual.describe ++ ['.']
  | .wrongSum kinds =>
    "The operator Add was called with a wrong combination of types: [".toList ++
      Text.join [',', ' '] (kinds.map Kind.name) ++ [']']
  | .overflow operation left right =>
    "Error ".toList ++ operation.participle ++ [' '] ++ Text.ofInt left ++
      [' ', operation.sign, ' '] ++ Text.ofInt right
  | .negationOverflow operand => "Error negating -".toList ++ Text.ofInt operand
  | .assignment => "Cannot manipulate context".toList
  | .unboundVariable name =>
    "Variable identifier is not bound to anything by context: ".toList ++ Text.quoted name ++
      ['.']
  | .unboundFunction name =>
    "Function identifier is not bound to anything by context: ".toList ++ Text.quoted name ++
      ['.']
  | .invalidIndex => "Tried to access a tuple or string at an invalid index".toList
  | .wrongArity function expected actual =>
    "Error: ".toList ++ function ++ " expects ".toList ++ Text.ofNat expected ++
      " argument(s), got ".toList ++ Text.ofNat actual
  | .wrongChoiceArity actual =>
    "Error: if expects 3 arguments, got ".toList ++ Text.ofNat actual
  | .missingCandidate => "Error: in expects a value and at least one candidate".toList

end MapScript.Expr
