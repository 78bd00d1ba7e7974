/-
The values of expressions, and the three ways they are written.

A value that reaches the script is written without any mark of its kind: a text as
it is, a number in the plain layout, a tuple as its members between commas. Inside
an expression a tuple can be turned into a text that keeps quotes and parentheses.
Messages name the kind of a value and show the value exactly.
-/
import MapScript.Text.Quoted
import MapScript.Number.Layout

set_option autoImplicit false

namespace MapScript.Expr

/-- **The value of an expression.** Integers have 64 bits; every operation on them
checks that its result fits. -/
inductive Value where
  | string (text : Text)
  | float (x : Float)
  | int (n : Int)
  | boolean (b : Bool)
  | tuple (items : List Value)
  | empty

/-- The kinds of values. -/
inductive Kind where
  | string
  | float
  | int
  | boolean
  | tuple
  | empty
deriving Repr, DecidableEq

/-- The kind as messages name it. -/
def Kind.name : Kind → Text
  | .string => "String".toList
  | .float => "Float".toList
  | .int => "Int".toList
  | .boolean => "Boolean".toList
  | .tuple => "Tuple".toList
  | .empty => "Empty".toList

namespace Value

/-- The kind of the value. -/
def kind : Value → Kind
  | string _ => .string
  | float _ => .float
  | int _ => .int
  | boolean _ => .boolean
  | tuple _ => .tuple
  | empty => .empty

/-- The value of a truth value as text. -/
def booleanText (b : Bool) : Text := if b then "true".toList else "false".toList

/-! ## Equality

Values of different kinds differ, also an integer and a double of the same size.
Doubles are compared as numbers, so the absent number differs from itself. -/

mutual

/-- Whether two values are equal. -/
def same : Value → Value → Bool
  | string a, string b => a == b
  | float a, float b => a == b
  | int a, int b => a == b
  | boolean a, boolean b => a == b
  | tuple as, tuple bs => sameItems as bs
  | empty, empty => true
  | _, _ => false

/-- Whether two tuples have equal members in equal number. -/
def sameItems : List Value → List Value → Bool
  | [], [] => true
  | a :: as, b :: bs => same a b && sameItems as bs
  | _, _ => false

end

/-! ## Texts of values -/

mutual

/-- **The text of a value in a script.** -/
def render : Value → Text
  | string text => text
  | float x => Number.format x
  | int n => Text.ofInt n
  | boolean b => booleanText b
  | tuple items => Text.join [','] (renderItems items)
  | empty => []

/-- The texts of the members of a tuple in a script. -/
def renderItems : List Value → List Text
  | [] => []
  | item :: items => render item :: renderItems items

end

mutual

/-- The text of a value as a tuple spells out its members: quotes around texts,
parentheses around tuples and for the empty value. -/
def spell : Value → Text
  | string text => '"' :: text ++ ['"']
  | float x => Number.plain.render x
  | int n => Text.ofInt n
  | boolean b => booleanText b
  | tuple items => '(' :: Text.join [',', ' '] (spellItems items) ++ [')']
  | empty => ['(', ')']

/-- The texts of the members of a tuple. -/
def spellItems : List Value → List Text
  | [] => []
  | item :: items => spell item :: spellItems items

end

mutual

/-- The value as messages show it: with its kind, exactly. -/
def describe : Value → Text
  | string text => "String(".toList ++ Text.quoted text ++ [')']
  | float x => "Float(".toList ++ Number.diagnostic.render x ++ [')']
  | int n => "Int(".toList ++ Text.ofInt n ++ [')']
  | boolean b => "Boolean(".toList ++ booleanText b ++ [')']
  | tuple items => "Tuple([".toList ++ Text.join [',', ' '] (describeItems items) ++ [']', ')']
  | empty => "Empty".toList

/-- The members of a tuple as messages show them. -/
def describeItems : List Value → List Text
  | [] => []
  | item :: items => describe item :: describeItems items

end

end Value

end MapScript.Expr
