/-
Reading whole numbers as doubles.

Division in expressions is never integral. That is brought about before an
expression is read: every bare integer literal gets the fraction `.0`. A literal is
bare when it stands outside the string literals and touches no other character of a
word, so that `x2`, `1.5` and `2x` are left as they are.

The pass reads from left to right and knows of what it has read only in which of
five places it stands. It inserts and never changes, and what it inserts ends the
only place in which it inserts.
-/
import MapScript.Text.Basic

set_option autoImplicit false

namespace MapScript.Expr

/-! ## Places -/

/-- Whether the character is part of words: letters and digits, the underscore, the
point, and every character outside of ASCII. -/
def isWordChar (c : Char) : Bool :=
  c.isAlphanum || c == '_' || c == '.' || decide (128 ≤ c.toNat)

/-- Where a reader of an expression stands. -/
inductive Place where
  /-- Outside of words and string literals. -/
  | gap
  /-- After a character of a word. -/
  | word
  /-- After a digit of a run of digits that began in a gap. -/
  | digits
  /-- Inside a string literal. -/
  | quoted
  /-- Inside a string literal, after the backslash of an escape. -/
  | escaped
deriving Repr, DecidableEq

/-- The place after the character `c`. -/
def Place.after (place : Place) (c : Char) : Place :=
  match place with
  | .escaped => .quoted
  | .quoted => if c = '\\' then .escaped else if c = '"' then .gap else .quoted
  | .gap | .digits =>
    if c = '"' then .quoted
    else if c.isDigit then .digits
    else if isWordChar c then .word
    else .gap
  | .word =>
    if c = '"' then .quoted else if isWordChar c then .word else .gap

/-- Whether a bare integer literal ends before the character `c`. -/
def Place.endsBefore (place : Place) (c : Char) : Bool :=
  place == .digits && !isWordChar c

/-! ## The pass -/

/-- The fraction that makes a literal a double. -/
def fraction : Text := ['.', '0']

/-- Inserts the fractions into a text that is read on from `place`. -/
def markIntegersFrom (place : Place) : Text → Text
  | [] => if place = .digits then fraction else []
  | c :: rest =>
    (if place.endsBefore c then fraction else []) ++
      c :: markIntegersFrom (place.after c) rest

/-- **Every bare integer literal with its fraction.** -/
def markIntegers (text : Text) : Text := markIntegersFrom .gap text

end MapScript.Expr
