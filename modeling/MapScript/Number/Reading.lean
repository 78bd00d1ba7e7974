/-
Reading numbers.

A number is an optional sign, digits with an optional point among them, and an
optional power of ten; or one of the words for infinity and for the absent number,
in any case. What is read is first a significand and a power of ten, both exact, and
then the double nearest to their product.
-/
import MapScript.Text.Basic

set_option autoImplicit false

namespace MapScript.Number

/-- The number `significand * 10 ^ exponent` with a sign. -/
structure Scientific where
  negative : Bool
  significand : Nat
  exponent : Int
deriving Repr, DecidableEq

/-- The double nearest to a decimal. Powers beyond the range of doubles are answered
at once, so that the size of an exponent costs nothing. -/
def Scientific.toFloat (s : Scientific) : Float :=
  let magnitude : Float :=
    if s.significand = 0 then 0.0
    else
      -- the value is below `10 ^ size` and at least `10 ^ (size - 1)`
      let size := ((Text.ofNat s.significand).length : Int) + s.exponent
      if 310 < size then 1.0 / 0.0
      else if size < -330 then 0.0
      else if 0 ≤ s.exponent then Float.ofScientific s.significand false s.exponent.toNat
      else Float.ofScientific s.significand true (-s.exponent).toNat
  if s.negative then -magnitude else magnitude

/-! ## The parts of a numeral -/

/-- Whether the character is a decimal digit. -/
def isDigit (c : Char) : Bool := decide ('0' ≤ c) && decide (c ≤ '9')

/-- The value of decimal digits. -/
def digitsValue (digits : Text) : Nat :=
  digits.foldl (fun n c => 10 * n + (c.toNat - '0'.toNat)) 0

/-- A sign, if there is one, and the rest. -/
def splitSign : Text → Bool × Text
  | '-' :: rest => (true, rest)
  | '+' :: rest => (false, rest)
  | text => (false, text)

/-- A power of ten that ends the numeral: nothing at all, or a mark, an optional sign
and digits. -/
def readExponent? : Text → Option Int
  | [] => some 0
  | c :: rest =>
    if c = 'e' ∨ c = 'E' then
      let (negative, digits) := splitSign rest
      if digits = [] ∨ !digits.all isDigit then none
      else some (if negative then -(digitsValue digits : Int) else digitsValue digits)
    else none

/-- The decimal that a numeral without a sign writes. -/
def readUnsigned? (negative : Bool) (text : Text) : Option Scientific :=
  let (whole, rest) := text.span isDigit
  let (fraction, rest) := match rest with
    | '.' :: more => more.span isDigit
    | _ => ([], rest)
  if whole = [] ∧ fraction = [] then none
  else
    (readExponent? rest).map fun exponent =>
      ⟨negative, digitsValue (whole ++ fraction), exponent - fraction.length⟩

/-- The double that one of the words writes. -/
def readWord? (text : Text) : Option Float :=
  let word := text.map Char.toLower
  if word = "inf".toList ∨ word = "infinity".toList then some (1.0 / 0.0)
  else if word = "nan".toList then some (0.0 / 0.0)
  else none

/-- **The double that a text writes,** if it writes one. -/
def read? (text : Text) : Option Float :=
  let (negative, rest) := splitSign text
  match readUnsigned? negative rest with
  | some decimal => some decimal.toFloat
  | none => (readWord? rest).map fun x => if negative then -x else x

end MapScript.Number
