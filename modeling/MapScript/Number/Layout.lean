/-
How the digits of a number are laid out.

The digits are the shortest that read back; a layout says what is done with them:
for which sizes they are written around a decimal point and when with a power of
ten, whether a whole number keeps a fraction, and how the power is signed. Each
place that writes numbers has one layout, a value of one record type.
-/
import MapScript.Text.Basic
import MapScript.Number.Shortest

set_option autoImplicit false

namespace MapScript.Number

/-- **A layout of numbers.** -/
structure Layout where
  /-- The least and the greatest power of ten of the first digit that are written
  without an exponent; no bounds, no exponents. -/
  positional : Option (Int × Int)
  /-- Whether a whole number is written with `.0`. -/
  keepsFraction : Bool
  /-- Whether a positive exponent has a plus sign. -/
  signsExponent : Bool
  /-- Which of two equally near shortest decimals is written. -/
  tie : Tie
deriving Repr

/-! ## Writing digits -/

/-- The digits around a decimal point. -/
def Layout.point (layout : Layout) (digits : Text) (exponent : Int) : Text :=
  let fraction := if layout.keepsFraction then ['.', '0'] else []
  if exponent < 0 then
    ['0', '.'] ++ List.replicate ((-exponent).toNat - 1) '0' ++ digits
  else
    let wholeLength := exponent.toNat + 1
    if digits.length ≤ wholeLength then
      digits ++ List.replicate (wholeLength - digits.length) '0' ++ fraction
    else digits.take wholeLength ++ ['.'] ++ digits.drop wholeLength

/-- The digits with a power of ten. -/
def Layout.scientific (layout : Layout) (digits : Text) (exponent : Int) : Text :=
  let mantissa := match digits with
    | first :: second :: more => first :: '.' :: second :: more
    | short => short
  let sign : Text := if layout.signsExponent && decide (0 ≤ exponent) then ['+'] else []
  mantissa ++ ['e'] ++ sign ++ Text.ofInt exponent

/-- The text of a positive decimal. -/
def Layout.decimal (layout : Layout) (d : Decimal) : Text :=
  let digits := Text.ofNat d.digits
  match layout.positional with
  | none => layout.point digits d.exponent
  | some (least, greatest) =>
    if least ≤ d.exponent ∧ d.exponent ≤ greatest then layout.point digits d.exponent
    else layout.scientific digits d.exponent

/-- **The text of a double** in this layout. -/
def Layout.render (layout : Layout) (x : Float) : Text :=
  match decode x with
  | .nan => ['N', 'a', 'N']
  | .infinite negative => (if negative then ['-'] else []) ++ ['i', 'n', 'f']
  | .finite negative units =>
    let sign : Text := if negative then ['-'] else []
    if units = 0 then sign ++ ['0'] ++ (if layout.keepsFraction then ['.', '0'] else [])
    else sign ++ layout.decimal (shortest layout.tie units)

/-! ## The layouts of values and of messages -/

/-- Values are written without exponents, and whole ones without a fraction. -/
def plain : Layout := ⟨none, false, false, .up⟩

/-- Messages tell doubles from integers: a whole double keeps its fraction, and
very large and very small ones are written with a power of ten. -/
def diagnostic : Layout := ⟨some (-4, 15), true, false, .up⟩

/-- The text of a number inside a script: a whole number of moderate size is written
as an integer, which drops the sign of a zero. -/
def format (x : Float) : Text :=
  if isWhole x && decide (x.abs < 1e15) then Text.ofInt (toInt64 x) else plain.render x

end MapScript.Number
