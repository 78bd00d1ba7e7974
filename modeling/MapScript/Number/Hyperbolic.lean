/-
The inverse hyperbolic tangent.

It is half the logarithm of one plus a quotient, and here it is computed as such: one
formula in doubles, step by step, so that what the steps round away belongs to the
result. The logarithm of one plus a number is computed without forming the sum where
that would lose the number's digits.
-/
import MapScript.Number.Exact

set_option autoImplicit false

namespace MapScript.Number

/-! ## The logarithm next to one -/

/-- The leading part of the natural logarithm of two: its last bits are zero, so that a
product with an exponent is exact. -/
def lnTwoHigh : Float := 6.93147180369123816490e-01

/-- What the leading part leaves of the natural logarithm of two. -/
def lnTwoLow : Float := 1.90821492927058770002e-10

/-- The coefficients of the polynomial below, from the lowest power on. They are near to
`2/3`, `2/5`, `2/7` and so on, those of the series of the logarithm, and are chosen so
that seven of them are enough. -/
def lnCoefficients : List Float :=
  [6.666666666666735130e-01, 3.999999999940941908e-01, 2.857142874366239149e-01,
   2.222219843214978396e-01, 1.818357216161805012e-01, 1.531383769920937332e-01,
   1.479819860511658591e-01]

/-- The logarithm of `2 ^ k * (1 + f)`, where `f` lies between `sqrt 2 / 2 - 1` and
`sqrt 2 - 1`; `rest` is a last correction of the result. With `s = f / (2 + f)` the
logarithm of `1 + f` is `2 * s` and a series in the odd powers of `s`. -/
def lnScaled (k : Int) (f rest : Float) : Float :=
  let half := 0.5 * f * f
  let s := f / (2.0 + f)
  let z := s * s
  let tail := lnCoefficients.foldr (fun c sum => z * (c + sum)) 0.0
  let scale := Float.ofInt k
  scale * lnTwoHigh - ((half - (s * (half + tail) + (scale * lnTwoLow + rest))) - f)

/-- What is lost of `x` when `sum` is the rounded sum of one and `x`. The larger of the
two is taken from the sum first, because that difference is exact. -/
def lostInSum (x sum : Float) : Float :=
  if sum < 2.0 then x - (sum - 1.0) else 1.0 - (sum - x)

/-- **The natural logarithm of one plus `x`.** A number below the precision of one is
its own logarithm, also a zero with its sign. A number near zero is taken as it is; for
any other the sum is formed, and what it lost is made up for. -/
def lnOnePlus (x : Float) : Float :=
  if x ≤ -1.0 || !isFinite x then (1.0 + x).log
  else if x.abs < 5.551115123125783e-17 then x
  else if -0.2928932188134524 < x && x < 0.41421356237309503 then lnScaled 0 x 0.0
  else
    let sum := 1.0 + x
    let rest := lostInSum x sum / sum
    let (mantissa, exponent) := sum.frExp
    if mantissa < 0.7071067811865476 then lnScaled (exponent - 1) (2.0 * mantissa - 1.0) rest
    else lnScaled exponent (mantissa - 1.0) rest

/-! ## The inverse hyperbolic tangent -/

/-- **The inverse hyperbolic tangent.** The one formula serves both signs, and near minus
one it is less exact than near one: there the argument of the logarithm cancels. -/
def artanh (x : Float) : Float := 0.5 * lnOnePlus (2.0 * x / (1.0 - x))

end MapScript.Number
