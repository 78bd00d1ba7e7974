/-
What a floating-point number is exactly, and the operations whose result is exact.

Every finite double is a whole multiple of the smallest positive one. Counting in
that unit turns questions about doubles into questions about natural numbers: the
value is a sign and a count, rounding to a whole number is a division by the count
of one, the remainder of a division is a remainder of counts. No operation of this
file rounds in any other sense than the one it is named for.
-/
set_option autoImplicit false

namespace MapScript.Number

/-! ## Decoding -/

/-- What a double is: no number, an infinity, or a sign and a count of units. -/
inductive Exact where
  | nan
  | infinite (negative : Bool)
  | finite (negative : Bool) (units : Nat)
deriving Repr, DecidableEq

/-- The count of units in the number one. -/
def unitsPerOne : Nat := Nat.pow 2 1074

/-- **The exact value** that the bits of a double stand for. The exponent field is
a shift of the mantissa, except that zero and one shift alike: the field zero is
that of the numbers without a leading bit. -/
def decode (x : Float) : Exact :=
  let bits := x.toBits.toNat
  let negative := decide (Nat.pow 2 63 ≤ bits)
  let field := bits / Nat.pow 2 52 % Nat.pow 2 11
  let fraction := bits % Nat.pow 2 52
  if field = Nat.pow 2 11 - 1 then
    if fraction = 0 then .infinite negative else .nan
  else if field = 0 then .finite negative fraction
  else .finite negative ((Nat.pow 2 52 + fraction) * Nat.pow 2 (field - 1))

/-- The number of trailing bits that a double of this magnitude has no room for. -/
def spacingBits (units : Nat) : Nat := units.log2 - 52

/-- The double with the given sign and count of units. The count has to be one that
a double can hold: bits below its spacing are dropped. -/
def ofUnits (negative : Bool) (units : Nat) : Float :=
  let shift := spacingBits units
  let magnitude := shift * Nat.pow 2 52 + units / Nat.pow 2 shift
  Float.ofBits (UInt64.ofNat (if negative then Nat.pow 2 63 + magnitude else magnitude))

/-- Whether the double is neither infinite nor no number. -/
def isFinite (x : Float) : Bool :=
  match decode x with
  | .finite _ _ => true
  | _ => false

/-! ## Rounding to whole numbers -/

/-- The directions in which a number is rounded to a whole one. -/
inductive Rounding where
  | down
  | up
  | towardZero
  | nearestAway
  | nearestEven
deriving Repr, DecidableEq

/-- The whole number that a magnitude is rounded to. -/
def Rounding.magnitude (rounding : Rounding) (negative : Bool) (units : Nat) : Nat :=
  let whole := units / unitsPerOne
  let rest := units % unitsPerOne
  match rounding with
  | .down => if negative && rest != 0 then whole + 1 else whole
  | .up => if !negative && rest != 0 then whole + 1 else whole
  | .towardZero => whole
  | .nearestAway => if unitsPerOne ≤ 2 * rest then whole + 1 else whole
  | .nearestEven =>
    if unitsPerOne < 2 * rest ∨ (unitsPerOne = 2 * rest ∧ whole % 2 = 1) then whole + 1
    else whole

/-- The double rounded to a whole number. The sign stays, also that of a zero;
infinities and the absent number are their own results. -/
def Rounding.apply (rounding : Rounding) (x : Float) : Float :=
  match decode x with
  | .finite negative units =>
    ofUnits negative (rounding.magnitude negative units * unitsPerOne)
  | _ => x

/-- The whole number that the double is rounded to, moved into the interval from
`least` to `greatest`; the absent number gives zero. -/
def Rounding.toInt (rounding : Rounding) (least greatest : Int) (x : Float) : Int :=
  match decode x with
  | .nan => 0
  | .infinite negative => if negative then least else greatest
  | .finite negative units =>
    let whole : Int := rounding.magnitude negative units
    max least (min greatest (if negative then -whole else whole))

/-- The least integer of 64 bits. -/
def leastInt64 : Int := -(Nat.pow 2 63 : Nat)

/-- The greatest integer of 64 bits. -/
def greatestInt64 : Int := (Nat.pow 2 63 : Nat) - 1

/-- The whole part as an integer of 64 bits, moved into that range. -/
def toInt64 (x : Float) : Int := Rounding.toInt .towardZero leastInt64 greatestInt64 x

/-- The whole part as an integer of 32 bits, moved into that range. -/
def toInt32 (x : Float) : Int :=
  Rounding.toInt .towardZero (-(Nat.pow 2 31 : Nat)) ((Nat.pow 2 31 : Nat) - 1) x

/-- Whether the double is a whole number. -/
def isWhole (x : Float) : Bool :=
  match decode x with
  | .finite _ units => units % unitsPerOne == 0
  | _ => false

/-! ## Remainders -/

/-- The remainder of the division with the quotient rounded toward zero. It has
the sign of the dividend and is always exact. -/
def remainder (x y : Float) : Float :=
  match decode x, decode y with
  | .nan, _ => x
  | _, .nan => y
  | .infinite _, _ => 0.0 / 0.0
  | .finite _ _, .infinite _ => x
  | .finite negative units, .finite _ divisor =>
    if divisor = 0 then 0.0 / 0.0 else ofUnits negative (units % divisor)

/-- The fractional position of `x` on a circle of circumference one. -/
def turn (x : Float) : Float :=
  let r := remainder x 1.0
  if r < 0.0 then r + 1.0 else r

/-! ## Distances -/

/-- The count of units nearest to a count, `exact` or a little more, that a double has
room for; a tie goes to the even one. -/
def nearestUnits (units : Nat) (exact : Bool) : Nat :=
  let spacing := Nat.pow 2 (spacingBits units)
  let kept := units / spacing
  let rest := units % spacing
  let raised := decide (spacing < 2 * rest) ||
    (decide (spacing = 2 * rest) && (!exact || kept % 2 == 1))
  (if raised then kept + 1 else kept) * spacing

/-- The length of the hypotenuse of a right triangle, rounded once. An infinite side
makes it infinite whatever the other side is. -/
def hypotenuse (x y : Float) : Float :=
  match decode x, decode y with
  | .infinite _, _ => 1.0 / 0.0
  | _, .infinite _ => 1.0 / 0.0
  | .nan, _ => x
  | _, .nan => y
  | .finite _ a, .finite _ b =>
    let square := a * a + b * b
    let root := square.sqrt
    let rest := square - root * root
    -- with no bits to spare the root itself is rounded, and it is never a tie
    let units :=
      if spacingBits root = 0 then (if root < rest then root + 1 else root)
      else nearestUnits root (rest == 0)
    if Nat.pow 2 2098 ≤ units then 1.0 / 0.0 else ofUnits false units

/-! ## Cube roots -/

/-- The greatest number with a cube of at most `cube` that agrees with `root` above
its last `bits` bits. -/
def cubeRootFrom (cube : Nat) : (bits root : Nat) → Nat
  | 0, root => root
  | bits + 1, root =>
    let raised := root + Nat.pow 2 bits
    cubeRootFrom cube bits (if raised * raised * raised ≤ cube then raised else root)

/-- The cube root of a number, rounded once. A third of the exponent of the unit is
taken out of the root and two thirds are put in again, which leaves a whole number
with many more bits than a double holds. -/
def cubeRoot (x : Float) : Float :=
  match decode x with
  | .finite negative units =>
    if units = 0 then x
    else
      let cube := units * Nat.pow 2 2148
      let root := cubeRootFrom cube (cube.log2 / 3 + 1) 0
      ofUnits negative (nearestUnits root (root * root * root == cube))
  | _ => x

/-! ## Powers -/

/-- `base` to the power `n` by repeated squaring, lowest bit of `n` first, carrying
the part of the result that is already multiplied. -/
def powerFrom (result base : Float) (n : Nat) : Float :=
  if h : n = 0 then result
  else
    let result := if n % 2 = 1 then result * base else result
    if n / 2 = 0 then result else powerFrom result (base * base) (n / 2)
termination_by n
decreasing_by omega

/-- `base` to a whole power; a negative power is the inverse of the positive one. -/
def power (base : Float) (n : Int) : Float :=
  let r := powerFrom 1.0 base n.natAbs
  if n < 0 then 1.0 / r else r

end MapScript.Number
