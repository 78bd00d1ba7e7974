/-
Doubles as rational numbers: their order, and rounding them to whole ones.

A finite double is a signed count of units (`decode`), and dividing by the units in one gives the
rational number that it stands for (`toRat`). Doubles are compared in another form, as a sign, a
mantissa and a power of two. That the comparison is the one of the rational numbers is due to the
canonical form: a mantissa has 53 bits unless its power is the least one, so of two magnitudes the
one with the greater power is greater whatever the mantissas are (`compare_units`).

Rounding divides the count of units and looks at the remainder, which is the floor and the ceiling of
the rational number. A double of 2 ^ 53 or more has no room for a fraction.
-/
import MapScript.Number.Exact
import Mathlib

set_option autoImplicit false

namespace MapScript.Number

open Float.Model Float.Model.UnpackedFloat

/-! ## The two forms of a double -/

/-- Whether a sign is a minus. -/
def isNegative : Sign → Bool
  | .negative => true
  | .positive => false

/-- The exact value of a mantissa with a sign and a power of two. -/
def exactOf : UnpackedFloat → Exact
  | .notANumber => .nan
  | .infinity sign => .infinite (isNegative sign)
  | .zero sign => .finite (isNegative sign) 0
  | .finite sign mantissa exponent _ =>
    .finite (isNegative sign) (mantissa * 2 ^ (exponent + 1074).toNat)

/-- **The canonical form:** a mantissa of 53 bits, or fewer of them with the least power of two. -/
def Canonical : UnpackedFloat → Prop
  | .finite _ mantissa exponent _ =>
    mantissa < 2 ^ 53 ∧ -1074 ≤ exponent ∧ (2 ^ 52 ≤ mantissa ∨ exponent = -1074)
  | _ => True

section Fields

variable (bits : BitVec Format.binary64.numBits)

/-- The mantissa stands in the last 52 bits. -/
theorem toNat_unpackMantissa : (unpackMantissa bits).toNat = bits.toNat % 2 ^ 52 := by
  simp [unpackMantissa]

/-- The exponent stands in the 11 bits before them. -/
theorem toNat_unpackExponent : (unpackExponent bits).toNat = bits.toNat / 2 ^ 52 % 2 ^ 11 := by
  simp [unpackExponent, Nat.shiftRight_eq_div_pow]

/-- The sign is the first bit. -/
theorem isNegative_unpackSign :
    isNegative (Sign.ofBitVec (unpackSign bits)) = decide (2 ^ 63 ≤ bits.toNat) := by
  have hlt : bits.toNat < 2 ^ 64 := bits.isLt
  have hsign : (unpackSign bits).toNat = bits.toNat / 2 ^ 63 := by
    simp [unpackSign, Nat.shiftRight_eq_div_pow]
    omega
  have hzero : unpackSign bits = 0#1 ↔ bits.toNat < 2 ^ 63 := by
    rw [BitVec.toNat_eq, hsign, BitVec.toNat_ofNat]
    omega
  rw [Sign.ofBitVec]
  by_cases hnegative : 2 ^ 63 ≤ bits.toNat
  · rw [if_neg (mt hzero.1 (by omega))]
    exact (decide_eq_true hnegative).symm
  · rw [if_pos (hzero.2 (by omega))]
    exact (decide_eq_false hnegative).symm

/-- The leading bit that is not written stands before the others. -/
theorem toNat_one_append (mantissa : BitVec 52) :
    (1#1 ++ mantissa).toNat = 2 ^ 52 + mantissa.toNat := by
  rw [BitVec.toNat_append, ← Nat.shiftLeft_add_eq_or_of_lt mantissa.isLt, Nat.shiftLeft_eq]
  rfl

end Fields

/-- **Both forms have one exact value,** and the one with a mantissa is canonical. -/
theorem decode_eq_exactOf (x : Float) :
    decode x = exactOf x.toModel.unpack ∧ Canonical x.toModel.unpack := by
  obtain ⟨bits, hbits⟩ : ∃ bits : BitVec Format.binary64.numBits,
      bits = x.toModel.toBits.toBitVec := ⟨_, rfl⟩
  have hnat : x.toBits.toNat = bits.toNat := by
    rw [hbits]
    rfl
  have hunpack : x.toModel.unpack = UnpackedFloat.unpack .binary64 bits := by
    rw [hbits]
    rfl
  -- each condition on the fields is one on the number that all bits write
  have hmost : unpackExponent bits = -1#_ ↔
      bits.toNat / Nat.pow 2 52 % Nat.pow 2 11 = Nat.pow 2 11 - 1 := by
    rw [BitVec.toNat_eq, toNat_unpackExponent, BitVec.neg_one_eq_allOnes, BitVec.toNat_allOnes]
    rfl
  have hleast : unpackExponent bits = 0#_ ↔ bits.toNat / Nat.pow 2 52 % Nat.pow 2 11 = 0 := by
    rw [BitVec.toNat_eq, toNat_unpackExponent]
    rfl
  have hempty : unpackMantissa bits = 0#_ ↔ bits.toNat % Nat.pow 2 52 = 0 := by
    rw [BitVec.toNat_eq, toNat_unpackMantissa]
    rfl
  have hsign : decide (Nat.pow 2 63 ≤ x.toBits.toNat) =
      isNegative (Sign.ofBitVec (unpackSign bits)) := by
    rw [isNegative_unpackSign, hnat]
    rfl
  have hbias : (Format.binary64.exponentBias : Int) +
      Format.binary64.mantissaBitsWithoutImplicit = 1075 := by decide
  have hfraction : bits.toNat % 2 ^ 52 < 2 ^ 52 := Nat.mod_lt _ (by positivity)
  rw [decode, hsign, hnat, hunpack, UnpackedFloat.unpack]
  by_cases hspecial : unpackExponent bits = -1#_
  · rw [if_pos hspecial, if_pos (hmost.1 hspecial)]
    by_cases hzero : unpackMantissa bits = 0#_
    · rw [if_pos hzero, if_pos (hempty.1 hzero)]
      exact ⟨rfl, trivial⟩
    · rw [if_neg hzero, if_neg (mt hempty.2 hzero)]
      exact ⟨rfl, trivial⟩
  · rw [if_neg hspecial, if_neg (mt hmost.2 hspecial)]
    by_cases hsmall : unpackExponent bits = 0#_
    · rw [if_pos hsmall, if_pos (hleast.1 hsmall)]
      by_cases hzero : unpackMantissa bits = 0#_
      · rw [dif_pos hzero, hempty.1 hzero]
        exact ⟨rfl, trivial⟩
      · have hpower : ((unpackExponent bits).toNat : Int) -
            (Format.binary64.exponentBias + Format.binary64.mantissaBitsWithoutImplicit) + 1 =
              -1074 := by
          rw [hsmall, hbias]
          rfl
        rw [dif_neg hzero, exactOf, Canonical, hpower, toNat_unpackMantissa]
        refine ⟨?_, by omega, le_refl _, .inr rfl⟩
        rw [neg_add_cancel, Int.toNat_zero, Nat.pow_zero, Nat.mul_one]
        rfl
    · have hpower : (((unpackExponent bits).toNat : Int) -
          (Format.binary64.exponentBias + Format.binary64.mantissaBitsWithoutImplicit) +
            1074).toNat = bits.toNat / 2 ^ 52 % 2 ^ 11 - 1 := by
        rw [toNat_unpackExponent, hbias]
        omega
      rw [if_neg hsmall, if_neg (mt hleast.2 hsmall), exactOf, Canonical, hpower, toNat_one_append,
        toNat_unpackMantissa]
      refine ⟨rfl, by omega, ?_, .inl (by omega)⟩
      have hpositive : bits.toNat / 2 ^ 52 % 2 ^ 11 ≠ 0 := mt hleast.2 hsmall
      rw [toNat_unpackExponent, hbias]
      omega

/-! ## The order -/

/-- A count of units with its sign. -/
def Exact.signedUnits : Exact → Int
  | .finite negative units => if negative then -units else units
  | _ => 0

/-- **Magnitudes are compared by the power of two first** and then by the mantissa. -/
theorem compare_units {mantissa mantissa' : Nat} {exponent exponent' : Int}
    (hroom : mantissa < 2 ^ 53) (hroom' : mantissa' < 2 ^ 53)
    (hfull : 2 ^ 52 ≤ mantissa ∨ exponent = -1074)
    (hfull' : 2 ^ 52 ≤ mantissa' ∨ exponent' = -1074)
    (hleast : -1074 ≤ exponent) (hleast' : -1074 ≤ exponent') :
    (compare exponent exponent').then (compare mantissa mantissa') =
      compare (mantissa * 2 ^ (exponent + 1074).toNat) (mantissa' * 2 ^ (exponent' + 1074).toNat) := by
  -- a greater power outweighs every mantissa that there is room for
  have hless : ∀ {m m' : Nat} {e e' : Int}, m < 2 ^ 53 → 2 ^ 52 ≤ m' ∨ e' = -1074 → -1074 ≤ e →
      e < e' → m * 2 ^ (e + 1074).toNat < m' * 2 ^ (e' + 1074).toNat := by
    intro m m' e e' hm hm' he hlt
    have hsplit : (e' + 1074).toNat = (e + 1074).toNat + 1 + (e' - e - 1).toNat := by omega
    have hone : 1 ≤ 2 ^ (e' - e - 1).toNat := Nat.one_le_two_pow
    calc m * 2 ^ (e + 1074).toNat
        < 2 ^ 53 * 2 ^ (e + 1074).toNat := Nat.mul_lt_mul_of_pos_right hm (by positivity)
      _ = 2 ^ 52 * 2 ^ ((e + 1074).toNat + 1) := by ring
      _ ≤ m' * 2 ^ ((e + 1074).toNat + 1) :=
        Nat.mul_le_mul_right _ (hm'.resolve_right (by omega))
      _ ≤ m' * 2 ^ ((e + 1074).toNat + 1) * 2 ^ (e' - e - 1).toNat :=
        Nat.le_mul_of_pos_right _ hone
      _ = m' * 2 ^ (e' + 1074).toNat := by rw [hsplit, Nat.pow_add _ (_ + 1), Nat.mul_assoc]
  rcases lt_trichotomy exponent exponent' with hlt | heq | hgt
  · rw [compare_lt_iff_lt.2 hlt, compare_lt_iff_lt.2 (hless hroom hfull' hleast hlt)]
    rfl
  · subst heq
    have hmono : StrictMono fun m => m * 2 ^ (exponent + 1074).toNat :=
      fun _ _ h => Nat.mul_lt_mul_of_pos_right h (by positivity)
    rw [compare_eq_iff_eq.2 rfl, ← cmp_eq_compare, ← cmp_eq_compare]
    exact (hmono.cmp_map_eq mantissa mantissa').symm
  · rw [compare_gt_iff_gt.2 hgt, compare_gt_iff_gt.2 (hless hroom' hfull hleast' hgt)]
    rfl

@[simp]
theorem Exact.signedUnits_finite (sign : Sign) (units : Nat) :
    (Exact.finite (isNegative sign) units).signedUnits = sign.apply units := by
  cases sign <;> rfl

/-- **Canonical forms are compared** as their signed counts of units. -/
theorem lt_iff_signedUnits_lt {left right : UnpackedFloat} (hleft : Canonical left)
    (hright : Canonical right) (hfinite : left.isFinite = true)
    (hfinite' : right.isFinite = true) :
    left.lt right = true ↔ (exactOf left).signedUnits < (exactOf right).signedUnits := by
  rw [UnpackedFloat.lt, beq_iff_eq]
  cases left with
  | notANumber | infinity => nomatch hfinite
  | zero sign =>
    cases right with
    | notANumber | infinity => nomatch hfinite'
    | zero sign' => cases sign <;> cases sign' <;> simp [UnpackedFloat.compare, exactOf, Sign.apply]
    | finite sign' mantissa' exponent' hpos' =>
      have hunits' : 0 < mantissa' * 2 ^ (exponent' + 1074).toNat := by positivity
      generalize hgen' : mantissa' * 2 ^ (exponent' + 1074).toNat = units' at hunits'
      cases sign <;> cases sign' <;>
        simp [UnpackedFloat.compare, exactOf, hgen', Sign.apply, hunits']
  | finite sign mantissa exponent hpos =>
    have hunits : 0 < mantissa * 2 ^ (exponent + 1074).toNat := by positivity
    generalize hgen : mantissa * 2 ^ (exponent + 1074).toNat = units at hunits
    cases right with
    | notANumber | infinity => nomatch hfinite'
    | zero sign' =>
      cases sign <;> cases sign' <;>
        simp [UnpackedFloat.compare, exactOf, hgen, Sign.apply, hunits]
    | finite sign' mantissa' exponent' hpos' =>
      have hcompare :=
        compare_units hleft.1 hright.1 hleft.2.2 hright.2.2 hleft.2.1 hright.2.1
      have hunits' : 0 < mantissa' * 2 ^ (exponent' + 1074).toNat := by positivity
      generalize hgen' : mantissa' * 2 ^ (exponent' + 1074).toNat = units' at hunits' hcompare
      rw [hgen] at hcompare
      simp only [exactOf, hgen, hgen', Exact.signedUnits_finite]
      cases sign with
      | positive =>
        cases sign' with
        | positive =>
          rw [UnpackedFloat.compare, hcompare, Option.some.injEq, compare_lt_iff_lt]
          exact Int.ofNat_lt.symm
        | negative =>
          simp only [UnpackedFloat.compare, Sign.apply, Option.some.injEq, reduceCtorEq, false_iff]
          omega
      | negative =>
        cases sign' with
        | positive =>
          simp only [UnpackedFloat.compare, Sign.apply, true_iff]
          omega
        | negative =>
          -- of two negative numbers the one with the greater magnitude is less
          rw [UnpackedFloat.compare, hcompare, Option.some.injEq, Ordering.swap_eq_lt,
            compare_gt_iff_gt]
          simp only [Sign.apply]
          omega

/-! ## Rational numbers -/

/-- **The rational number** that a finite double stands for. -/
def toRat (x : Float) : ℚ := (decode x).signedUnits / (unitsPerOne : ℤ)

/-- There are units in one. -/
theorem unitsPerOne_pos : 0 < unitsPerOne := by
  unfold unitsPerOne
  generalize 1074 = bits
  exact Nat.pow_pos Nat.two_pos

variable {x y : Float}

/-- A finite double has a sign and a count of units. -/
theorem isFinite_iff : isFinite x = true ↔ ∃ negative units, decode x = .finite negative units := by
  rw [isFinite]
  cases decode x <;> simp

/-- A count of ones stands for the number of ones. -/
theorem toRat_of_decode {n : Nat} (h : decode x = .finite false (n * unitsPerOne)) :
    toRat x = n := by
  have hone : ((unitsPerOne : ℤ) : ℚ) ≠ 0 := by exact_mod_cast unitsPerOne_pos.ne'
  rw [toRat, h, Exact.signedUnits, if_neg Bool.false_ne_true, Nat.cast_mul, Int.cast_mul,
    mul_div_cancel_right₀ _ hone, Int.cast_natCast]

/-- What is finite by its bits is finite when it is taken apart. -/
theorem isFinite_unpack (h : isFinite x = true) : x.toModel.unpack.isFinite = true := by
  obtain ⟨negative, units, hunits⟩ := isFinite_iff.1 h
  rw [(decode_eq_exactOf x).1] at hunits
  generalize x.toModel.unpack = unpacked at hunits
  cases unpacked with
  | notANumber | infinity => nomatch hunits
  | zero | finite => rfl

/-- **Finite doubles are compared as rational numbers.** -/
theorem lt_iff_toRat_lt (hx : isFinite x = true) (hy : isFinite y = true) :
    x < y ↔ toRat x < toRat y := by
  have hone : (0 : ℚ) < (unitsPerOne : ℤ) := by exact_mod_cast unitsPerOne_pos
  obtain ⟨hdecode, hcanonical⟩ := decode_eq_exactOf x
  obtain ⟨hdecode', hcanonical'⟩ := decode_eq_exactOf y
  rw [toRat, toRat, div_lt_div_iff_of_pos_right hone, Int.cast_lt, hdecode, hdecode',
    ← lt_iff_signedUnits_lt hcanonical hcanonical' (isFinite_unpack hx) (isFinite_unpack hy)]
  change decide _ = true ↔ _
  rw [decide_eq_true_iff]
  rfl

/-! ## Rounding -/

/-- A magnitude is rounded up by a division of its negative. -/
theorem neg_ediv_eq {one : Nat} (hone : 0 < one) (units : Nat) :
    -(units : ℤ) / (one : ℤ) =
      -((if units % one != 0 then units / one + 1 else units / one : ℕ) : ℤ) := by
  have hsign : (one : ℤ).sign = 1 := Int.sign_eq_one_of_pos (by exact_mod_cast hone)
  rw [Int.neg_ediv, hsign, ← Int.natCast_ediv]
  by_cases hwhole : units % one = 0
  · have hdvd : (one : ℤ) ∣ units := Int.natCast_dvd_natCast.2 (Nat.dvd_of_mod_eq_zero hwhole)
    simp [hwhole, hdvd]
  · have hdvd : ¬ (one : ℤ) ∣ units := fun h =>
      hwhole (Nat.mod_eq_zero_of_dvd (Int.natCast_dvd_natCast.1 h))
    simp [hwhole, hdvd]
    omega

variable (least greatest : Int)

/-- **Rounding down is the floor,** moved into an interval. -/
theorem toInt_down (hx : isFinite x = true) :
    Rounding.toInt .down least greatest x = max least (min greatest ⌊toRat x⌋) := by
  obtain ⟨negative, units, hunits⟩ := isFinite_iff.1 hx
  have hone := unitsPerOne_pos
  rw [toRat, Int.cast_natCast, Rat.floor_intCast_div_natCast, Rounding.toInt, hunits]
  simp only [Exact.signedUnits, Rounding.magnitude]
  -- how many units there are in one does not matter, and it is too large to compute with
  generalize unitsPerOne = one at hone ⊢
  cases negative with
  | true => simp [neg_ediv_eq hone]
  | false => simp

/-- **Rounding up is the ceiling,** moved into an interval. -/
theorem toInt_up (hx : isFinite x = true) :
    Rounding.toInt .up least greatest x = max least (min greatest ⌈toRat x⌉) := by
  obtain ⟨negative, units, hunits⟩ := isFinite_iff.1 hx
  have hone := unitsPerOne_pos
  rw [toRat, Int.cast_natCast, Rat.ceil_intCast_div_natCast, Rounding.toInt, hunits]
  simp only [Exact.signedUnits, Rounding.magnitude]
  generalize unitsPerOne = one at hone ⊢
  cases negative with
  | true => simp
  | false => simp [neg_ediv_eq hone]

/-! ## Large doubles -/

variable {negative : Bool} {units : Nat}

/-- With more than 53 bits before the point there are none after it. -/
theorem unitsPerOne_dvd_or_lt (h : decode x = .finite negative units) :
    unitsPerOne ∣ units ∨ units < 2 ^ 53 * unitsPerOne := by
  obtain ⟨hdecode, hcanonical⟩ := decode_eq_exactOf x
  obtain ⟨bits, hbits, hone⟩ : ∃ bits, bits = 1074 ∧ unitsPerOne = 2 ^ bits := by
    unfold unitsPerOne
    generalize 1074 = bits
    exact ⟨bits, rfl, rfl⟩
  rw [hdecode] at h
  rw [hone]
  generalize x.toModel.unpack = unpacked at h hcanonical
  cases unpacked with
  | notANumber | infinity => nomatch h
  | zero sign =>
    obtain ⟨-, rfl⟩ := Exact.finite.inj h
    exact .inl (dvd_zero _)
  | finite sign mantissa exponent hpos =>
    obtain ⟨-, rfl⟩ := Exact.finite.inj h
    by_cases hexponent : 0 ≤ exponent
    · exact .inl (dvd_mul_of_dvd_right (pow_dvd_pow 2 (by omega)) mantissa)
    · right
      calc mantissa * 2 ^ (exponent + 1074).toNat
          < 2 ^ 53 * 2 ^ (exponent + 1074).toNat :=
            Nat.mul_lt_mul_of_pos_right hcanonical.1 (by positivity)
        _ ≤ 2 ^ 53 * 2 ^ bits :=
            Nat.mul_le_mul_left _ (Nat.pow_le_pow_right (by omega) (by omega))

/-- The signed count has the magnitude of the count. -/
theorem natAbs_signedUnits (h : decode x = .finite negative units) :
    (decode x).signedUnits.natAbs = units := by
  rw [h]
  cases negative <;> simp [Exact.signedUnits]

/-- **Large doubles are whole.** -/
theorem exists_int_of_le_abs_toRat (hx : isFinite x = true) (h : 2 ^ 53 ≤ |toRat x|) :
    ∃ n : ℤ, toRat x = n := by
  obtain ⟨negative, units, hunits⟩ := isFinite_iff.1 hx
  have hone : (0 : ℚ) < (unitsPerOne : ℤ) := by exact_mod_cast unitsPerOne_pos
  have habs := natAbs_signedUnits hunits
  rcases unitsPerOne_dvd_or_lt hunits with hdvd | hlt
  · rw [← habs] at hdvd
    obtain ⟨n, hn⟩ := Int.natCast_dvd.2 hdvd
    exact ⟨n, by rw [toRat, hn, Int.cast_mul, mul_div_cancel_left₀ _ hone.ne']⟩
  · -- a count that is too small contradicts the bound
    rw [toRat, abs_div, abs_of_pos hone, le_div_iff₀ hone, ← Int.cast_abs, Int.abs_eq_natAbs, habs]
      at h
    exact absurd hlt (not_lt.2 (by exact_mod_cast h))

end MapScript.Number
