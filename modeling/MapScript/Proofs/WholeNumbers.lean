/-
A whole number is the same double with and without a fraction.

Read as a decimal, `7` is the significand 7 without a power of ten, and `7.0` is the significand 70
with one power of ten less. The nearest double is computed in one of two ways: a small significand
is converted and then multiplied or divided by a power of ten as a double, a large one is
multiplied or divided exactly and then rounded. So there are four ways from a whole number to a
double. Each of them ends with rounding a significand and a power of two whose product is the
number, and rounding does not see whether a factor of two stands in the one or in the other
(`roundWithAccuracy_scale`). What is rounded in the end is `nearest` in all four.
-/
import MapScript.Number.Reading
import Mathlib

set_option autoImplicit false

namespace MapScript.Number

open Float.Model Float.Model.UnpackedFloat

/-! ## Rounding -/

/-- Shifts are added. -/
theorem repeat_add {α : Type} (f : α → α) (first second : Nat) (x : α) :
    Nat.repeat f (first + second) x = Nat.repeat f first (Nat.repeat f second x) := by
  induction first with
  | zero => rw [Nat.zero_add]; rfl
  | succ first ih =>
    rw [Nat.succ_add]
    exact congrArg f ih

/-- Bits that are zero are shifted out without a trace. -/
theorem repeat_shiftRightOne (mantissa count : Nat) :
    Nat.repeat ExtendedMantissa.shiftRightOne count ⟨mantissa * 2 ^ count, false, false⟩ =
      ⟨mantissa, false, false⟩ := by
  induction count generalizing mantissa with
  | zero => rw [pow_zero, mul_one]; rfl
  | succ count ih =>
    have hfactor : mantissa * 2 ^ (count + 1) = mantissa * 2 * 2 ^ count := by ring
    have hshift : ExtendedMantissa.shiftRightOne ⟨mantissa * 2, false, false⟩ =
        ⟨mantissa, false, false⟩ := by
      rw [ExtendedMantissa.shiftRightOne, Nat.mul_div_cancel _ Nat.two_pos, Nat.mul_mod_left]
      rfl
    rw [hfactor, Nat.repeat, ih, hshift]

/-- The number of bits grows with each factor of two. -/
theorem log2_mul_two_pow {mantissa : Nat} (h : mantissa ≠ 0) (count : Nat) :
    (mantissa * 2 ^ count).log2 = mantissa.log2 + count := by
  induction count with
  | zero => rw [pow_zero, mul_one, Nat.add_zero]
  | succ count ih =>
    have hfactor : mantissa * 2 ^ (count + 1) = 2 * (mantissa * 2 ^ count) := by ring
    have hpos : mantissa * 2 ^ count ≠ 0 := Nat.mul_ne_zero h (by positivity)
    rw [hfactor, Nat.log2_two_mul hpos, ih, Nat.add_assoc]

variable {spec : Format} {mantissa : Nat} {exponent : Int}

/-- A factor of two may stand in the significand or in the power. -/
theorem totalExponent_scale (h : mantissa ≠ 0) (count : Nat) :
    totalExponent (mantissa * 2 ^ count) (exponent - count) = totalExponent mantissa exponent := by
  rw [totalExponent, totalExponent, log2_mul_two_pow h]
  push_cast
  omega

/-- It does not matter where if bits are shifted out anyway. -/
theorem shiftToTargetExponent_scale (h : mantissa ≠ 0)
    (hexponent : exponent ≤ spec.targetExponent (totalExponent mantissa exponent)) (count : Nat) :
    shiftToTargetExponent spec (mantissa * 2 ^ count) (exponent - count) .exact =
      shiftToTargetExponent spec mantissa exponent .exact := by
  rw [shiftToTargetExponent, shiftToTargetExponent, totalExponent_scale h]
  generalize spec.targetExponent (totalExponent mantissa exponent) = target at hexponent ⊢
  have hshift : (target - (exponent - count)).toNat = (target - exponent).toNat + count := by omega
  have hbits : Nat.repeat ExtendedMantissa.shiftRightOne ((target - exponent).toNat + count)
        ⟨mantissa * 2 ^ count, false, false⟩ =
      Nat.repeat ExtendedMantissa.shiftRightOne (target - exponent).toNat
        ⟨mantissa, false, false⟩ := by
    rw [repeat_add, repeat_shiftRightOne]
  rw [shiftToExponent, shiftToExponent, hshift]
  refine Prod.ext hbits ?_
  push_cast
  omega

/-- **Rounding does not see where a factor of two stands.** -/
theorem roundWithAccuracy_scale (h : mantissa ≠ 0)
    (hexponent : exponent ≤ spec.targetExponent (totalExponent mantissa exponent)) (sign : Sign)
    (count : Nat) :
    roundWithAccuracy spec sign (mantissa * 2 ^ count) (exponent - count) .exact =
      roundWithAccuracy spec sign mantissa exponent .exact := by
  rw [roundWithAccuracy, roundWithAccuracy, shiftToTargetExponent_scale h hexponent]

/-! ## Doubles of whole numbers -/

/-- **The rounding of a whole number** that has been given bits enough. -/
def nearest (n : Nat) : UnpackedFloat :=
  roundWithAccuracy .binary64 .positive (n * 2 ^ 53) (-53) .exact

/-- The power of two that a double has. -/
theorem targetExponent_binary64 (total : Int) :
    Format.binary64.targetExponent total = max (total - 53) (-1074) := rfl

variable {n : Nat}

/-- More bits than a double has do not matter. -/
theorem roundWithAccuracy_of_le (hn : n ≠ 0) {count more : Nat} (hbits : 52 ≤ n.log2 + count)
    (hmore : count ≤ more) :
    roundWithAccuracy .binary64 .positive (n * 2 ^ more) (-more) .exact =
      roundWithAccuracy .binary64 .positive (n * 2 ^ count) (-count) .exact := by
  have hexponent : -(count : Int) ≤
      Format.binary64.targetExponent (totalExponent (n * 2 ^ count) (-count)) := by
    rw [targetExponent_binary64, totalExponent, log2_mul_two_pow hn]
    push_cast
    omega
  have hfactor : n * 2 ^ more = n * 2 ^ count * 2 ^ (more - count) := by
    rw [Nat.mul_assoc, ← Nat.pow_add, Nat.add_sub_cancel' hmore]
  have hpower : -(more : Int) = -(count : Int) - (more - count : Nat) := by omega
  rw [hfactor, hpower]
  exact roundWithAccuracy_scale (by positivity) hexponent _ _

/-- With as many bits as a double has, the rounding is the same. -/
theorem roundWithAccuracy_eq_nearest (hn : n ≠ 0) (count : Nat) (hbits : 52 ≤ n.log2 + count) :
    roundWithAccuracy .binary64 .positive (n * 2 ^ count) (-count) .exact = nearest n := by
  rcases Nat.le_total count 53 with hle | hle
  · exact (roundWithAccuracy_of_le hn hbits hle).symm
  · exact roundWithAccuracy_of_le hn (by omega) hle

/-- Nothing is rounded where the number of bits is that of a double. -/
theorem roundWithAccuracy_of_log2_eq (hmantissa : mantissa.log2 = 52) (hexponent : -1074 ≤ exponent)
    (hpos : 0 < mantissa) (sign : Sign) :
    roundWithAccuracy .binary64 sign mantissa exponent .exact =
      .finite sign mantissa exponent hpos := by
  have hshift : shiftToTargetExponent .binary64 mantissa exponent .exact =
      (⟨mantissa, false, false⟩, exponent) := by
    have htarget : Format.binary64.targetExponent (totalExponent mantissa exponent) = exponent := by
      rw [targetExponent_binary64, totalExponent, hmantissa]
      omega
    rw [shiftToTargetExponent, htarget, shiftToExponent, Int.sub_self]
    refine Prod.ext rfl ?_
    exact Int.add_zero exponent
  have hround : (ExtendedMantissa.mk mantissa false false).roundedMantissa = mantissa := rfl
  rw [roundWithAccuracy, hshift]
  dsimp only
  rw [hround, hshift]
  exact dif_neg hpos.ne'

/-- A number of this form is a double. -/
theorem unpack_pack_of_log2_eq (hmantissa : mantissa.log2 = 52) (hleast : -1074 ≤ exponent)
    (hmost : exponent ≤ 971) (hpos : 0 < mantissa) :
    (Float.Model.pack (.finite .positive mantissa exponent hpos)).unpack =
      .finite .positive mantissa exponent hpos := by
  obtain ⟨hlow, hhigh⟩ := (Nat.log2_eq_iff hpos.ne').1 hmantissa
  let biased := (exponent + (1023 : Nat) + (52 : Nat)).toNat
  have hbiased : (BitVec.ofNat 11 biased).toNat = biased := by
    rw [BitVec.toNat_ofNat, Nat.mod_eq_of_lt (by omega)]
  have hnotLeast : BitVec.ofNat 11 biased ≠ 0#_ := by
    intro h
    have hzero := congrArg BitVec.toNat h
    rw [hbiased] at hzero
    simp only [BitVec.toNat_ofNat, Nat.zero_mod] at hzero
    omega
  have hnotMost : BitVec.ofNat 11 biased ≠ -1#_ := by
    intro h
    have hones := congrArg BitVec.toNat h
    rw [hbiased] at hones
    simp only [BitVec.neg_one_eq_allOnes, BitVec.toNat_allOnes] at hones
    omega
  have himplicit : (1#1 ++ BitVec.ofNat 52 mantissa).toNat = mantissa := by
    rw [BitVec.toNat_append, BitVec.toNat_ofNat, BitVec.toNat_ofNat, ← Nat.shiftLeft_add_eq_or_of_lt]
    · rw [Nat.shiftLeft_eq]
      omega
    · exact Nat.mod_lt _ (by positivity)
  have hpack : UnpackedFloat.pack .binary64 (.finite .positive mantissa exponent hpos) =
      packComponents .binary64 .positive (BitVec.ofNat 11 biased) (BitVec.ofNat 52 mantissa) := by
    have hfits : ¬ 2 ^ 11 ≤ biased + 1 := by omega
    have hnormal : mantissa.log2 + 1 = 53 := by rw [hmantissa]
    exact (if_neg hfits).trans (if_pos hnormal)
  have hexponent : (biased : Int) - (1023 + 52) = exponent := by omega
  change UnpackedFloat.unpack .binary64 (UnpackedFloat.pack .binary64 _) = _
  rw [hpack, UnpackedFloat.unpack]
  simp only [unpackMantissa_packComponents, unpackExponent_packComponents,
    unpackSign_packComponents, Sign.ofBitVec_toBitVec]
  rw [if_neg hnotMost, if_neg hnotLeast]
  congr 1
  rw [hbiased]
  exact hexponent

/-- A number below 2 ^ 53 is a double, and this double has the number as its value. -/
theorem nearest_of_lt (hn : n ≠ 0) (hlt : n < 2 ^ 53) :
    ∃ hpos, nearest n = .finite .positive (n * 2 ^ (52 - n.log2)) (-(52 - n.log2 : Nat)) hpos ∧
      (Float.Model.pack (nearest n)).unpack = nearest n := by
  have hlog : n.log2 < 53 := (Nat.log2_lt hn).2 hlt
  have hpos : 0 < n * 2 ^ (52 - n.log2) := by positivity
  have hbits : (n * 2 ^ (52 - n.log2)).log2 = 52 := by
    rw [log2_mul_two_pow hn]
    omega
  have hnearest := roundWithAccuracy_eq_nearest hn (52 - n.log2) (by omega)
  rw [roundWithAccuracy_of_log2_eq hbits (by omega) hpos] at hnearest
  refine ⟨hpos, hnearest.symm, ?_⟩
  rw [← hnearest]
  exact unpack_pack_of_log2_eq hbits (by omega) (by omega) hpos

/-- A number below 2 ^ 53 is converted to this double. -/
theorem unpack_toFloat (hn : n ≠ 0) (hlt : n < 2 ^ 53) :
    n.toUInt64.toFloat.toModel.unpack = nearest n := by
  have hlog : n.log2 < 53 := (Nat.log2_lt hn).2 hlt
  have hvalue : n.toUInt64.toNat = n := Nat.mod_eq_of_lt (by omega)
  have hround : UnpackedFloat.ofNat .binary64 n = nearest n := by
    have hshift : (0 - Format.binary64.targetExponent (totalExponent n 0)).toNat =
        52 - n.log2 := by
      rw [targetExponent_binary64, totalExponent]
      omega
    have hsign : compare (n : Int) 0 = .gt := Int.compare_eq_gt.2 (by omega)
    rw [UnpackedFloat.ofNat, UnpackedFloat.ofInt, UnpackedFloat.normalize, hsign]
    dsimp only
    rw [Int.toNat_natCast, UnpackedFloat.round]
    dsimp only
    rw [decreaseExponent, hshift, Nat.shiftLeft_eq, Int.zero_sub]
    exact roundWithAccuracy_eq_nearest hn _ (by omega)
  obtain ⟨-, -, hpacked⟩ := nearest_of_lt hn hlt
  change (Float.Model.pack (UnpackedFloat.ofNat .binary64 n.toUInt64.toNat)).unpack = _
  rw [hvalue, hround, hpacked]

/-! ## Without a fraction -/

/-- The double 1 as a significand and a power of two. -/
theorem unpack_one : (Float.ofBits 0x3FF0000000000000).toModel.unpack =
    .finite .positive (2 ^ 52) (-52) (by decide) := rfl

/-- A small number is multiplied by 1 as a double. -/
theorem mul_one_eq_nearest (hn : n ≠ 0) (hlt : n < 2 ^ 53) :
    UnpackedFloat.mul .binary64 (nearest n) (.finite .positive (2 ^ 52) (-52) (by decide)) =
      nearest n := by
  obtain ⟨hpos, hnearest, -⟩ := nearest_of_lt hn hlt
  have hfactor : n * 2 ^ (52 - n.log2) * 2 ^ 52 = n * 2 ^ (52 - n.log2 + 52) := by ring
  have hpower : -((52 - n.log2 : Nat) : Int) + -52 = -(52 - n.log2 + 52 : Nat) := by omega
  rw [hnearest, UnpackedFloat.mul, hfactor, hpower, ← hnearest]
  exact roundWithAccuracy_eq_nearest hn _ (by omega)

/-- A large one is multiplied by 1 exactly. -/
theorem ofScientific_zero_eq_nearest (hn : n ≠ 0) :
    UnpackedFloat.ofScientific .binary64 n 0 = nearest n := by
  have hnotSmall : ¬ (0 : Int) < -((2 ^ Format.binary64.exponentBits : Int) + n.log2) := by
    simp
  rw [UnpackedFloat.ofScientific, dif_neg hn, if_neg (by decide), if_neg hnotSmall,
    if_pos (by decide), UnpackedFloat.mul]
  change roundWithAccuracy .binary64 .positive (n <<< 53 * 1) (-53) .exact = nearest n
  rw [Nat.mul_one, Nat.shiftLeft_eq, nearest]

/-- **A significand without a power of ten** gives the rounding of the number. -/
theorem ofScientific_zero (hn : n ≠ 0) :
    Float.ofScientific n false 0 = .ofModel (.pack (nearest n)) := by
  rw [Float.ofScientific]
  split
  · rename_i hsmall
    change Float.ofModel (.pack (UnpackedFloat.mul .binary64 n.toUInt64.toFloat.toModel.unpack
      (Float.ofBits 0x3FF0000000000000).toModel.unpack)) = _
    rw [unpack_toFloat hn hsmall.1, unpack_one, mul_one_eq_nearest hn hsmall.1]
  · exact congrArg (fun x => Float.ofModel (.pack x)) (ofScientific_zero_eq_nearest hn)

/-! ## With a fraction -/

/-- The double 10 as a significand and a power of two. -/
theorem unpack_ten : (Float.ofBits 0x4024000000000000).toModel.unpack =
    .finite .positive (10 * 2 ^ 49) (-49) (by decide) := rfl

/-- A tenfold is divided by ten without a remainder, to as many bits as a double has. -/
theorem divCore_ten (hn : n ≠ 0) (left right count : Nat)
    (hcount : min ((right : Int) - left) (((10 * n).log2 : Int) - 56) = -(count : Int)) :
    divCore .binary64 (10 * n * 2 ^ left) (-left) (10 * 2 ^ right) (-right) =
      (n * 2 ^ count, -(count : Int), .exact) := by
  have hten : (10 : Nat).log2 = 3 := by decide
  have htotal : totalExponent (10 * n * 2 ^ left) (-left) -
      totalExponent (10 * 2 ^ right) (-right) = ((10 * n).log2 : Int) - 3 := by
    rw [totalExponent, totalExponent, log2_mul_two_pow (by omega), log2_mul_two_pow (by decide),
      hten]
    push_cast
    omega
  have htarget : min (-(left : Int) - -right)
      (Format.binary64.targetExponent (((10 * n).log2 : Int) - 3)) = -(count : Int) := by
    rw [targetExponent_binary64]
    omega
  have hproduct : 10 * n * 2 ^ left * 2 ^ (-(left : Int) - -right - -count).toNat =
      n * 2 ^ count * (10 * 2 ^ right) := by
    have hpowers : left + (-(left : Int) - -right - -count).toNat = right + count := by omega
    calc 10 * n * 2 ^ left * 2 ^ (-(left : Int) - -right - -count).toNat
        = 10 * n * 2 ^ (left + (-(left : Int) - -right - -count).toNat) := by
          rw [Nat.pow_add, Nat.mul_assoc (10 * n)]
      _ = n * 2 ^ count * (10 * 2 ^ right) := by
          rw [hpowers]
          ring
  rw [divCore, htotal, htarget, Nat.shiftLeft_eq, hproduct, Nat.mul_div_cancel _ (by positivity),
    Nat.mul_mod_left]
  rfl

/-- **The number of bits of a tenfold** is that of the number and three or four more. -/
theorem log2_ten_mul (hn : n ≠ 0) : (10 * n).log2 ≤ n.log2 + 4 ∧ n.log2 + 3 ≤ (10 * n).log2 := by
  have hlow := Nat.log2_self_le hn
  have hhigh := @Nat.lt_log2_self n
  constructor
  · have hlt : 10 * n < 2 ^ (n.log2 + 5) := by
      have hpow : 2 ^ (n.log2 + 5) = 16 * 2 ^ (n.log2 + 1) := by ring
      omega
    have := (Nat.log2_lt (by omega)).2 hlt
    omega
  · have hle : 2 ^ (n.log2 + 3) ≤ 10 * n := by
      have hpow : 2 ^ (n.log2 + 3) = 8 * 2 ^ n.log2 := by ring
      omega
    exact (Nat.le_log2 (by omega)).2 hle

/-- A quotient without a remainder is rounded. -/
theorem div_of_divCore_eq {left right quotient : Nat} {leftPower rightPower power : Int}
    (h : divCore .binary64 left leftPower right rightPower = (quotient, power, .exact))
    (hleft : 0 < left) (hright : 0 < right) :
    UnpackedFloat.div .binary64 (.finite .positive left leftPower hleft)
        (.finite .positive right rightPower hright) =
      roundWithAccuracy .binary64 .positive quotient power .exact := by
  rw [UnpackedFloat.div, h]
  rfl

/-- A small tenfold is divided by 10 as doubles. -/
theorem div_ten_eq_nearest (hn : n ≠ 0) (hlt : 10 * n < 2 ^ 53) :
    UnpackedFloat.div .binary64 (nearest (10 * n))
      (.finite .positive (10 * 2 ^ 49) (-49) (by decide)) = nearest n := by
  obtain ⟨hpos, hnearest, -⟩ := nearest_of_lt (n := 10 * n) (by omega) hlt
  have hlog : (10 * n).log2 < 53 := (Nat.log2_lt (by omega)).2 hlt
  have hbits := log2_ten_mul hn
  have hquotient := divCore_ten hn (52 - (10 * n).log2) 49 (56 - (10 * n).log2) (by omega)
  rw [hnearest]
  exact (div_of_divCore_eq hquotient hpos _).trans (roundWithAccuracy_eq_nearest hn _ (by omega))

/-- A large one is divided by 10 exactly. -/
theorem ofScientific_ten_eq_nearest (hn : n ≠ 0) (hle : 2 ^ 53 ≤ 10 * n) :
    UnpackedFloat.ofScientific .binary64 (10 * n) (-1) = nearest n := by
  have hlog : 53 ≤ (10 * n).log2 := (Nat.le_log2 (by omega)).2 hle
  have hbits := log2_ten_mul hn
  have hquotient := divCore_ten hn 0 0 (56 - (10 * n).log2) (by omega)
  rw [pow_zero, Nat.mul_one, Nat.mul_one, Nat.cast_zero, neg_zero] at hquotient
  have hnotSmall : ¬ (-1 : Int) < -((2 ^ Format.binary64.exponentBits : Int) + (10 * n).log2) := by
    have hpow : (1 : Int) ≤ 2 ^ Format.binary64.exponentBits := by decide
    omega
  rw [UnpackedFloat.ofScientific, dif_neg (by omega), if_neg (by decide), if_neg hnotSmall,
    if_neg (by decide)]
  exact (div_of_divCore_eq hquotient _ _).trans (roundWithAccuracy_eq_nearest hn _ (by omega))

/-- **A tenfold with one power of ten less** gives the same double. -/
theorem ofScientific_ten (hn : n ≠ 0) :
    Float.ofScientific (10 * n) true 1 = .ofModel (.pack (nearest n)) := by
  rw [Float.ofScientific]
  split
  · rename_i hsmall
    change Float.ofModel (.pack (UnpackedFloat.div .binary64
      (10 * n).toUInt64.toFloat.toModel.unpack
      (Float.ofBits 0x4024000000000000).toModel.unpack)) = _
    rw [unpack_toFloat (by omega) hsmall.1, unpack_ten, div_ten_eq_nearest hn hsmall.1]
  · rename_i hlarge
    exact congrArg (fun x => Float.ofModel (.pack x))
      (ofScientific_ten_eq_nearest hn (by omega))

/-! ## Whole numbers that are read -/

/-- A tenfold has one digit more. -/
theorem length_ofNat_ten_mul (hn : n ≠ 0) :
    (Text.ofNat (10 * n)).length = (Text.ofNat n).length + 1 := by
  have hdigits := Nat.toDigits_append_toDigits (b := 10) (d := 0) (by decide)
    (Nat.pos_of_ne_zero hn) (by decide)
  rw [Nat.add_zero, Nat.toDigits_zero] at hdigits
  rw [Text.ofNat, Text.ofNat, ← hdigits, List.length_append, List.length_singleton]

/-- **A whole number is read as the same double with a zero as its fraction.** -/
theorem toFloat_ten_mul (negative : Bool) (n : Nat) :
    Scientific.toFloat ⟨negative, 10 * n, -1⟩ = Scientific.toFloat ⟨negative, n, 0⟩ := by
  by_cases hn : n = 0
  · subst hn
    simp only [Scientific.toFloat, Nat.mul_zero, if_true]
  have hsize : ((Text.ofNat (10 * n)).length : Int) + -1 = (Text.ofNat n).length + 0 := by
    rw [length_ofNat_ten_mul hn]
    omega
  have hdouble : Float.ofScientific (10 * n) true 1 = Float.ofScientific n false 0 :=
    (ofScientific_ten hn).trans (ofScientific_zero hn).symm
  have hten : 10 * n ≠ 0 := by omega
  have hfraction : ¬ (0 : Int) ≤ -1 := by decide
  have hpower : (- -1 : Int).toNat = 1 := by decide
  simp only [Scientific.toFloat, if_neg hn, if_neg hten, hsize, if_neg hfraction, hpower, hdouble,
    le_refl, if_true, Int.toNat_zero]

/-- **A whole number of at most 64 bits is read as the double that it is converted to.** -/
theorem toFloat_eq_ofNat (hlt : n < 2 ^ 64) : Scientific.toFloat ⟨false, n, 0⟩ = Float.ofNat n := by
  by_cases hn : n = 0
  · subst hn
    decide +kernel
  have hlength : (Text.ofNat n).length ≤ 20 := Nat.toDigits_length 10 n 20 (by decide) (by omega)
  simp only [Scientific.toFloat, if_neg hn, Bool.false_eq_true, if_false]
  rw [if_neg (by omega), if_neg (by omega)]
  rfl

end MapScript.Number
