/-
Between which numbers a random integer lies.

The integers between two bounds are those from the ceiling of the lower one to the floor of the upper
one, and the range that is drawn from has both ends moved into 64 bits. There are three cases. With an
integer of 64 bits between the bounds the range holds these integers and no others. Without any
integer between them the call is refused; both ends are small then, since a large double is an integer
itself, so that moving them does not make them meet. But where there are integers between the bounds
and none of them has 64 bits, both ends are moved to the same end of the 64 bits, and the range is
that one integer, which is not between the bounds.
-/
import MapScript.Builtin.Random
import MapScript.Proofs.ExactOrder
import MapScript.Proofs.Rewriting
import Mathlib

set_option autoImplicit false

namespace MapScript.Builtin

open Number

/-! ## Integers between two doubles -/

/-- **An integer between two doubles,** both included. -/
def Between (low high : Float) (n : Int) : Prop := toRat low ≤ n ∧ n ≤ toRat high

/-- An integer of 64 bits. -/
def Fits (n : Int) : Prop := leastInt64 ≤ n ∧ n ≤ greatestInt64

instance (n : Int) : Decidable (Fits n) := inferInstanceAs (Decidable (_ ∧ _))

/-- **What a range is to the bounds** it was made from: it holds all integers of 64 bits between them,
and no others exactly if there are such integers. If all integers between the bounds are too large or
too small for 64 bits, the range is the last integer that is not. -/
structure IsRange (low high : Float) (least greatest : Int) : Prop where
  nonempty : least ≤ greatest
  fits : Fits least ∧ Fits greatest
  complete : ∀ n, Fits n → Between low high n → least ≤ n ∧ n ≤ greatest
  sound_iff : (∀ n, least ≤ n → n ≤ greatest → Between low high n) ↔
    ∃ n, Fits n ∧ Between low high n
  above : greatestInt64 < toRat low → least = greatestInt64 ∧ greatest = greatestInt64
  below : toRat high < leastInt64 → least = leastInt64 ∧ greatest = leastInt64

variable {arguments : Arguments} {low high : Float} {n : Int}

/-- The integers between two doubles are those from the ceiling to the floor. -/
theorem between_iff : Between low high n ↔ ⌈toRat low⌉ ≤ n ∧ n ≤ ⌊toRat high⌋ :=
  and_congr Int.ceil_le.symm Int.le_floor.symm

/-- There are some exactly if the ceiling is not above the floor. -/
theorem exists_between_iff : (∃ n, Between low high n) ↔ ⌈toRat low⌉ ≤ ⌊toRat high⌋ := by
  simp only [between_iff]
  exact ⟨fun ⟨_, hlow, hhigh⟩ => hlow.trans hhigh, fun h => ⟨_, le_refl _, h⟩⟩

/-! ## The bounds -/

/-- **Bounds that are accepted** are finite and in order. -/
theorem toRat_le_of_bounds (h : bounds arguments = .ok (low, high)) :
    isFinite low = true ∧ isFinite high = true ∧ toRat low ≤ toRat high := by
  rw [bounds] at h
  split at h
  · rename_i first second _
    cases hfirst : arguments.number first with
    | error error => simp [hfirst, bind, Except.bind] at h
    | ok low' =>
      cases hsecond : arguments.number second with
      | error error => simp [hfirst, hsecond, bind, Except.bind] at h
      | ok high' =>
        simp only [hfirst, hsecond, bind, Except.bind] at h
        split at h
        · simp [Arguments.refuse] at h
        · rename_i hgreater
          obtain ⟨rfl, rfl⟩ := Prod.mk.inj (Except.ok.inj h)
          have hlow := (Arguments.number_eq_ok_iff.1 hfirst).2
          have hhigh := (Arguments.number_eq_ok_iff.1 hsecond).2
          exact ⟨hlow, hhigh, not_lt.1 (mt (lt_iff_toRat_lt hhigh hlow).2 hgreater)⟩
  · simp [Arguments.refuse] at h

/-- Between bounds that are no integers there may be none, but the next one is not far. -/
theorem ceil_le_floor_add_one (h : toRat low ≤ toRat high) : ⌈toRat low⌉ ≤ ⌊toRat high⌋ + 1 := by
  refine Int.ceil_le.2 (h.trans ?_)
  rw [Int.cast_add, Int.cast_one]
  exact (Int.lt_floor_add_one _).le

/-- A large bound is an integer between the bounds. -/
theorem ceil_le_floor_of_large (hlow : isFinite low = true) (hhigh : isFinite high = true)
    (hle : toRat low ≤ toRat high)
    (hlarge : ⌈toRat low⌉ ≤ leastInt64 ∨ greatestInt64 ≤ ⌊toRat high⌋) :
    ⌈toRat low⌉ ≤ ⌊toRat high⌋ := by
  rcases hlarge with hlarge | hlarge
  · have hbound : toRat low ≤ leastInt64 := Int.ceil_le.1 hlarge
    have habs : 2 ^ 53 ≤ |toRat low| := by
      refine le_abs.2 (.inr ?_)
      have hleast : (leastInt64 : ℚ) = -2 ^ 63 := by decide +kernel
      rw [hleast] at hbound
      linarith
    obtain ⟨n, hn⟩ := exists_int_of_le_abs_toRat hlow habs
    rw [hn, Int.ceil_intCast]
    exact Int.le_floor.2 (hn ▸ hle)
  · have hbound : greatestInt64 ≤ toRat high := Int.le_floor.1 hlarge
    have habs : 2 ^ 53 ≤ |toRat high| := by
      refine le_abs.2 (.inl ?_)
      have hgreatest : (greatestInt64 : ℚ) = 2 ^ 63 - 1 := by decide +kernel
      rw [hgreatest] at hbound
      linarith
    obtain ⟨n, hn⟩ := exists_int_of_le_abs_toRat hhigh habs
    rw [hn, Int.floor_intCast]
    exact Int.ceil_le.2 (hn ▸ hle)

/-! ## The range -/

/-- An end of the range: a whole number that is moved into 64 bits. -/
def moved (n : Int) : Int := max leastInt64 (min greatestInt64 n)

/-- **The range that accepted bounds leave,** by the integers between them. -/
theorem integerRange_of_bounds (h : bounds arguments = .ok (low, high)) :
    integerRange arguments =
      if moved ⌈toRat low⌉ > moved ⌊toRat high⌋ then
        arguments.refuse "range holds no integer".toList
      else .ok (moved ⌈toRat low⌉, moved ⌊toRat high⌋) := by
  obtain ⟨hlow, hhigh, -⟩ := toRat_le_of_bounds h
  simp only [integerRange, h, bind, Except.bind, toInt_up _ _ hlow, toInt_down _ _ hhigh, moved]
  rfl

/-- **Moving the ends keeps what fits.** -/
theorem isRange_moved (hle : ⌈toRat low⌉ ≤ ⌊toRat high⌋) :
    IsRange low high (moved ⌈toRat low⌉) (moved ⌊toRat high⌋) := by
  have hleast : leastInt64 = -9223372036854775808 := by decide
  have hgreatest : greatestInt64 = 9223372036854775807 := by decide
  refine ⟨?_, ?_, ?_, ?_, ?_, ?_⟩
  · unfold moved
    omega
  · unfold Fits moved
    omega
  · intro n hfits hbetween
    rw [between_iff] at hbetween
    unfold Fits at hfits
    unfold moved
    omega
  · simp only [between_iff, Fits]
    constructor
    · intro hall
      -- the least element of the range is one of 64 bits, and it is between the bounds
      refine ⟨moved ⌈toRat low⌉, ?_, hall _ (le_refl _) ?_⟩ <;> unfold moved <;> omega
    · rintro ⟨m, hfits, hbetween⟩ n hfirst hlast
      unfold moved at hfirst hlast
      omega
  · intro habove
    have hceil : greatestInt64 < ⌈toRat low⌉ := Int.lt_ceil.2 habove
    unfold moved
    omega
  · intro hbelow
    have hfloor : ⌊toRat high⌋ < leastInt64 := Int.floor_lt.2 hbelow
    unfold moved
    omega

/-- A range that is accepted is not empty. -/
theorem le_of_integerRange {least greatest : Int}
    (h : integerRange arguments = .ok (least, greatest)) : least ≤ greatest := by
  cases hbounds : bounds arguments with
  | error error => simp [integerRange, hbounds, bind, Except.bind] at h
  | ok both =>
    rw [integerRange_of_bounds hbounds] at h
    split at h
    · simp [Arguments.refuse] at h
    · obtain ⟨rfl, rfl⟩ := Prod.mk.inj (Except.ok.inj h)
      omega

/-! ## The function -/

variable {m : Type → Type} [Monad m] [LawfulMonad m] [Draws m]

/-- **Every draw is from the range.** -/
theorem randomInteger_draws (arguments : Arguments) :
    SatisfiesM
      (fun result => match integerRange arguments with
        | .error error => result = .error error
        | .ok (least, greatest) => ∃ n, least ≤ n ∧ n ≤ greatest ∧ result = .ok (Text.ofInt n))
      (randomInteger arguments : m (Except ScriptError Text)) := by
  unfold randomInteger
  cases hrange : integerRange arguments with
  | error error => exact .pure rfl
  | ok range =>
    obtain ⟨least, greatest⟩ := range
    have hle := le_of_integerRange hrange
    refine .bind_pre (.of_true fun step => .pure ⟨_, ?_, ?_, rfl⟩) <;> omega

/-- **What a random integer has to do with its bounds.** They are in order as the rational numbers
they are. The call is refused exactly if no integer is between them, in particular only if none of 64
bits is; otherwise whatever is drawn is from the range, which holds integers between the bounds only,
exactly if one of these has 64 bits. -/
theorem randomInteger_between_iff (h : bounds arguments = .ok (low, high)) :
    toRat low ≤ toRat high ∧
      (match integerRange arguments with
        | .error error =>
          error = .functionArgument arguments.function "range holds no integer".toList ∧
            ¬ ∃ n, Between low high n
        | .ok (least, greatest) =>
          (∃ n, Between low high n) ∧ IsRange low high least greatest) ∧
      ∀ (m : Type → Type) [Monad m] [LawfulMonad m] [Draws m],
        SatisfiesM
          (fun result => match integerRange arguments with
            | .error error => result = .error error
            | .ok (least, greatest) =>
              ∃ n, least ≤ n ∧ n ≤ greatest ∧ result = .ok (Text.ofInt n))
          (randomInteger arguments : m (Except ScriptError Text)) := by
  obtain ⟨hlow, hhigh, hle⟩ := toRat_le_of_bounds h
  refine ⟨hle, ?_, fun m => randomInteger_draws arguments⟩
  rw [exists_between_iff, integerRange_of_bounds h]
  by_cases hbetween : ⌈toRat low⌉ ≤ ⌊toRat high⌋
  · have hrange := isRange_moved hbetween
    rw [if_neg (not_lt.2 hrange.nonempty)]
    exact ⟨hbetween, hrange⟩
  · -- the ends are neighbours, and none of them is so large that both are moved to one place
    have hnext := ceil_le_floor_add_one hle
    have hsmall := mt (ceil_le_floor_of_large hlow hhigh hle) hbetween
    have hgreater : moved ⌈toRat low⌉ > moved ⌊toRat high⌋ := by
      unfold moved
      omega
    rw [if_pos hgreater]
    exact ⟨rfl, hbetween⟩

/-- Bounds that are whole numbers. -/
theorem bounds_of_decode {first last : Nat}
    (h : (bounds arguments).toOption.map (fun both => (decode both.1, decode both.2)) =
      some (.finite false (first * unitsPerOne), .finite false (last * unitsPerOne))) :
    ∃ low high, bounds arguments = .ok (low, high) ∧ toRat low = first ∧ toRat high = last := by
  obtain ⟨⟨low, high⟩, hbounds, hdecode⟩ := Option.map_eq_some_iff.1 h
  obtain ⟨hlow, hhigh⟩ := Prod.mk.inj hdecode
  exact ⟨low, high, eq_ok_of_toOption hbounds, toRat_of_decode hlow, toRat_of_decode hhigh⟩

/-- Between one and three: the range holds the integers that are, and no others. -/
theorem randomInteger_between_iff_three :
    ∃ low high, bounds ⟨"randomint".toList, "1,3".toList⟩ = .ok (low, high) ∧
      integerRange ⟨"randomint".toList, "1,3".toList⟩ = .ok (1, 3) ∧
      ∀ n, 1 ≤ n ∧ n ≤ 3 ↔ Fits n ∧ Between low high n := by
  have hdecode : (bounds ⟨"randomint".toList, "1,3".toList⟩).toOption.map
      (fun both => (decode both.1, decode both.2)) =
        some (.finite false (1 * unitsPerOne), .finite false (3 * unitsPerOne)) := by
    decide +kernel
  have hrange : integerRange ⟨"randomint".toList, "1,3".toList⟩ = .ok (1, 3) :=
    eq_ok_of_toOption (by decide +kernel)
  -- all there is to know of the arguments has been computed
  generalize (⟨"randomint".toList, "1,3".toList⟩ : Arguments) = arguments at hdecode hrange ⊢
  obtain ⟨low, high, hbounds, hlow, hhigh⟩ := bounds_of_decode hdecode
  obtain ⟨-, hspec, -⟩ := randomInteger_between_iff hbounds
  rw [hrange] at hspec
  have htwo : Fits 2 ∧ Between low high 2 := by
    refine ⟨by decide, ?_⟩
    rw [Between, hlow, hhigh]
    norm_num
  refine ⟨low, high, hbounds, hrange, fun n => ⟨fun hn => ⟨?_, ?_⟩, fun hn => ?_⟩⟩
  · obtain ⟨hleast, hgreatest⟩ := hspec.2.fits
    exact ⟨hleast.1.trans hn.1, hn.2.trans hgreatest.2⟩
  · exact hspec.2.sound_iff.2 ⟨2, htwo⟩ n hn.1 hn.2
  · exact hspec.2.complete n hn.1 hn.2

/-- Between `1e19` and `2e19` there are only integers that are too large for 64 bits. The call is not
refused, and what it gives is below both bounds. -/
theorem randomInteger_below_both_bounds :
    ∃ low high, bounds ⟨"randomint".toList, "1e19,2e19".toList⟩ = .ok (low, high) ∧
      integerRange ⟨"randomint".toList, "1e19,2e19".toList⟩ = .ok (greatestInt64, greatestInt64) ∧
      greatestInt64 < toRat low ∧ toRat low ≤ toRat high := by
  have hdecode : (bounds ⟨"randomint".toList, "1e19,2e19".toList⟩).toOption.map
      (fun both => (decode both.1, decode both.2)) =
        some (.finite false (10000000000000000000 * unitsPerOne),
          .finite false (20000000000000000000 * unitsPerOne)) := by
    decide +kernel
  obtain ⟨low, high, hbounds, hlow, hhigh⟩ := bounds_of_decode hdecode
  refine ⟨low, high, hbounds, eq_ok_of_toOption (by decide +kernel), ?_, ?_⟩
  · have hgreatest : greatestInt64 = 9223372036854775807 := by decide
    rw [hlow, hgreatest]
    norm_num
  · rw [hlow, hhigh]
    norm_num

end MapScript.Builtin
