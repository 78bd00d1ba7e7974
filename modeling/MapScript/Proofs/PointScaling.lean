/-
What the scaling of a point definition changes, and when it is refused.

A point is an array with a number in it, and its time is the last number (`IsTime`). What is scaled
are the numbers before the time; the time, everything after it and everything that is no number stay
as they are (`Scaling`). That determines the scaled point, so the function and its description are
the same relation (`scalePoint_eq_ok_iff`), and a list of points is scaled one by one. A single
element that is no point is enough for the whole definition to be refused.

The arguments are one text that is cut at its last comma, since a definition has commas of its own.
Whether a text is JSON for a value is what the reader says, and the result is the compact text of a
value. Numbers are multiplied as doubles, and a product that is not finite becomes null
(`component_eq_null_iff`).
-/
import MapScript.Builtin.Points
import Mathlib

set_option autoImplicit false

namespace MapScript

/-! ## The last separator -/

namespace Text

variable {separator : Char} {text before after : Text}

/-- Nothing is cut exactly where there is no separator. -/
theorem cutLast_eq_none_iff : cutLast separator text = none ↔ separator ∉ text := by
  induction text with
  | nil => simp [cutLast]
  | cons c rest ih =>
    rw [cutLast, List.mem_cons, not_or, ← ih]
    cases hrest : cutLast separator rest with
    | some parts => simp
    | none =>
      by_cases hc : c = separator
      · simp [hc]
      · simp [hc, Ne.symm hc]

/-- A separator that none follows is the last one. -/
theorem cutLast_append (before : Text) (h : separator ∉ after) :
    cutLast separator (before ++ separator :: after) = some (before, after) := by
  induction before with
  | nil => simp [cutLast, cutLast_eq_none_iff.2 h]
  | cons c before ih => simp [cutLast, ih]

/-- **A text is cut at the last separator:** it consists of the two parts, and no separator is in
the second one. -/
theorem cutLast_eq_some_iff :
    cutLast separator text = some (before, after) ↔
      text = before ++ separator :: after ∧ separator ∉ after := by
  constructor
  · intro h
    induction text generalizing before with
    | nil => simp [cutLast] at h
    | cons c rest ih =>
      rw [cutLast] at h
      -- a separator in the rest comes later than one at the beginning
      cases hrest : cutLast separator rest with
      | some parts =>
        obtain ⟨first, last⟩ := parts
        simp only [hrest, Option.some.injEq, Prod.mk.injEq] at h
        obtain ⟨rfl, rfl⟩ := h
        obtain ⟨hsplit, hlast⟩ := ih hrest
        exact ⟨by rw [hsplit, List.cons_append], hlast⟩
      | none =>
        by_cases hc : c = separator
        · simp only [hrest, if_pos hc, Option.some.injEq, Prod.mk.injEq] at h
          obtain ⟨rfl, rfl⟩ := h
          exact ⟨by rw [hc, List.nil_append], cutLast_eq_none_iff.1 hrest⟩
        · simp [hrest, hc] at h
  · rintro ⟨rfl, hafter⟩
    exact cutLast_append before hafter

end Text

namespace Builtin

/-! ## The time of a point -/

/-- **The time of a point** is its last number. -/
def IsTime (components : List Json) (time : Nat) : Prop :=
  (∃ value, components[time]? = some value ∧ value.isNumber = true) ∧
    ∀ i value, time < i → components[i]? = some value → value.isNumber = false

/-- **A point:** an array that has a number in it. -/
def IsPoint (point : Json) : Prop :=
  ∃ components, point = .array components ∧ ∃ value ∈ components, value.isNumber = true

variable {components results : List Json} {time : Nat}

/-- A point has one time. -/
theorem IsTime.unique {other : Nat} (h : IsTime components time) (hother : IsTime components other) :
    time = other := by
  obtain ⟨⟨value, hvalue, hnumber⟩, hlast⟩ := h
  obtain ⟨⟨value', hvalue', hnumber'⟩, hlast'⟩ := hother
  by_contra hne
  rcases Nat.lt_or_gt_of_ne hne with hlt | hgt
  · simp [hlast other value' hlt hvalue'] at hnumber'
  · simp [hlast' time value hgt hvalue] at hnumber

/-- Without a last number there is none at all. -/
theorem lastNumber?_eq_none_iff :
    lastNumber? components = none ↔ ∀ value ∈ components, value.isNumber = false := by
  induction components with
  | nil => simp [lastNumber?]
  | cons value rest ih =>
    rw [lastNumber?, List.forall_mem_cons, ← ih]
    cases hrest : lastNumber? rest with
    | some i => simp
    | none => simp

/-- The number that is found is the time. -/
theorem isTime_of_lastNumber? (h : lastNumber? components = some time) : IsTime components time := by
  induction components generalizing time with
  | nil => nomatch h
  | cons value rest ih =>
    rw [lastNumber?] at h
    -- positions in the rest are one less, and no position after the first one is zero
    cases hrest : lastNumber? rest with
    | some i =>
      simp only [hrest, Option.some.injEq] at h
      subst h
      obtain ⟨hvalue, hlast⟩ := ih hrest
      refine ⟨hvalue, fun j later hj hlater => ?_⟩
      obtain ⟨j, rfl⟩ : ∃ k, j = k + 1 := ⟨j - 1, by omega⟩
      exact hlast j later (by omega) hlater
    | none =>
      by_cases hvalue : value.isNumber = true
      · simp only [hrest, hvalue, if_true, Option.some.injEq] at h
        subst h
        refine ⟨⟨value, rfl, hvalue⟩, fun j later hj hlater => ?_⟩
        obtain ⟨j, rfl⟩ : ∃ k, j = k + 1 := ⟨j - 1, by omega⟩
        exact lastNumber?_eq_none_iff.1 hrest later (List.mem_of_getElem? hlater)
      · simp [hrest, hvalue] at h

/-- **The last number is found,** and what is found is it. -/
theorem lastNumber?_eq_some_iff : lastNumber? components = some time ↔ IsTime components time := by
  refine ⟨isTime_of_lastNumber?, fun h => ?_⟩
  cases hfound : lastNumber? components with
  | some found => rw [(isTime_of_lastNumber? hfound).unique h]
  | none =>
    obtain ⟨⟨value, hvalue, hnumber⟩, -⟩ := h
    have hno := lastNumber?_eq_none_iff.1 hfound value (List.mem_of_getElem? hvalue)
    simp [hno] at hnumber

/-! ## One point -/

/-- **The scaling of a point with a time:** there are as many components as before, of which those
from the time on and those that are no numbers stay, and the numbers before the time are multiplied
by the factor. -/
structure Scaling (factor : Float) (time : Nat) (components results : List Json) : Prop where
  length_eq : results.length = components.length
  unchanged : ∀ i value, components[i]? = some value → time ≤ i ∨ value.isNumber = false →
    results[i]? = some value
  scaled : ∀ i value x, components[i]? = some value → i < time → value.toNumber? = some x →
    results[i]? = some (component (x * factor))

/-- **One point becomes another one** when it is scaled. -/
def ScaledTo (factor : Float) (point scaled : Json) : Prop :=
  ∃ components results time, point = .array components ∧ scaled = .array results ∧
    IsTime components time ∧ Scaling factor time components results

/-- A product is a number as long as it is finite, and null otherwise. -/
theorem component_eq_null_iff (x : Float) : component x = .null ↔ Number.isFinite x = false := by
  rw [component, Json.ofFloat]
  by_cases hwhole : Number.isWhole x = true
  · have hfinite : Number.isFinite x = true := by
      rw [Number.isFinite]
      rw [Number.isWhole] at hwhole
      split at hwhole
      · simp_all
      · nomatch hwhole
    by_cases hsmall : x.abs < 1e15 <;> simp [hwhole, hsmall, hfinite]
  · by_cases hfinite : Number.isFinite x = true <;> simp [hwhole, hfinite]

variable {factor : Float}

/-- What is no number stays. -/
theorem scaleComponent_of_not_isNumber {value : Json} (h : value.isNumber = false) :
    scaleComponent factor value = value := by
  cases value <;> first | rfl | nomatch h

/-- A number is multiplied. -/
theorem scaleComponent_of_toNumber? {value : Json} {x : Float} (h : value.toNumber? = some x) :
    scaleComponent factor value = component (x * factor) := by
  simp only [scaleComponent, h]

/-- A value that is a number has a double. -/
theorem exists_toNumber? {value : Json} (h : value.isNumber = true) :
    ∃ x, value.toNumber? = some x := by
  cases value <;> first | exact ⟨_, rfl⟩ | nomatch h

/-- The components that a point is given, position by position. -/
theorem getElem?_scaled (components : List Json) (time i : Nat) :
    ((components.take time).map (scaleComponent factor) ++ components.drop time)[i]? =
      if i < time then components[i]?.map (scaleComponent factor) else components[i]? := by
  rw [List.getElem?_append, List.length_map, List.length_take]
  by_cases htime : i < time
  · by_cases hlength : i < components.length
    · rw [if_pos (by omega), if_pos htime, List.getElem?_map, List.getElem?_take_of_lt htime]
    · -- both sides have nothing at a position beyond the end
      rw [if_neg (by omega), if_pos htime, List.getElem?_eq_none (by rw [List.length_drop]; omega),
        List.getElem?_eq_none (by omega), Option.map_none]
  · rw [if_neg (by omega), if_neg htime, List.getElem?_drop]
    by_cases hlength : time ≤ components.length
    · congr 1
      omega
    · rw [List.getElem?_eq_none (by omega), List.getElem?_eq_none (by omega)]

/-- **Only one list is the scaling** of the components. -/
theorem scaling_iff :
    Scaling factor time components results ↔
      results = (components.take time).map (scaleComponent factor) ++ components.drop time := by
  constructor
  · intro h
    -- the fields say of each position what stands there, and no position is left out
    refine List.ext_getElem? fun i => ?_
    rw [getElem?_scaled]
    cases hvalue : components[i]? with
    | none =>
      have hlength := h.length_eq
      have hend := List.getElem?_eq_none_iff.1 hvalue
      rw [List.getElem?_eq_none (by omega), Option.map_none, ite_self]
    | some value =>
      by_cases htime : i < time
      · rw [if_pos htime, Option.map_some]
        by_cases hnumber : value.isNumber = true
        · obtain ⟨x, hx⟩ := exists_toNumber? hnumber
          rw [h.scaled i value x hvalue htime hx, scaleComponent_of_toNumber? hx]
        · have hno : value.isNumber = false := by simpa using hnumber
          rw [h.unchanged i value hvalue (.inr hno), scaleComponent_of_not_isNumber hno]
      · rw [if_neg htime]
        exact h.unchanged i value hvalue (.inl (by omega))
  · rintro rfl
    refine ⟨by simp; omega, fun i value hvalue hstays => ?_, fun i value x hvalue htime hx => ?_⟩
    · rw [getElem?_scaled, hvalue]
      by_cases htime : i < time
      · have hno := hstays.resolve_left (by omega)
        rw [if_pos htime, Option.map_some, scaleComponent_of_not_isNumber hno]
      · rw [if_neg htime]
    · rw [getElem?_scaled, hvalue, if_pos htime, Option.map_some, scaleComponent_of_toNumber? hx]

variable {point scaled : Json}

/-- **What one point becomes** is what the description says. -/
theorem scalePoint_eq_ok_iff : scalePoint factor point = .ok scaled ↔ ScaledTo factor point scaled := by
  constructor
  · intro h
    cases point with
    | array components =>
      rw [scalePoint] at h
      cases htime : lastNumber? components with
      | some time =>
        simp only [htime, Except.ok.injEq] at h
        exact ⟨components, _, time, rfl, h.symm, isTime_of_lastNumber? htime, scaling_iff.2 rfl⟩
      | none => simp [htime] at h
    | _ => nomatch h
  · rintro ⟨components, results, time, rfl, rfl, htime, hscaling⟩
    simp only [scalePoint, lastNumber?_eq_some_iff.2 htime, scaling_iff.1 hscaling]

/-- **Every point is scaled,** and nothing else is. -/
theorem exists_scaledTo_iff : (∃ scaled, ScaledTo factor point scaled) ↔ IsPoint point := by
  constructor
  · rintro ⟨_, components, _, time, rfl, -, ⟨⟨value, hvalue, hnumber⟩, -⟩, -⟩
    exact ⟨components, rfl, value, List.mem_of_getElem? hvalue, hnumber⟩
  · rintro ⟨components, rfl, value, hvalue, hnumber⟩
    cases hfound : lastNumber? components with
    | some time =>
      exact ⟨_, components, _, time, rfl, rfl, isTime_of_lastNumber? hfound, scaling_iff.2 rfl⟩
    | none => simp [lastNumber?_eq_none_iff.1 hfound value hvalue] at hnumber

/-! ## All points -/

variable {points : List Json}

/-- **A list of points is scaled point by point.** -/
theorem scalePointList_eq_ok_iff :
    scalePointList factor points = .ok results ↔ List.Forall₂ (ScaledTo factor) points results := by
  induction points generalizing results with
  | nil =>
    rw [scalePointList, List.forall₂_nil_left_iff, Except.ok.injEq]
    exact eq_comm
  | cons point rest ih =>
    rw [scalePointList, List.forall₂_cons_left_iff]
    simp only [← scalePoint_eq_ok_iff, ← ih]
    cases hpoint : scalePoint factor point with
    | error fault => simp [bind, Except.bind]
    | ok scaled =>
      cases hrest : scalePointList factor rest with
      | error fault => simp [bind, Except.bind]
      | ok others =>
        simp only [bind, Except.bind, Except.ok.injEq]
        constructor
        · rintro rfl
          exact ⟨scaled, others, rfl, rfl, rfl⟩
        · rintro ⟨_, _, rfl, rfl, rfl⟩
          rfl

/-- **A definition is scaled** as the list of its points. -/
theorem scalePoints_eq_ok_iff {definition : Json} :
    scalePoints factor definition = .ok scaled ↔
      ∃ points results, definition = .array points ∧ List.Forall₂ (ScaledTo factor) points results ∧
        scaled = .array results := by
  cases definition with
  | array points =>
    simp only [← scalePointList_eq_ok_iff, scalePoints]
    cases hlist : scalePointList factor points with
    | error fault => simp [Except.map, hlist]
    | ok results => simp [Except.map, hlist, eq_comm]
  | _ => simp [scalePoints]

/-- All points are scaled if and only if all of them are points. -/
theorem exists_forall₂_scaledTo_iff :
    (∃ scaled, List.Forall₂ (ScaledTo factor) points scaled) ↔ ∀ point ∈ points, IsPoint point := by
  induction points with
  | nil => simp
  | cons point rest ih =>
    have hpoint : (∃ scaled, ScaledTo factor point scaled) ↔ IsPoint point := exists_scaledTo_iff
    rw [List.forall_mem_cons, ← ih, ← hpoint]
    constructor
    · rintro ⟨_, hall⟩
      obtain ⟨_, _, hpoint, hrest, rfl⟩ := List.forall₂_cons_left_iff.1 hall
      exact ⟨⟨_, hpoint⟩, _, hrest⟩
    · rintro ⟨⟨_, hpoint⟩, _, hrest⟩
      exact ⟨_, .cons hpoint hrest⟩

/-! ## The function -/

/-- **The factor and the points that the arguments write:** after the last comma a text that is, but
for white space around it, a finite number, and before it one that is JSON for an array. -/
def Writes (arguments : Arguments) (factor : Float) (points : List Json) : Prop :=
  ∃ definition text, arguments.raw = definition ++ ',' :: text ∧ ',' ∉ text ∧
    Number.read? (Text.trim text) = some factor ∧ Number.isFinite factor = true ∧
    Json.read (Text.trim definition) = .ok (.array points)

variable {arguments : Arguments} {output : Text}

/-- **The result of the function** is the text of the scaled points. -/
theorem scaledPoints_eq_ok_iff :
    scaledPoints arguments = .ok output ↔
      ∃ factor points scaled, Writes arguments factor points ∧
        List.Forall₂ (ScaledTo factor) points scaled ∧ output = (Json.array scaled).compact := by
  constructor
  · intro h
    rw [scaledPoints] at h
    -- each step has succeeded, since there is a result
    cases hcut : Text.cutLast ',' arguments.raw with
    | none => simp [hcut, Arguments.refuse] at h
    | some parts =>
      obtain ⟨definition, text⟩ := parts
      obtain ⟨hraw, hlast⟩ := Text.cutLast_eq_some_iff.1 hcut
      cases hnumber : arguments.number text with
      | error error => simp [hcut, hnumber, bind, Except.bind] at h
      | ok factor =>
        obtain ⟨hfactor, hfinite⟩ := Arguments.number_eq_ok_iff.1 hnumber
        cases hread : Json.read (Text.trim definition) with
        | error message => simp [hcut, hnumber, hread, bind, Except.bind, Arguments.refuse] at h
        | ok value =>
          cases hscaled : scalePoints factor value with
          | error fault =>
            simp [hcut, hnumber, hread, hscaled, bind, Except.bind, Arguments.refuse] at h
          | ok scaled =>
            simp only [hcut, hnumber, hread, hscaled, bind, Except.bind, Except.ok.injEq] at h
            obtain ⟨points, results, rfl, hlist, rfl⟩ := scalePoints_eq_ok_iff.1 hscaled
            exact ⟨factor, points, results, ⟨definition, text, hraw, hlast, hfactor, hfinite, hread⟩,
              hlist, h.symm⟩
  · rintro ⟨factor, points, scaled, ⟨definition, text, hraw, hlast, hfactor, hfinite, hread⟩,
      hscaled, rfl⟩
    have hcut : Text.cutLast ',' arguments.raw = some (definition, text) :=
      Text.cutLast_eq_some_iff.2 ⟨hraw, hlast⟩
    have hnumber : arguments.number text = .ok factor :=
      Arguments.number_eq_ok_iff.2 ⟨hfactor, hfinite⟩
    have hpoints : scalePoints factor (.array points) = .ok (.array scaled) :=
      scalePoints_eq_ok_iff.2 ⟨points, scaled, rfl, hscaled, rfl⟩
    simp only [scaledPoints, hcut, hnumber, hread, bind, Except.bind, hpoints]

/-- Whatever is refused, the error is one of the arguments of the function. -/
theorem error_of_scaledPoints {error : ScriptError} (h : scaledPoints arguments = .error error) :
    ∃ message, error = .functionArgument arguments.function message := by
  rw [scaledPoints] at h
  split at h
  · exact ⟨_, (Except.error.inj h).symm⟩
  · rename_i definition text _
    cases hnumber : arguments.number text with
    | error error' =>
      simp only [hnumber, bind, Except.bind, Except.error.injEq] at h
      exact h ▸ Arguments.error_of_number hnumber
    | ok factor =>
      simp only [hnumber, bind, Except.bind] at h
      split at h
      · exact ⟨_, (Except.error.inj h).symm⟩
      · split at h
        · exact ⟨_, (Except.error.inj h).symm⟩
        · nomatch h

/-- **Exactly the components before the time are scaled.** A call succeeds if and only if the
arguments write a finite factor and an array of points. Then its result is the text of as many points,
each of which is a point of the definition with the numbers before its time multiplied and all else
as it was; a product becomes null only if it is not finite. Otherwise the error is one of the
arguments. Nothing of this depends on the monad of the function. -/
theorem multiplyPoints_scales (arguments : Arguments) :
    ∃ result : Except ScriptError Text,
      (∀ (m : Type → Type) [Monad m], multiplyPoints arguments = (pure result : m _)) ∧
      ((∃ output, result = .ok output) ↔
        ∃ factor points, Writes arguments factor points ∧ ∀ point ∈ points, IsPoint point) ∧
      (∀ output, result = .ok output ↔
        ∃ factor points scaled, Writes arguments factor points ∧
          List.Forall₂ (ScaledTo factor) points scaled ∧ output = (Json.array scaled).compact) ∧
      (∀ error, result = .error error →
        ∃ message, error = .functionArgument arguments.function message) ∧
      ∀ x, component x = .null ↔ Number.isFinite x = false := by
  refine ⟨scaledPoints arguments, fun _ _ => rfl, ?_, fun _ => scaledPoints_eq_ok_iff,
    fun _ => error_of_scaledPoints, component_eq_null_iff⟩
  simp only [scaledPoints_eq_ok_iff]
  constructor
  · rintro ⟨_, factor, points, scaled, hwrites, hscaled, -⟩
    exact ⟨factor, points, hwrites, exists_forall₂_scaledTo_iff.1 ⟨scaled, hscaled⟩⟩
  · rintro ⟨factor, points, hwrites, hpoints⟩
    obtain ⟨scaled, hscaled⟩ := exists_forall₂_scaledTo_iff.2 hpoints
    exact ⟨_, factor, points, scaled, hwrites, hscaled, rfl⟩

/-- The name of an easing stands after the time, which is not scaled either. -/
example : (scaledPoints ⟨"multpointdefinition".toList,
      "[[1,1,1,0],[2,2,2,1,\"easeInOut\"]],2".toList⟩).toOption =
    some "[[2,2,2,0],[4,4,4,1,\"easeInOut\"]]".toList := by
  decide +kernel

end Builtin

end MapScript
