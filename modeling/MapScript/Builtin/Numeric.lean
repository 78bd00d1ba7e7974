/-
Numbers among the arguments of a function.
-/
import MapScript.Function
import MapScript.Number.Layout
import MapScript.Number.Reading

set_option autoImplicit false

namespace MapScript.Arguments

/-- The number that a text among the arguments writes. White space around it does not
count; infinities and the absent number are refused. -/
def number (arguments : Arguments) (text : Text) : Except ScriptError Float :=
  let trimmed := Text.trim text
  let refusal := arguments.refuse ("'".toList ++ trimmed ++ "' is not a valid number".toList)
  match Number.read? trimmed with
  | some x => if Number.isFinite x then .ok x else refusal
  | none => refusal

variable {arguments : Arguments} {text : Text} {x : Float}

/-- **A number among the arguments** is a text that writes a finite one. -/
theorem number_eq_ok_iff :
    arguments.number text = .ok x ↔
      Number.read? (Text.trim text) = some x ∧ Number.isFinite x = true := by
  rw [number]
  cases hread : Number.read? (Text.trim text) with
  | none => simp [refuse]
  | some y =>
    by_cases hfinite : Number.isFinite y = true
    · simp only [hfinite, if_true, Except.ok.injEq, Option.some.injEq]
      exact ⟨fun h => ⟨h, h ▸ hfinite⟩, And.left⟩
    · simp only [hfinite, Option.some.injEq, refuse]
      exact ⟨nofun, fun h => absurd (h.1 ▸ h.2) hfinite⟩

/-- The refusal of a number names the function. -/
theorem error_of_number {error : ScriptError} (h : arguments.number text = .error error) :
    ∃ message, error = .functionArgument arguments.function message := by
  rw [number] at h
  split at h
  · split at h
    · nomatch h
    · exact ⟨_, (Except.error.inj h).symm⟩
  · exact ⟨_, (Except.error.inj h).symm⟩

end MapScript.Arguments
