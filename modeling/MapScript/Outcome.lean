/-
Results of steps that change something even when they fail.

A step on a directive, a table of variables or a block may fail half-way. What it has
changed by then stays changed, so an outcome has the state in both cases.
-/
import MapScript.Error

set_option autoImplicit false

namespace MapScript

/-- **A result together with the state that is left behind.** -/
structure Outcome (σ α : Type) where
  result : Except ScriptError α
  state : σ

namespace Outcome

variable {σ τ α β : Type}

/-- Success. -/
def success (value : α) (state : σ) : Outcome σ α := ⟨.ok value, state⟩

/-- Failure. -/
def failure (error : ScriptError) (state : σ) : Outcome σ α := ⟨.error error, state⟩

/-- Changes the state of either outcome. -/
def mapState (f : σ → τ) (outcome : Outcome σ α) : Outcome τ α :=
  ⟨outcome.result, f outcome.state⟩

/-- Changes the value of a success. -/
def map (f : α → β) (outcome : Outcome σ α) : Outcome σ β :=
  ⟨outcome.result.map f, outcome.state⟩

end Outcome

end MapScript
