/-
Resolution of a text.

A pass substitutes the variables, evaluates the expressions and makes the calls, in this
order. Passes are repeated until one ends with the text it began with. An error does not
end a pass: it is kept, and forgotten as soon as anything changes the text after it. An
error that is still there at the end concerns the text that came out, and is the result
unless a text that is resolved in part is good enough.
-/
import MapScript.Expr.Eval
import MapScript.Rewrite.Substitution
import MapScript.Rewrite.Math
import MapScript.Rewrite.Calls

set_option autoImplicit false

namespace MapScript

/-- **A resolver:** the functions it calls, its limits, and how it evaluates
expressions. -/
structure Resolver (m : Type → Type) where
  registry : Registry m
  config : Config
  evaluate : Rewrite.Evaluator

namespace Resolver

variable {m : Type → Type} [Monad m]

/-- The resolver with these functions and limits. -/
def of (registry : Registry m) (config : Config) : Resolver m :=
  ⟨registry, config, Expr.evaluate⟩

/-! ## Passes -/

/-- A text on its way, and the error that nothing has changed since. -/
structure Progress where
  text : Text
  pending : Option ScriptError

/-- Takes up the result of one way of rewriting. -/
def Progress.apply (progress : Progress) (step : Except ScriptError Rewrite) : Progress :=
  match step with
  | .ok rewrite => if rewrite.changed then ⟨rewrite.output, none⟩ else progress
  | .error error => { progress with pending := some error }

/-- One pass. -/
def pass (resolver : Resolver m) (scope : Scope) (progress : Progress) : m Progress := do
  let progress := progress.apply (Rewrite.substitution resolver.config scope progress.text)
  let progress :=
    progress.apply (Rewrite.math resolver.evaluate resolver.config 0 progress.text)
  let step ← Rewrite.calls resolver.registry resolver.config 0 progress.text
  pure (progress.apply step)

/-- What is made of a text that a pass has not changed. -/
def Progress.result (lenient : Bool) (progress : Progress) : Except ScriptError Text :=
  match progress.pending with
  | some error => if lenient then .ok progress.text else .error error
  | none => .ok progress.text

/-- At most `remaining` passes. -/
def passes (resolver : Resolver m) (scope : Scope) (lenient : Bool) :
    (remaining : Nat) → Progress → m (Except ScriptError Text)
  | 0, progress => pure (.error (.didNotConverge resolver.config.maxPasses progress.text))
  | remaining + 1, progress => do
    let next ← resolver.pass scope progress
    if next.text = progress.text then pure (next.result lenient)
    else resolver.passes scope lenient remaining next

/-! ## Resolution -/

/-- **Resolves a text** in a scope, strictly or leniently. -/
def resolveWith (resolver : Resolver m) (lenient : Bool) (scope : Scope) (input : Text) :
    m (Except ScriptError Text) :=
  resolver.passes scope lenient resolver.config.maxPasses ⟨input, none⟩

/-- Resolves a text in a scope as the limits say. -/
def resolve (resolver : Resolver m) (scope : Scope) (input : Text) :
    m (Except ScriptError Text) :=
  resolver.resolveWith resolver.config.lenient scope input

end Resolver

end MapScript
