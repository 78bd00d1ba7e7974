/-
Evaluation of expressions in braces.

The first span of braces is replaced by the value of the expression inside it, and so
on from the left. A span whose expression has no value stops the run. It may have none
because it holds further spans, and then those are evaluated in its place.

How expressions are evaluated is a parameter: nothing here depends on it.
-/
import MapScript.Rewrite.Basic

set_option autoImplicit false

namespace MapScript.Rewrite

/-- Gives expressions their values. -/
abbrev Evaluator := Text → Except Expr.Error Text

/-- Evaluates the spans of a text from the left, at most `budget` of them. -/
def evaluateSpans (evaluate : Evaluator) (limit : Nat) : (budget : Nat) → Text → Run
  | budget, text =>
    if Span.hasUnescaped '\x7b' text then
      match budget with
      | 0 => ⟨text, .failed (.didNotConverge limit text)⟩
      | budget + 1 =>
        match Span.focusFirst text '\x7b' '\x7d' with
        | .error error => ⟨text, .failed error⟩
        | .ok span =>
          match evaluate span.inside with
          | .ok value => evaluateSpans evaluate limit budget (span.splice value)
          | .error cause => ⟨text, .failedIn span (.malformedExpression span.inside cause)⟩
    else ⟨text, .finished⟩
termination_by structural budget => budget

/-- Evaluates the spans of a text where `levels` levels of nesting are left. -/
def mathWithin (evaluate : Evaluator) (config : Config) :
    (levels : Nat) → Text → Except ScriptError Rewrite
  | 0, _ => .error (.recursionLimit config.maxDepth)
  | levels + 1, input =>
    match (evaluateSpans evaluate config.maxExpansions config.maxExpansions input).verdict
      input with
    | .settled result => result
    | .narrow span error => span.recover error (mathWithin evaluate config levels span.inside)

/-- **Evaluates the expressions in braces,** starting at a depth of nesting. -/
def math (evaluate : Evaluator) (config : Config) (depth : Nat) (input : Text) :
    Except ScriptError Rewrite :=
  mathWithin evaluate config (config.levelsAt depth) input

end MapScript.Rewrite
