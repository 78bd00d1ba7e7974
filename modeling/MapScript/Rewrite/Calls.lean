/-
Invocation of functions.

The functions are taken in the order of the table. The first call of a function is
replaced by its result until no call of it is left; then it is the turn of the next. A
call that fails stops the run. It may fail because its arguments hold further calls, and
then those are made in its place.
-/
import MapScript.Function
import MapScript.Rewrite.Basic

set_option autoImplicit false

namespace MapScript.Rewrite

variable {m : Type → Type} [Monad m]

/-- Makes the calls of one function from the left, at most `budget` of them. -/
def invoke (limit : Nat) (name : Text) (function : Function m) : (budget : Nat) → Text → m Run
  | budget, text =>
    if (Span.findCall? text name '(').isSome then
      match budget with
      | 0 =>
        pure ⟨text, .failed (.functionExecution name (.didNotConverge limit text))⟩
      | budget + 1 =>
        match Span.focusCall text name '(' ')' with
        | .error error => pure ⟨text, .failed error⟩
        | .ok span => do
          match ← function ⟨name, span.inside⟩ with
          | .ok output => invoke limit name function budget (span.splice output)
          | .error source => pure ⟨text, .failedIn span (.functionExecution name source)⟩
    else pure ⟨text, .finished⟩
termination_by structural budget => budget

/-- Makes the calls of the functions of a list, one function after the other. -/
def invokeAll (limit : Nat) : List (Text × Function m) → Text → m Run
  | [], text => pure ⟨text, .finished⟩
  | (name, function) :: rest, text => do
    let run ← invoke limit name function limit text
    match run.stop with
    | .finished => invokeAll limit rest run.text
    | _ => pure run

/-- Makes the calls of a text where `levels` levels of nesting are left. -/
def callsWithin (registry : Registry m) (config : Config) :
    (levels : Nat) → Text → m (Except ScriptError Rewrite)
  | 0, _ => pure (.error (.recursionLimit config.maxDepth))
  | levels + 1, input => do
    let run ← invokeAll config.maxExpansions registry.entries input
    match run.verdict input with
    | .settled result => pure result
    | .narrow span error =>
      let inner ← callsWithin registry config levels span.inside
      pure (span.recover error inner)

/-- **Makes the calls of a text,** starting at a depth of nesting. -/
def calls (registry : Registry m) (config : Config) (depth : Nat) (input : Text) :
    m (Except ScriptError Rewrite) :=
  callsWithin registry config (config.levelsAt depth) input

end MapScript.Rewrite
