/-
What one way of rewriting makes of a text, and what it does when it is stopped.

Expressions and calls are rewritten one after the other, each in a text from which the
earlier ones are gone already. Such a run ends when nothing is left to rewrite, or it is
stopped by an error. What an error then leads to is the same for both:

* if the run has changed anything, the change is kept and the error is dropped, since
  the next pass meets it again;
* if the error concerns the inside of one span, the inside is rewritten on its own, and
  if that changes it, the change is put back between the brackets;
* otherwise the error is the result.
-/
import MapScript.Span

set_option autoImplicit false

namespace MapScript

/-! ## Limits -/

/-- **The limits of resolution** and its treatment of errors. -/
structure Config where
  /-- The number of passes over a text. -/
  maxPasses : Nat
  /-- The number of replacements of one kind in one pass. -/
  maxExpansions : Nat
  /-- How deep the insides of spans are entered. -/
  maxDepth : Nat
  /-- Whether a text that is resolved in part is good enough. -/
  lenient : Bool
deriving Repr, DecidableEq

/-- The limits that are used where none are given. -/
def Config.standard : Config := ⟨256, 4096, 32, false⟩

/-- How many levels of nesting are left at a depth; at depth zero one more than the
greatest depth. -/
def Config.levelsAt (config : Config) (depth : Nat) : Nat := config.maxDepth + 1 - depth

/-! ## Results -/

/-- **What a text has been rewritten to,** and whether that differs from it. -/
structure Rewrite where
  changed : Bool
  output : Text
deriving Repr, DecidableEq

/-- The result of a run that came to its end. -/
def Rewrite.compare (input output : Text) : Rewrite := ⟨input ≠ output, output⟩

/-- How a run ended. -/
inductive Stop where
  /-- Nothing is left to rewrite. -/
  | finished
  /-- An error that no span can be blamed for. -/
  | failed (error : ScriptError)
  /-- An error of what is inside a span. -/
  | failedIn (span : Span) (error : ScriptError)

/-- The text that a run reached, and how it ended. -/
structure Run where
  text : Text
  stop : Stop

/-! ## Recovery -/

/-- What follows from a run: a result, or the inside of a span to be tried. -/
inductive Verdict where
  | settled (result : Except ScriptError Rewrite)
  | narrow (span : Span) (error : ScriptError)

/-- What follows from a run over `input`. -/
def Run.verdict (input : Text) (run : Run) : Verdict :=
  match run.stop with
  | .finished => .settled (.ok (.compare input run.text))
  | .failed error =>
    if run.text ≠ input then .settled (.ok ⟨true, run.text⟩) else .settled (.error error)
  | .failedIn span error =>
    if run.text ≠ input then .settled (.ok ⟨true, run.text⟩) else .narrow span error

/-- **The result of trying the inside of a span** that stopped a run with `error`. Of the
errors of the inside only the limit on nesting is reported; all others are consequences
of looking at a part. -/
def Span.recover (span : Span) (error : ScriptError) (inner : Except ScriptError Rewrite) :
    Except ScriptError Rewrite :=
  match inner with
  | .ok rewrite =>
    if rewrite.changed then .ok ⟨true, span.rewrap rewrite.output⟩ else .error error
  | .error (.recursionLimit depth) => .error (.recursionLimit depth)
  | .error _ => .error error

end MapScript
