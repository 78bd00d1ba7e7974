/-
Which errors the resolution of a text has.

Resolution reports brackets, expressions, calls and limits; it never reports a line, since it
is given a text and not the line it comes from. The one thing that it passes on from outside
is the error of a function, inside the error of the call. So a property of the errors of the
functions (`Own`) is all that has to be known to say which errors there are
(`resolve_onError`), whatever the texts, the scope and the limits, and whatever the functions
draw.

Substitutions and calls have errors of their own kinds among these (`OfSubstitution`, `OfCalls`).
-/
import MapScript.Resolver
import MapScript.Proofs.Rewriting
import Mathlib

set_option autoImplicit false

namespace MapScript

/-- **The errors of the resolution of a text,** where those of functions have the property
`Own`. -/
inductive ScriptError.OfResolution (Own : ScriptError → Prop) : ScriptError → Prop where
  | bracket (opening closing : Char) (text : Text) :
    OfResolution Own (.malformedBracket opening closing text)
  | expression (text : Text) (cause : Expr.Error) :
    OfResolution Own (.malformedExpression text cause)
  | call (function : Text) {source : ScriptError} (h : Own source) :
    OfResolution Own (.functionExecution function source)
  | calls (function : Text) (limit : Nat) (reached : Text) :
    OfResolution Own (.functionExecution function (.didNotConverge limit reached))
  | substitution (name : Text) (limit : Nat) (reached : Text) :
    OfResolution Own (.variableSubstitution name (.didNotConverge limit reached))
  | steps (limit : Nat) (reached : Text) : OfResolution Own (.didNotConverge limit reached)
  | depth (limit : Nat) : OfResolution Own (.recursionLimit limit)

/-- The number and the text that the error of an unresolved line shows. -/
def ScriptError.unresolvedAt? : ScriptError → Option (Nat × Text)
  | .unresolvedLine index line _ => some (index, line)
  | _ => none

/-- An error without a line: neither it nor any error that it wraps is that of an unresolved
line. -/
def ScriptError.IsLineless (error : ScriptError) : Prop :=
  ∀ cause ∈ error :: error.causes, cause.unresolvedAt? = none

/-- Where the errors of functions are without a line, those of a resolution are. -/
theorem ScriptError.OfResolution.isLineless {Own : ScriptError → Prop}
    (hOwn : ∀ error, Own error → error.IsLineless) {error : ScriptError}
    (h : OfResolution Own error) : error.IsLineless := by
  intro cause hcause
  rcases List.mem_cons.1 hcause with rfl | hinner
  · cases h <;> rfl
  · cases h with
    | call function hsource => exact hOwn _ hsource cause hinner
    | calls function limit reached =>
      obtain rfl := List.mem_singleton.1 hinner
      rfl
    | substitution name limit reached =>
      obtain rfl := List.mem_singleton.1 hinner
      rfl
    | bracket | expression | steps | depth => cases hinner

/-! ## The errors of substitutions and calls -/

/-- The errors of a substitution. -/
inductive ScriptError.OfSubstitution : ScriptError → Prop where
  | steps (name : Text) (limit : Nat) (reached : Text) :
    OfSubstitution (.variableSubstitution name (.didNotConverge limit reached))

/-- The errors of calls, where the limit on nesting is reported only if `Deep` holds. -/
inductive ScriptError.OfCalls (Own : ScriptError → Prop) (config : Config) (Deep : Prop) :
    ScriptError → Prop where
  | bracket (text : Text) : OfCalls Own config Deep (.malformedBracket '(' ')' text)
  | call (function : Text) {source : ScriptError} (h : Own source) :
    OfCalls Own config Deep (.functionExecution function source)
  | steps (function : Text) (limit : Nat) (reached : Text) :
    OfCalls Own config Deep (.functionExecution function (.didNotConverge limit reached))
  | depth (h : Deep) : OfCalls Own config Deep (.recursionLimit config.maxDepth)

namespace ScriptError

variable {Own : ScriptError → Prop} {error : ScriptError}

theorem OfSubstitution.ofResolution (h : OfSubstitution error) : OfResolution Own error := by
  cases h with
  | steps name limit reached => exact .substitution name limit reached

theorem OfCalls.ofResolution {config : Config} {Deep : Prop} (h : OfCalls Own config Deep error) :
    OfResolution Own error := by
  cases h with
  | bracket text => exact .bracket _ _ text
  | call function hsource => exact .call function hsource
  | steps function limit reached => exact .calls function limit reached
  | depth => exact .depth config.maxDepth

theorem OfCalls.imp {config : Config} {Deep Deep' : Prop} (hdeep : Deep → Deep')
    (h : OfCalls Own config Deep error) : OfCalls Own config Deep' error := by
  cases h with
  | bracket text => exact .bracket text
  | call function hsource => exact .call function hsource
  | steps function limit reached => exact .steps function limit reached
  | depth h => exact .depth (hdeep h)

end ScriptError

/-! ## Functions -/

/-- Functions whose errors have a property. -/
def Registry.ErrorsIn {m : Type → Type} [Monad m] (registry : Registry m)
    (Own : ScriptError → Prop) : Prop :=
  ∀ entry ∈ registry.entries, ∀ arguments, SatisfiesM (OnError Own) (entry.2 arguments)

/-- **Calls inside each other:** the text has a first call of one of the names, the inside of that
has one, and so on for `levels` levels. -/
inductive Span.NestsCalls (names : List Text) : (levels : Nat) → Text → Prop where
  | zero (text : Text) : NestsCalls names 0 text
  | succ {levels : Nat} {name text : Text} {span : Span} (hname : name ∈ names)
      (hfocus : Span.focusCall text name '(' ')' = .ok span)
      (h : NestsCalls names levels span.inside) :
    NestsCalls names (levels + 1) text

open ScriptError (OfResolution OfSubstitution OfCalls)

variable {Own : ScriptError → Prop}

/-! ## What follows from a stop -/

/-- A property of the error that stopped a run, if one did. -/
def Stop.OnError (P : ScriptError → Prop) : Stop → Prop
  | .finished => True
  | .failed error => P error
  | .failedIn _ error => P error

/-- A property of the errors that a verdict is about. -/
def Verdict.OnError (P : ScriptError → Prop) : Verdict → Prop
  | .settled result => MapScript.OnError P result
  | .narrow _ error => P error

/-- A verdict adds no error to that of the run. -/
theorem Run.verdict_onError {P : ScriptError → Prop} {run : Run} (h : run.stop.OnError P)
    (input : Text) : (run.verdict input).OnError P := by
  obtain ⟨text, stop⟩ := run
  cases stop with
  | finished => exact .ok _
  | failed error =>
    rw [Run.verdict]
    dsimp only
    split
    · exact OnError.ok _
    · exact OnError.error h
  | failedIn span error =>
    rw [Run.verdict]
    dsimp only
    split
    · exact OnError.ok _
    · exact h

/-- Recovery reports the error that it recovers from, or one of the inside. -/
theorem Span.recover_onError {P : ScriptError → Prop} (span : Span) {error : ScriptError}
    (h : P error) {inner : Except ScriptError Rewrite} (hinner : OnError P inner) :
    OnError P (span.recover error inner) := by
  rw [Span.recover.eq_def]
  split
  · split
    · exact .ok _
    · exact .error h
  · exact .error (hinner _ rfl)
  · exact .error h

namespace Rewrite

/-! ## The three ways of rewriting -/

theorem substitute_onError (limit : Nat) (name data : Text) (budget : Nat) (text : Text) :
    OnError OfSubstitution (substitute limit name data budget text) := by
  induction budget generalizing text with
  | zero =>
    rw [substitute]
    split
    · exact .ok _
    · exact .error (.steps name limit text)
  | succ budget ih =>
    rw [substitute]
    split
    · exact .ok _
    · exact ih _

theorem substituteAll_onError (limit : Nat) (vars : List Variable) (text : Text) :
    OnError OfSubstitution (substituteAll limit vars text) := by
  induction vars generalizing text with
  | nil => exact .ok _
  | cons var rest ih =>
    have hvar : OnError OfSubstitution (substitute limit var.name var.dataOrEmpty limit text) :=
      substitute_onError limit var.name var.dataOrEmpty limit text
    rw [substituteAll]
    split
    · exact ih text
    · split
      · exact ih _
      · rename_i error heq
        exact .error (hvar error heq)

theorem substitution_onError (config : Config) (scope : Scope) (input : Text) :
    OnError OfSubstitution (substitution config scope input) :=
  (substituteAll_onError config.maxExpansions scope.toList input).map _

theorem EndsAtSpans.onError {evaluate : Evaluator} {limit : Nat} {run : Run}
    (h : EndsAtSpans evaluate limit run) : run.stop.OnError (OfResolution Own) := by
  cases h with
  | finished => trivial
  | unclosed text => exact .bracket _ _ text
  | limited text => exact .steps limit text
  | refused => exact .expression _ _

theorem mathWithin_onError (evaluate : Evaluator) (config : Config) (levels : Nat) (input : Text) :
    OnError (OfResolution Own) (mathWithin evaluate config levels input) := by
  induction levels generalizing input with
  | zero => exact .error (.depth config.maxDepth)
  | succ levels ih =>
    have hverdict : ((evaluateSpans evaluate config.maxExpansions config.maxExpansions
        input).verdict input).OnError (OfResolution Own) :=
      Run.verdict_onError (evaluateSpans_ends ..).onError input
    rw [mathWithin]
    split
    · rename_i result heq
      rw [heq] at hverdict
      exact hverdict
    · rename_i span error heq
      rw [heq] at hverdict
      exact Span.recover_onError span hverdict (ih span.inside)

section Calls

variable {names : List Text} {limit : Nat} {run : Run}

/-- The error that stops a run over calls is one of calls, and no limit on nesting. -/
theorem EndsAtCalls.onError (h : EndsAtCalls names Own limit run) (config : Config)
    (Deep : Prop) : run.stop.OnError (OfCalls Own config Deep) := by
  cases h with
  | finished => trivial
  | unclosed text => exact .bracket text
  | limited name text => exact .steps name limit text
  | refused hname hfocus hsource => exact .call _ hsource

/-- The call whose inside is tried is a first call of the input. -/
theorem EndsAtCalls.focusCall_of_narrow (h : EndsAtCalls names Own limit run) {input : Text}
    {span : Span} {error : ScriptError} (hverdict : run.verdict input = .narrow span error) :
    ∃ name ∈ names, Span.focusCall input name '(' ')' = .ok span := by
  obtain ⟨rfl, hstop⟩ := Run.of_verdict_narrow hverdict
  cases h with
  | finished | unclosed | limited => cases hstop
  | refused hname hfocus hsource =>
    cases hstop
    exact ⟨_, hname, hfocus⟩

end Calls

variable {m : Type → Type} [Monad m] [LawfulMonad m]

/-- **The errors of calls.** The limit on nesting is one of them only where as many calls as there
are levels left stand inside each other. -/
theorem callsWithin_onError {registry : Registry m} (h : registry.ErrorsIn Own)
    (config : Config) (levels : Nat) (input : Text) :
    SatisfiesM (OnError (OfCalls Own config (Span.NestsCalls registry.names levels input)))
      (callsWithin registry config levels input) := by
  induction levels generalizing input with
  | zero => exact .pure (.error (.depth (.zero input)))
  | succ levels ih =>
    have hends : SatisfiesM (EndsAtCalls registry.names Own config.maxExpansions)
        (invokeAll config.maxExpansions registry.entries input) :=
      invokeAll_ends _ (fun _ hentry => List.mem_map_of_mem hentry) h input
    rw [callsWithin]
    refine hends.bind fun run hrun => ?_
    have hverdict := Run.verdict_onError
      (hrun.onError config (Span.NestsCalls registry.names (levels + 1) input)) input
    split
    · rename_i result heq
      rw [heq] at hverdict
      exact .pure hverdict
    -- the levels that are left inside a call are one level less than those around it
    · rename_i span error heq
      rw [heq] at hverdict
      obtain ⟨name, hname, hfocus⟩ := hrun.focusCall_of_narrow heq
      refine (ih span.inside).bind fun inner hinner => .pure ?_
      exact Span.recover_onError span hverdict
        (hinner.imp fun _ => OfCalls.imp (.succ hname hfocus))

end Rewrite

namespace Resolver

/-! ## Passes -/

/-- A property of the error that is pending, if one is. -/
def Progress.OnError (P : ScriptError → Prop) (progress : Progress) : Prop :=
  ∀ error ∈ progress.pending, P error

/-- Taking up a result leaves its error pending or the one from before. -/
theorem Progress.apply_onError {P : ScriptError → Prop} {progress : Progress}
    (h : progress.OnError P) {step : Except ScriptError Rewrite}
    (hstep : MapScript.OnError P step) :
    (progress.apply step).OnError P := by
  intro error hpending
  cases step with
  | ok rewrite =>
    rw [Progress.apply] at hpending
    split at hpending
    · cases hpending
    · exact h error hpending
  | error error' =>
    obtain rfl : error' = error := Option.some.inj hpending
    exact hstep error' rfl

variable {m : Type → Type} [Monad m] [LawfulMonad m] {resolver : Resolver m}

theorem pass_onError (h : resolver.registry.ErrorsIn Own) (scope : Scope)
    {progress : Progress} (hprogress : progress.OnError (OfResolution Own)) :
    SatisfiesM (Progress.OnError (OfResolution Own)) (resolver.pass scope progress) := by
  rw [pass]
  refine (Rewrite.callsWithin_onError h resolver.config _ _).bind fun step hstep => .pure ?_
  have hcalls : OnError (OfResolution Own) step := hstep.imp fun _ => OfCalls.ofResolution
  refine Progress.apply_onError (Progress.apply_onError ?_ ?_) hcalls
  · exact Progress.apply_onError hprogress
      ((Rewrite.substitution_onError _ _ _).imp fun _ => OfSubstitution.ofResolution)
  · exact Rewrite.mathWithin_onError _ _ _ _

theorem passes_onError (h : resolver.registry.ErrorsIn Own) (scope : Scope) (lenient : Bool)
    (remaining : Nat) {progress : Progress} (hprogress : progress.OnError (OfResolution Own)) :
    SatisfiesM (OnError (OfResolution Own))
      (resolver.passes scope lenient remaining progress) := by
  induction remaining generalizing progress with
  | zero => exact .pure (.error (.steps _ _))
  | succ remaining ih =>
    rw [passes]
    refine (pass_onError h scope hprogress).bind fun next hnext => ?_
    split
    · refine .pure ?_
      rw [Progress.result]
      split
      · rename_i error hpending
        split
        · exact .ok _
        · exact .error (hnext error hpending)
      · exact .ok _
    · exact ih hnext

/-- **The resolution of a text has no errors but these.** -/
theorem resolve_onError (h : resolver.registry.ErrorsIn Own) (scope : Scope) (input : Text) :
    SatisfiesM (OnError (OfResolution Own)) (resolver.resolve scope input) := by
  have hstart : Progress.OnError (OfResolution Own) ⟨input, none⟩ := by
    intro error hpending
    cases hpending
  exact passes_onError h scope _ _ hstart

end Resolver

end MapScript
