/-
What each of the three ways of rewriting makes of a text.

For expressions and calls the argument is the same. A run replaces one span after the other
and ends with the text it has reached; what follows from a run is a result that keeps this
text, or the inside of the span that stopped it. So whatever holds of a text and itself, is
carried back over one replacement and goes from the inside of a span to the whole, holds of
the input and the output (`math_induction`, `calls_induction`).

The flag of a result says exactly whether the output differs (`Rewrite.changed_exact`): partial
progress is told by comparing, and a new inside makes a new text. This does not depend on what
the functions do, so it is shown of functions that may draw numbers.
-/
import MapScript.Rewrite.Substitution
import MapScript.Rewrite.Math
import MapScript.Rewrite.Calls
import MapScript.Proofs.Brackets

set_option autoImplicit false

namespace MapScript

/-! ## Results

An error may hold a double, so two results are not compared as such but by the value that there
is or is not. -/

/-- A result with a value. -/
theorem eq_ok_of_toOption {ε α : Type} {result : Except ε α} {value : α}
    (h : result.toOption = some value) : result = .ok value := by
  cases result with
  | error error => cases h
  | ok value' => exact congrArg Except.ok (Option.some.inj h)

/-- A result that has some value. -/
theorem exists_ok_of_isOk {ε α : Type} {result : Except ε α} (h : result.isOk = true) :
    ∃ value, result = .ok value := by
  cases result with
  | error error => cases h
  | ok value => exact ⟨value, rfl⟩

/-- A result without a value. -/
theorem exists_error_of_toOption {ε α : Type} {result : Except ε α}
    (h : result.toOption = none) : ∃ error, result = .error error := by
  cases result with
  | error error => exact ⟨error, rfl⟩
  | ok value => cases h

/-! ## Errors of results -/

/-- A property of the error of a result, if it is one. -/
def OnError {α : Type} (P : ScriptError → Prop) (result : Except ScriptError α) : Prop :=
  ∀ error, result = .error error → P error

namespace OnError

variable {α β : Type} {P Q : ScriptError → Prop} {result : Except ScriptError α}

theorem ok (value : α) : OnError P (.ok value) := by
  intro error h
  cases h

theorem error {error : ScriptError} (h : P error) : OnError P (.error error : Except _ α) := by
  intro error' heq
  cases heq
  exact h

theorem imp (hP : ∀ error, P error → Q error) (h : OnError P result) : OnError Q result :=
  fun error heq => hP error (h error heq)

/-- Nothing is asked of the error. -/
theorem any {m : Type → Type} [Monad m] [LawfulMonad m] (action : m (Except ScriptError α)) :
    SatisfiesM (OnError fun _ => True) action :=
  SatisfiesM.trivial.imp fun _ _ _ => True.intro

/-- Changing the value of a success changes no error. -/
theorem map (f : α → β) (h : OnError P result) : OnError P (result.map f) := by
  cases result with
  | ok value => exact ok _
  | error error' => exact error (h error' rfl)

end OnError

/-- A success that has been changed was one before. -/
theorem exists_of_map_eq_ok {α β : Type} {f : α → β} {result : Except ScriptError α} {changed : β}
    (h : result.map f = .ok changed) : ∃ value, result = .ok value ∧ f value = changed := by
  cases result with
  | error error => cases h
  | ok value => exact ⟨value, rfl, Except.ok.inj h⟩

/-- An error is what it was before. -/
theorem map_eq_error_iff {α β : Type} {f : α → β} {result : Except ScriptError α}
    {error : ScriptError} : result.map f = .error error ↔ result = .error error := by
  cases result with
  | error cause => exact ⟨fun h => congrArg Except.error (Except.error.inj h),
      fun h => congrArg Except.error (Except.error.inj h)⟩
  | ok value => exact ⟨nofun, nofun⟩

/-! ## What follows from a run -/

/-- At depth zero there is one level more than the greatest depth. -/
theorem Config.levelsAt_zero (config : Config) : config.levelsAt 0 = config.maxDepth + 1 := rfl

section Verdict

variable (text : Text) (span : Span) (error : ScriptError)

/-- A run that has replaced nothing leaves the text as it is, or gives the error that stopped
it. -/
theorem Run.verdict_finished :
    Run.verdict text ⟨text, .finished⟩ = .settled (.ok ⟨false, text⟩) := by
  simp [Run.verdict, Rewrite.compare]

theorem Run.verdict_failed :
    Run.verdict text ⟨text, .failed error⟩ = .settled (.error error) := by
  simp [Run.verdict]

/-- If that is an error of a span, the inside of the span is to be tried. -/
theorem Run.verdict_failedIn :
    Run.verdict text ⟨text, .failedIn span error⟩ = .narrow span error := by
  simp [Run.verdict]

end Verdict

/-- **A result without an error has the text that the run reached.** Only a run that came
to its end can leave the flag down. -/
theorem Run.of_verdict_settled_ok {input : Text} {run : Run} {rewrite : Rewrite}
    (h : run.verdict input = .settled (.ok rewrite)) :
    rewrite.output = run.text ∧ (rewrite.changed = true ↔ rewrite.output ≠ input) ∧
      (rewrite.changed = false → run.stop = .finished) := by
  obtain ⟨text, stop⟩ := run
  -- a run that was stopped settles without an error only where it has made a difference
  cases stop with
  | finished =>
    simp only [Run.verdict, Verdict.settled.injEq, Except.ok.injEq] at h
    subst h
    refine ⟨rfl, ?_, fun _ => rfl⟩
    simp only [Rewrite.compare, decide_eq_true_eq]
    exact ne_comm
  | failed error =>
    simp only [Run.verdict] at h
    split at h
    · rename_i hne
      simp only [Verdict.settled.injEq, Except.ok.injEq] at h
      subst h
      exact ⟨rfl, by simpa using hne, by simp⟩
    · simp at h
  | failedIn span error =>
    simp only [Run.verdict] at h
    split at h
    · rename_i hne
      simp only [Verdict.settled.injEq, Except.ok.injEq] at h
      subst h
      exact ⟨rfl, by simpa using hne, by simp⟩
    · simp at h

/-- **A result with an error is that of a run that has replaced nothing.** -/
theorem Run.of_verdict_settled_error {input : Text} {run : Run} {error : ScriptError}
    (h : run.verdict input = .settled (.error error)) :
    run.text = input ∧ run.stop = .failed error := by
  obtain ⟨text, stop⟩ := run
  cases stop with
  | finished => simp [Run.verdict] at h
  | failed cause =>
    simp only [Run.verdict] at h
    split at h
    · simp at h
    · rename_i hsame
      simp only [Verdict.settled.injEq, Except.error.injEq] at h
      exact ⟨by simpa using hsame, by rw [h]⟩
  | failedIn span cause =>
    simp only [Run.verdict] at h
    split at h <;> simp at h

/-- **The inside of a span is tried only where nothing has been replaced.** -/
theorem Run.of_verdict_narrow {input : Text} {run : Run} {span : Span} {error : ScriptError}
    (h : run.verdict input = .narrow span error) :
    run.text = input ∧ run.stop = .failedIn span error := by
  obtain ⟨text, stop⟩ := run
  cases stop with
  | finished => simp [Run.verdict] at h
  | failed error =>
    simp only [Run.verdict] at h
    split at h <;> simp at h
  | failedIn span error =>
    simp only [Run.verdict] at h
    split at h
    · simp at h
    · rename_i hne
      simp only [Verdict.narrow.injEq] at h
      exact ⟨by simpa using hne, by rw [h.1, h.2]⟩

/-- A run that has changed the text is kept, however it ended. -/
theorem Run.verdict_of_ne {input : Text} {run : Run} (h : run.text ≠ input) :
    run.verdict input = .settled (.ok ⟨true, run.text⟩) := by
  obtain ⟨text, stop⟩ := run
  cases stop with
  | finished => simp [Run.verdict, Rewrite.compare, Ne.symm h]
  | failed error => exact if_pos h
  | failedIn span error => exact if_pos h

/-- **What is recovered from a span is a change of its inside.** -/
theorem Span.of_recover_eq_ok {span : Span} {error : ScriptError}
    {inner : Except ScriptError Rewrite} {rewrite : Rewrite}
    (h : span.recover error inner = .ok rewrite) :
    ∃ output, inner = .ok ⟨true, output⟩ ∧ rewrite = ⟨true, span.rewrap output⟩ := by
  match inner with
  | .ok ⟨true, output⟩ => exact ⟨output, rfl, (Except.ok.inj h).symm⟩
  | .ok ⟨false, output⟩ => simp [Span.recover] at h
  | .error cause => cases cause <;> simp [Span.recover] at h

/-- **Where nothing is recovered the error is that of the span,** or the limit on nesting. -/
theorem Span.of_recover_eq_error {span : Span} {error result : ScriptError}
    {inner : Except ScriptError Rewrite} (h : span.recover error inner = .error result) :
    result = error ∨ ∃ depth, inner = .error (.recursionLimit depth) ∧
      result = .recursionLimit depth := by
  match inner with
  | .ok ⟨true, output⟩ => simp [Span.recover] at h
  | .ok ⟨false, output⟩ => exact .inl (Except.error.inj h).symm
  | .error cause =>
    cases cause with
    | recursionLimit depth => exact .inr ⟨depth, rfl, (Except.error.inj h).symm⟩
    | _ => exact .inl (Except.error.inj h).symm

namespace Rewrite

/-! ## Flags -/

/-- **A result whose flag is exact:** if it is no error, the flag is up if and only if the output
differs from the input. -/
def Exact (input : Text) (result : Except ScriptError Rewrite) : Prop :=
  ∀ rewrite, result = .ok rewrite → (rewrite.changed = true ↔ rewrite.output ≠ input)

/-- **What is recovered from a span has an exact flag if the inside has one.** The flag is up
without a comparison, and a new inside makes a new text. -/
theorem Exact.recover {input : Text} {span : Span} {inner : Except ScriptError Rewrite}
    (hwhole : span.rewrap span.inside = input) (hinner : Exact span.inside inner)
    (error : ScriptError) : Exact input (span.recover error inner) := by
  intro rewrite h
  obtain ⟨output, rfl, rfl⟩ := Span.of_recover_eq_ok h
  have hne : output ≠ span.inside := (hinner _ rfl).1 rfl
  exact ⟨fun _ => span.rewrap_ne hwhole hne, fun _ => rfl⟩

/-- An exact flag that is down says that the output is the input. -/
theorem output_eq_of_exact {input : Text} {rewrite : Rewrite}
    (hexact : rewrite.changed = true ↔ rewrite.output ≠ input)
    (hflag : rewrite.changed = false) : rewrite.output = input := by
  by_contra hne
  rw [hexact.2 hne] at hflag
  cases hflag

/-! ## Substitution -/

/-- **A variable that has been substituted occurs no more,** and whatever is carried back
over the replacement of one occurrence holds of the text and what becomes of it. -/
theorem substitute_induction {limit : Nat} {name data : Text} {P : Text → Text → Prop}
    (refl : ∀ text, P text text)
    (replace : ∀ {before after out : Text},
      P (before ++ data ++ after) out → P (before ++ name ++ after) out)
    {budget : Nat} {text out : Text} (h : substitute limit name data budget text = .ok out) :
    P text out ∧ ¬ name <:+: out := by
  induction budget generalizing text with
  | zero =>
    rw [substitute] at h
    split at h
    · rename_i hfind
      obtain rfl := Except.ok.inj h
      exact ⟨refl text, Text.find?_eq_none_iff.1 hfind⟩
    · cases h
  | succ budget ih =>
    rw [substitute] at h
    split at h
    · rename_i hfind
      obtain rfl := Except.ok.inj h
      exact ⟨refl text, Text.find?_eq_none_iff.1 hfind⟩
    · rename_i occurrence hfind
      obtain ⟨hout, habsent⟩ := ih h
      rw [Text.eq_append_of_find? hfind]
      exact ⟨replace hout, habsent⟩

/-- A name that does not occur leaves the text as it is. -/
theorem substitute_of_not_infix {limit budget : Nat} {name data text : Text}
    (h : ¬ name <:+: text) : substitute limit name data budget text = .ok text := by
  have hfind := Text.find?_eq_none_iff.2 h
  cases budget <;> rw [substitute, hfind]

/-- Variables are substituted in the order of the list. -/
theorem substituteAll_append (limit : Nat) (left right : List Variable) (text : Text) :
    substituteAll limit (left ++ right) text =
      (substituteAll limit left text).bind (substituteAll limit right) := by
  induction left generalizing text with
  | nil => rfl
  | cons var left ih =>
    rw [List.cons_append, substituteAll, substituteAll]
    split
    · exact ih text
    · split
      · exact ih _
      · rfl

/-- A substitution without an error has the text after the last variable, and says whether
that differs from the input. -/
theorem of_substitution_eq_ok {config : Config} {scope : Scope} {input : Text}
    {rewrite : Rewrite} (h : substitution config scope input = .ok rewrite) :
    substituteAll config.maxExpansions scope.toList input = .ok rewrite.output ∧
      (rewrite.changed = true ↔ rewrite.output ≠ input) := by
  rw [substitution] at h
  cases hall : substituteAll config.maxExpansions scope.toList input with
  | error error => rw [hall] at h; cases h
  | ok output =>
    rw [hall] at h
    obtain rfl := Except.ok.inj h
    refine ⟨rfl, ?_⟩
    simp only [compare, decide_eq_true_eq]
    exact ne_comm

/-! ## Expressions -/

section Math

variable {evaluate : Evaluator} {config : Config}

/-- A text without spans is left as it is. -/
theorem evaluateSpans_of_none {text : Text} (h : Span.hasUnescaped '\x7b' text = false)
    (limit budget : Nat) : evaluateSpans evaluate limit budget text = ⟨text, .finished⟩ := by
  cases budget <;> rw [evaluateSpans, if_neg (by simp [h])]

/-- A first span that has a value is replaced by it, and the run goes on. -/
theorem evaluateSpans_of_value {text value : Text} {span : Span}
    (hfocus : Span.focusFirst text '\x7b' '\x7d' = .ok span)
    (hvalue : evaluate span.inside = .ok value) (limit budget : Nat) :
    evaluateSpans evaluate limit (budget + 1) text =
      evaluateSpans evaluate limit budget (span.splice value) := by
  rw [evaluateSpans, if_pos (Span.hasUnescaped_of_focusFirst hfocus), hfocus]
  simp only [hvalue]

/-- A first span without a value stops the run at once. -/
theorem evaluateSpans_of_refused {text : Text} {span : Span} {cause : Expr.Error}
    (hfocus : Span.focusFirst text '\x7b' '\x7d' = .ok span)
    (hcause : evaluate span.inside = .error cause) (limit budget : Nat) :
    evaluateSpans evaluate limit (budget + 1) text =
      ⟨text, .failedIn span (.malformedExpression span.inside cause)⟩ := by
  rw [evaluateSpans, if_pos (Span.hasUnescaped_of_focusFirst hfocus), hfocus]
  simp only [hcause]

/-- **How a run over the spans of a text ends:** at a text without spans, at one whose brackets do
not pair up, at the limit on replacements, or at a first span whose expression has no value. -/
inductive EndsAtSpans (evaluate : Evaluator) (limit : Nat) : Run → Prop where
  | finished {text : Text} (hnone : Span.hasUnescaped '\x7b' text = false) :
    EndsAtSpans evaluate limit ⟨text, .finished⟩
  | unclosed (text : Text) :
    EndsAtSpans evaluate limit ⟨text, .failed (.malformedBracket '\x7b' '\x7d' text)⟩
  | limited (text : Text) : EndsAtSpans evaluate limit ⟨text, .failed (.didNotConverge limit text)⟩
  | refused {text : Text} {span : Span} {cause : Expr.Error}
      (hfocus : Span.focusFirst text '\x7b' '\x7d' = .ok span)
      (hcause : evaluate span.inside = .error cause) :
    EndsAtSpans evaluate limit ⟨text, .failedIn span (.malformedExpression span.inside cause)⟩

theorem evaluateSpans_ends (evaluate : Evaluator) (limit budget : Nat) (text : Text) :
    EndsAtSpans evaluate limit (evaluateSpans evaluate limit budget text) := by
  induction budget generalizing text with
  | zero =>
    rw [evaluateSpans]
    split
    · exact .limited text
    · rename_i hnone
      exact .finished (by simpa using hnone)
  | succ budget ih =>
    rw [evaluateSpans]
    split
    · split
      · rename_i error hfocus
        rw [Span.eq_of_focusFirst_eq_error hfocus]
        exact .unclosed text
      · rename_i span hfocus
        split
        · exact ih _
        · rename_i cause hcause
          exact .refused hfocus hcause
    · rename_i hnone
      exact .finished (by simpa using hnone)

/-- A run that has nothing left to evaluate ends at a text without spans. -/
theorem hasUnescaped_of_evaluateSpans {limit budget : Nat} {text : Text}
    (h : (evaluateSpans evaluate limit budget text).stop = .finished) :
    Span.hasUnescaped '\x7b' (evaluateSpans evaluate limit budget text).text = false := by
  have hends := evaluateSpans_ends evaluate limit budget text
  generalize evaluateSpans evaluate limit budget text = run at h hends
  cases hends with
  | finished hnone => exact hnone
  | unclosed | limited | refused => cases h

/-- A span that stops a run is the first one of the text reached, and its expression has no
value. -/
theorem of_evaluateSpans_failedIn {limit budget : Nat} {text : Text} {span : Span}
    {error : ScriptError}
    (h : (evaluateSpans evaluate limit budget text).stop = .failedIn span error) :
    Span.focusFirst (evaluateSpans evaluate limit budget text).text '\x7b' '\x7d' = .ok span ∧
      ∃ cause, evaluate span.inside = .error cause ∧
        error = .malformedExpression span.inside cause := by
  have hends := evaluateSpans_ends evaluate limit budget text
  generalize evaluateSpans evaluate limit budget text = run at h hends
  cases hends with
  | finished | unclosed | limited => cases h
  | refused hfocus hcause =>
    cases h
    exact ⟨hfocus, _, hcause, rfl⟩

/-- What is carried back over the evaluation of a first span holds of the text and the text
that the run reaches. -/
theorem evaluateSpans_induction {P : Text → Text → Prop}
    (refl : ∀ text, P text text)
    (value : ∀ {text : Text} {span : Span} {value out : Text},
      Span.focusFirst text '\x7b' '\x7d' = .ok span → evaluate span.inside = .ok value →
      P (span.splice value) out → P text out)
    (limit budget : Nat) (text : Text) :
    P text (evaluateSpans evaluate limit budget text).text := by
  induction budget generalizing text with
  | zero =>
    rw [evaluateSpans]
    split <;> exact refl text
  | succ budget ih =>
    rw [evaluateSpans]
    split
    · split
      · exact refl text
      · rename_i span hfocus
        split
        · rename_i result hvalue
          exact value hfocus hvalue (ih _)
        · exact refl text
    · exact refl text

/-- **What one level of evaluation can give without an error:** the text that the run over
the spans reached, or, where the first span stops it at once, that span around a new
inside. -/
theorem mathWithin_cases {levels : Nat} {input : Text} {rewrite : Rewrite}
    (h : mathWithin evaluate config (levels + 1) input = .ok rewrite) :
    (evaluateSpans evaluate config.maxExpansions config.maxExpansions input).verdict input =
        .settled (.ok rewrite) ∨
      ∃ span output, Span.focusFirst input '\x7b' '\x7d' = .ok span ∧
        mathWithin evaluate config levels span.inside = .ok ⟨true, output⟩ ∧
        rewrite = ⟨true, span.rewrap output⟩ := by
  rw [mathWithin] at h
  split at h
  · rename_i result hverdict
    rw [hverdict, h]
    exact .inl rfl
  -- nothing has been replaced, so the span that stops the run is the first one of the input
  · rename_i span error hverdict
    obtain ⟨htext, hstop⟩ := Run.of_verdict_narrow hverdict
    obtain ⟨hfocus, -⟩ := of_evaluateSpans_failedIn hstop
    rw [htext] at hfocus
    obtain ⟨output, hinner, hrewrite⟩ := Span.of_recover_eq_ok h
    exact .inr ⟨span, output, hfocus, hinner, hrewrite⟩

/-- **A run that changes the text is what comes out,** however it ended. -/
theorem mathWithin_of_ne {input : Text}
    (h : (evaluateSpans evaluate config.maxExpansions config.maxExpansions input).text ≠ input)
    (levels : Nat) :
    mathWithin evaluate config (levels + 1) input =
      .ok ⟨true, (evaluateSpans evaluate config.maxExpansions config.maxExpansions
        input).text⟩ := by
  rw [mathWithin, Run.verdict_of_ne h]

/-- **A text whose first span is refused** is what is recovered from the inside of that span. -/
theorem mathWithin_of_refused (hexpansions : 1 ≤ config.maxExpansions) {input : Text}
    {span : Span} {cause : Expr.Error}
    (hfocus : Span.focusFirst input '\x7b' '\x7d' = .ok span)
    (hcause : evaluate span.inside = .error cause) (levels : Nat) :
    mathWithin evaluate config (levels + 1) input =
      span.recover (.malformedExpression span.inside cause)
        (mathWithin evaluate config levels span.inside) := by
  obtain ⟨budget, hbudget⟩ := Nat.exists_eq_add_of_le' hexpansions
  rw [mathWithin, hbudget, evaluateSpans_of_refused hfocus hcause, Run.verdict_failedIn]

/-- **Induction over the evaluation of expressions,** from the inside of a span to the
whole, and back over the evaluation of a first span. -/
theorem math_induction {P : Text → Text → Prop} (refl : ∀ text, P text text)
    (value : ∀ {text : Text} {span : Span} {value out : Text},
      Span.focusFirst text '\x7b' '\x7d' = .ok span → evaluate span.inside = .ok value →
      P (span.splice value) out → P text out)
    (inside : ∀ {text : Text} {span : Span} {inner : Text},
      Span.focusFirst text '\x7b' '\x7d' = .ok span → P span.inside inner →
      P text (span.rewrap inner))
    {depth : Nat} {input : Text} {rewrite : Rewrite}
    (h : math evaluate config depth input = .ok rewrite) : P input rewrite.output := by
  rw [math] at h
  generalize config.levelsAt depth = levels at h
  induction levels generalizing input rewrite with
  | zero => cases h
  | succ levels ih =>
    rcases mathWithin_cases h with hverdict | ⟨span, output, hfocus, hinner, rfl⟩
    · rw [(Run.of_verdict_settled_ok hverdict).1]
      exact evaluateSpans_induction refl value config.maxExpansions config.maxExpansions input
    · have hinside := ih hinner
      exact inside hfocus hinside

/-- **The flag is exact:** it says whether the output differs from the input. -/
theorem changed_iff_of_math {depth : Nat} {input : Text} {rewrite : Rewrite}
    (h : math evaluate config depth input = .ok rewrite) :
    rewrite.changed = true ↔ rewrite.output ≠ input := by
  rw [math] at h
  generalize config.levelsAt depth = levels at h
  induction levels generalizing input rewrite with
  | zero => cases h
  | succ levels ih =>
    rcases mathWithin_cases h with hverdict | ⟨span, output, hfocus, hinner, rfl⟩
    · exact (Run.of_verdict_settled_ok hverdict).2.1
    -- the flag is up here, and the induction makes the inside a new one
    · have hne : output ≠ span.inside := (ih hinner).1 rfl
      obtain ⟨hwhole, -⟩ := Span.rewrap_inside_of_focusFirst (by decide) hfocus
      exact ⟨fun _ => span.rewrap_ne hwhole hne, fun _ => rfl⟩

/-- **Where the flag is down there is no expression left.** -/
theorem hasUnescaped_of_math {depth : Nat} {input output : Text}
    (h : math evaluate config depth input = .ok ⟨false, output⟩) :
    Span.hasUnescaped '\x7b' input = false := by
  have houtput : output = input := output_eq_of_exact (changed_iff_of_math h) rfl
  rw [math] at h
  cases hlevels : config.levelsAt depth with
  | zero => rw [hlevels] at h; cases h
  | succ levels =>
    rw [hlevels] at h
    rcases mathWithin_cases h with hverdict | ⟨span, inner, -, -, hrewrite⟩
    · obtain ⟨htext, -, hfinished⟩ := Run.of_verdict_settled_ok hverdict
      have hnone := hasUnescaped_of_evaluateSpans (hfinished rfl)
      rwa [← htext, houtput] at hnone
    · cases hrewrite

end Math

/-! ## Calls -/

section Drawing

variable {m : Type → Type} [Monad m]

/-- A text without calls of a function is left as it is. -/
theorem invoke_of_none {name text : Text} (h : Span.findCall? text name '(' = none)
    (function : Function m) (limit budget : Nat) :
    invoke limit name function budget text = pure ⟨text, .finished⟩ := by
  cases budget <;> rw [invoke, if_neg (by simp [h])]

variable [LawfulMonad m]

/-- A first call that has a result is replaced by it, and the run goes on. -/
theorem invoke_of_result {name text output : Text} {function : Function m} {span : Span}
    (hfocus : Span.focusCall text name '(' ')' = .ok span)
    (hresult : function ⟨name, span.inside⟩ = pure (.ok output)) (limit budget : Nat) :
    invoke limit name function (budget + 1) text =
      invoke limit name function budget (span.splice output) := by
  rw [invoke, if_pos (Span.isSome_findCall?_of_focusCall hfocus), hfocus]
  simp only [hresult, pure_bind]

/-- A first call that is refused stops the run at once. -/
theorem invoke_of_refused {name text : Text} {function : Function m} {span : Span}
    {source : ScriptError} (hfocus : Span.focusCall text name '(' ')' = .ok span)
    (hrefused : function ⟨name, span.inside⟩ = pure (.error source)) (limit budget : Nat) :
    invoke limit name function (budget + 1) text =
      pure ⟨text, .failedIn span (.functionExecution name source)⟩ := by
  rw [invoke, if_pos (Span.isSome_findCall?_of_focusCall hfocus), hfocus]
  simp only [hrefused, pure_bind]

/-- Of one function only its own calls are made. -/
theorem invokeAll_singleton (limit : Nat) (name : Text) (function : Function m) (text : Text) :
    invokeAll limit [(name, function)] text = invoke limit name function limit text := by
  rw [invokeAll, ← bind_pure (invoke limit name function limit text), bind_assoc]
  refine bind_congr fun run => ?_
  obtain ⟨reached, stop⟩ := run
  rw [pure_bind]
  cases stop with
  | finished => rfl
  | failed error => rfl
  | failedIn span error => rfl

/-- **How a run over calls ends** where the errors of the functions have the property `Own`: with
nothing left to call, at parentheses that do not pair up, at the limit on replacements, or at a
first call of one of the names that is refused. -/
inductive EndsAtCalls (names : List Text) (Own : ScriptError → Prop) (limit : Nat) :
    Run → Prop where
  | finished (text : Text) : EndsAtCalls names Own limit ⟨text, .finished⟩
  | unclosed (text : Text) :
    EndsAtCalls names Own limit ⟨text, .failed (.malformedBracket '(' ')' text)⟩
  | limited (name text : Text) :
    EndsAtCalls names Own limit
      ⟨text, .failed (.functionExecution name (.didNotConverge limit text))⟩
  | refused {name text : Text} {span : Span} {source : ScriptError} (hname : name ∈ names)
      (hfocus : Span.focusCall text name '(' ')' = .ok span) (hsource : Own source) :
    EndsAtCalls names Own limit ⟨text, .failedIn span (.functionExecution name source)⟩

/-- So ends a run over the calls of one function, whatever the function draws. -/
theorem invoke_ends {names : List Text} {Own : ScriptError → Prop} (limit : Nat) {name : Text}
    (hname : name ∈ names) {function : Function m}
    (h : ∀ arguments, SatisfiesM (OnError Own) (function arguments)) (budget : Nat)
    (text : Text) :
    SatisfiesM (EndsAtCalls names Own limit) (invoke limit name function budget text) := by
  induction budget generalizing text with
  | zero =>
    rw [invoke]
    split
    · exact .pure (.limited name text)
    · exact .pure (.finished text)
  | succ budget ih =>
    rw [invoke]
    split
    · split
      · rename_i error hfocus
        rw [Span.eq_of_focusCall_eq_error hfocus]
        exact .pure (.unclosed text)
      · rename_i span hfocus
        refine (h _).bind fun result hresult => ?_
        cases result with
        | ok output => exact ih _
        | error source => exact .pure (.refused hname hfocus (hresult source rfl))
    · exact .pure (.finished text)

/-- So does a run over the calls of several functions. -/
theorem invokeAll_ends {names : List Text} {Own : ScriptError → Prop} (limit : Nat)
    {entries : List (Text × Function m)} (hnames : ∀ entry ∈ entries, entry.1 ∈ names)
    (h : ∀ entry ∈ entries, ∀ arguments, SatisfiesM (OnError Own) (entry.2 arguments))
    (text : Text) :
    SatisfiesM (EndsAtCalls names Own limit) (invokeAll limit entries text) := by
  induction entries generalizing text with
  | nil => exact .pure (.finished text)
  | cons entry rest ih =>
    obtain ⟨hname, hrestNames⟩ := List.forall_mem_cons.1 hnames
    obtain ⟨hentry, hrest⟩ := List.forall_mem_cons.1 h
    rw [invokeAll]
    refine (invoke_ends limit hname hentry limit text).bind fun run hrun => ?_
    split
    · exact ih hrestNames hrest run.text
    · exact .pure hrun

/-- A span that stops a run over calls is the first call of some name in the text reached. -/
def StopsAtCall (run : Run) : Prop :=
  ∀ span error, run.stop = .failedIn span error →
    ∃ name, Span.focusCall run.text name '(' ')' = .ok span

theorem invokeAll_stopsAtCall (limit : Nat) (entries : List (Text × Function m)) (text : Text) :
    SatisfiesM StopsAtCall (invokeAll limit entries text) := by
  have hends : SatisfiesM (EndsAtCalls (entries.map (·.1)) (fun _ => True) limit)
      (invokeAll limit entries text) :=
    invokeAll_ends limit (fun _ hentry => List.mem_map_of_mem hentry) (fun _ _ _ => OnError.any _) text
  refine hends.imp fun hrun span error hstop => ?_
  cases hrun with
  | finished | unclosed | limited => cases hstop
  | refused hname hfocus hsource =>
    cases hstop
    exact ⟨_, hfocus⟩

/-- **The flag is exact at each level of nesting,** by induction over the levels that are
left. -/
theorem callsWithin_exact (registry : Registry m) (config : Config) (levels : Nat)
    (input : Text) : SatisfiesM (Exact input) (callsWithin registry config levels input) := by
  induction levels generalizing input with
  | zero => exact .pure nofun
  | succ levels ih =>
    rw [callsWithin]
    refine (invokeAll_stopsAtCall config.maxExpansions registry.entries input).bind
      fun run hrun => ?_
    split
    · rename_i result hverdict
      refine .pure ?_
      intro rewrite heq
      rw [heq] at hverdict
      exact (Run.of_verdict_settled_ok hverdict).2.1
    -- nothing has been replaced, so the call that stops the run is one of the input
    · rename_i span error hverdict
      obtain ⟨htext, hstop⟩ := Run.of_verdict_narrow hverdict
      obtain ⟨name, hfocus⟩ := hrun span error hstop
      rw [htext] at hfocus
      obtain ⟨hwhole, -⟩ := Span.rewrap_inside_of_focusCall hfocus
      exact (ih span.inside).bind fun inner hinner => .pure (hinner.recover hwhole error)

end Drawing

section Calls

variable {registry : Registry Id} {config : Config}

/-- A run over the calls of one function that comes to its end leaves no call of it. -/
theorem invoke_stop (limit : Nat) (name : Text) (function : Function Id) (budget : Nat)
    (text : Text) : (invoke limit name function budget text).run.stop = .finished →
      Span.findCall? (invoke limit name function budget text).run.text name '(' = none := by
  induction budget generalizing text with
  | zero =>
    rw [invoke]
    split
    · simp
    · rename_i hnone
      simpa using hnone
  | succ budget ih =>
    rw [invoke]
    split
    · split
      · simp
      · rw [Id.run_bind]
        split
        · exact ih _
        · simp
    · rename_i hnone
      simpa using hnone

/-- What is carried back over one call of a function holds of the text and the text that
the run over its calls reaches. -/
theorem invoke_induction {limit : Nat} {name : Text} {function : Function Id}
    {P : Text → Text → Prop} (refl : ∀ text, P text text)
    (result : ∀ {text : Text} {span : Span} {output out : Text},
      Span.focusCall text name '(' ')' = .ok span →
      (function ⟨name, span.inside⟩).run = .ok output →
      P (span.splice output) out → P text out)
    (budget : Nat) (text : Text) :
    P text (invoke limit name function budget text).run.text := by
  induction budget generalizing text with
  | zero =>
    rw [invoke]
    split <;> exact refl text
  | succ budget ih =>
    rw [invoke]
    split
    · split
      · exact refl text
      · rename_i span hfocus
        rw [Id.run_bind]
        split
        · rename_i output houtput
          exact result hfocus houtput (ih _)
        · exact refl text
    · exact refl text

/-- The calls of the first function are made before those of the others. -/
theorem invokeAll_cons (limit : Nat) (name : Text) (function : Function Id)
    (rest : List (Text × Function Id)) (text : Text) :
    ((invoke limit name function limit text).run.stop = .finished ∧
      invokeAll limit ((name, function) :: rest) text =
        invokeAll limit rest (invoke limit name function limit text).run.text) ∨
    ((invoke limit name function limit text).run.stop ≠ .finished ∧
      (invokeAll limit ((name, function) :: rest) text).run =
        (invoke limit name function limit text).run) := by
  rw [invokeAll]
  cases hstop : (invoke limit name function limit text).run.stop with
  | finished =>
    refine .inl ⟨rfl, ?_⟩
    rw [Id.run] at hstop
    simp only [bind, Id.run, hstop]
  | failed error =>
    refine .inr ⟨by simp, ?_⟩
    rw [Id.run_bind, hstop]
    rfl
  | failedIn span error =>
    refine .inr ⟨by simp, ?_⟩
    rw [Id.run_bind, hstop]
    rfl

/-- What is carried back over one call of any of the functions holds of the text and the
text that the run over all calls reaches. -/
theorem invokeAll_induction {entries : List (Text × Function Id)}
    {P : Text → Text → Prop} (refl : ∀ text, P text text)
    (trans : ∀ {text mid out : Text}, P text mid → P mid out → P text out)
    (result : ∀ {name : Text} {function : Function Id} {text : Text} {span : Span}
      {output : Text}, (name, function) ∈ entries →
      Span.focusCall text name '(' ')' = .ok span →
      (function ⟨name, span.inside⟩).run = .ok output → P text (span.splice output))
    (limit : Nat) (text : Text) : P text (invokeAll limit entries text).run.text := by
  induction entries generalizing text with
  | nil => exact refl text
  | cons entry rest ih =>
    obtain ⟨name, function⟩ := entry
    -- the first function by the induction over its calls, the others by `ih`
    have hfirst : P text (invoke limit name function limit text).run.text :=
      invoke_induction refl
        (fun hfocus houtput hout =>
          trans (result List.mem_cons_self hfocus houtput) hout)
        limit text
    have hrest := ih (fun hentry => result (List.mem_cons_of_mem _ hentry))
      (invoke limit name function limit text).run.text
    rcases invokeAll_cons limit name function rest text with ⟨-, heq⟩ | ⟨-, heq⟩
    · rw [heq]
      exact trans hfirst hrest
    · rw [heq]
      exact hfirst

/-- **What one level of calls can give without an error:** the text that the run over the
calls reached, or, where a first call stops it at once, that call around a new inside. -/
theorem callsWithin_cases {levels : Nat} {input : Text} {rewrite : Rewrite}
    (h : (callsWithin registry config (levels + 1) input).run = .ok rewrite) :
    (invokeAll config.maxExpansions registry.entries input).run.verdict input =
        .settled (.ok rewrite) ∨
      ∃ name span output, Span.focusCall input name '(' ')' = .ok span ∧
        (callsWithin registry config levels span.inside).run = .ok ⟨true, output⟩ ∧
        rewrite = ⟨true, span.rewrap output⟩ := by
  rw [callsWithin, Id.run_bind] at h
  split at h
  · rename_i result hverdict
    rw [hverdict]
    exact .inl (congrArg Verdict.settled h)
  -- as with expressions: the call that stops the run is the first one of the input
  · rename_i span error hverdict
    obtain ⟨htext, hstop⟩ := Run.of_verdict_narrow hverdict
    obtain ⟨name, hfocus⟩ := SatisfiesM_Id_eq.1
      (invokeAll_stopsAtCall config.maxExpansions registry.entries input) span error hstop
    have hsame : (invokeAll config.maxExpansions registry.entries input).text = input := htext
    rw [hsame] at hfocus
    rw [Id.run_bind, Id.run_pure] at h
    obtain ⟨output, hinner, hrewrite⟩ := Span.of_recover_eq_ok h
    exact .inr ⟨name, span, output, hfocus, hinner, hrewrite⟩

/-- **Induction over the calls of a text,** from the inside of a call to the whole, and over
the calls made one after the other. -/
theorem calls_induction {P : Text → Text → Prop} (refl : ∀ text, P text text)
    (trans : ∀ {text mid out : Text}, P text mid → P mid out → P text out)
    (result : ∀ {name : Text} {function : Function Id} {text : Text} {span : Span}
      {output : Text}, (name, function) ∈ registry.entries →
      Span.focusCall text name '(' ')' = .ok span →
      (function ⟨name, span.inside⟩).run = .ok output → P text (span.splice output))
    (inside : ∀ {name : Text} {text : Text} {span : Span} {inner : Text},
      Span.focusCall text name '(' ')' = .ok span → P span.inside inner →
      P text (span.rewrap inner))
    {depth : Nat} {input : Text} {rewrite : Rewrite}
    (h : (calls registry config depth input).run = .ok rewrite) : P input rewrite.output := by
  rw [calls] at h
  generalize config.levelsAt depth = levels at h
  induction levels generalizing input rewrite with
  | zero => cases h
  | succ levels ih =>
    rcases callsWithin_cases h with hverdict | ⟨name, span, output, hfocus, hinner, rfl⟩
    · rw [(Run.of_verdict_settled_ok hverdict).1]
      exact invokeAll_induction refl trans result config.maxExpansions input
    · have hinside := ih hinner
      exact inside hfocus hinside

/-- **The flag is exact:** it says whether the output differs from the input. -/
theorem changed_iff_of_calls {depth : Nat} {input : Text} {rewrite : Rewrite}
    (h : (calls registry config depth input).run = .ok rewrite) :
    rewrite.changed = true ↔ rewrite.output ≠ input :=
  SatisfiesM_Id_eq.1 (callsWithin_exact registry config (config.levelsAt depth) input) rewrite h

/-- **Where the flag is down the run over the calls came to its end** at the text it began
with. -/
theorem invokeAll_of_calls {depth : Nat} {input output : Text}
    (h : (calls registry config depth input).run = .ok ⟨false, output⟩) :
    (invokeAll config.maxExpansions registry.entries input).run = ⟨input, .finished⟩ := by
  have houtput : output = input := output_eq_of_exact (changed_iff_of_calls h) rfl
  rw [calls] at h
  cases hlevels : config.levelsAt depth with
  | zero => rw [hlevels] at h; cases h
  | succ levels =>
    rw [hlevels] at h
    rcases callsWithin_cases h with hverdict | ⟨name, span, inner, -, -, hrewrite⟩
    · obtain ⟨htext, -, hfinished⟩ := Run.of_verdict_settled_ok hverdict
      exact congrArg₂ Run.mk (htext.symm.trans houtput) (hfinished rfl)
    · cases hrewrite

end Calls

/-! ## All three ways of rewriting -/

/-- **The flag of every result is exact,** whichever way of rewriting it comes from, at every
depth and whatever the functions draw or remember. -/
theorem changed_exact {m : Type → Type} [Monad m] [LawfulMonad m] (evaluate : Evaluator)
    (registry : Registry m) (config : Config) (scope : Scope) (depth : Nat) (input : Text) :
    Exact input (substitution config scope input) ∧
      Exact input (math evaluate config depth input) ∧
      SatisfiesM (Exact input) (calls registry config depth input) := by
  refine ⟨?_, ?_, ?_⟩
  · intro rewrite h
    exact (of_substitution_eq_ok h).2
  · intro rewrite h
    exact changed_iff_of_math h
  · exact callsWithin_exact registry config (config.levelsAt depth) input

/-- A function that counts its calls and answers with their number, unless a parenthesis is in
its arguments. -/
def countCalls : Function (StateM Nat) := fun arguments => do
  let calls ← getModify (· + 1)
  if '(' ∈ arguments.raw then pure (arguments.refuse "no call".toList)
  else pure (.ok (Text.ofNat calls))

/-- Of two calls inside each other the outer one is refused first. The flag is up without a
comparison, and the output differs. -/
theorem changed_exact_counted :
    ((calls ⟨[(['f'], countCalls)]⟩ ⟨1, 1, 1, false⟩ 0 "f(f())".toList).run 0).1 =
        .ok ⟨true, "f(1)".toList⟩ ∧
      ((Rewrite.mk true "f(1)".toList).changed = true ↔
        (Rewrite.mk true "f(1)".toList).output ≠ "f(f())".toList) := by
  have hresult : ((calls ⟨[(['f'], countCalls)]⟩ ⟨1, 1, 1, false⟩ 0 "f(f())".toList).run 0).1 =
      .ok ⟨true, "f(1)".toList⟩ :=
    eq_ok_of_toOption (by decide +kernel)
  obtain ⟨-, -, hcalls⟩ := changed_exact (fun _ => .error .missingOperator)
    ⟨[(['f'], countCalls)]⟩ ⟨1, 1, 1, false⟩ ⟨[], []⟩ 0 "f(f())".toList
  have hexact := SatisfiesM_Id_eq.1 (SatisfiesM_StateT_eq.1 hcalls 0)
  exact ⟨hresult, hexact _ hresult⟩

end Rewrite

end MapScript
