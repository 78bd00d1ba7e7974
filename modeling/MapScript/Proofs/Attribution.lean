/-
Which way of rewriting an error names, and where it names none.

An error tells the way of rewriting it comes from by its kind, or by the brackets it is about,
however many lines it is shown with. Two errors tell nothing. The limit on nesting is one and the
same error for expressions and for calls. The limit on replacements stands inside an error about
the variable or the function where these two reach it, but by itself where expressions do.

Where expressions reach a limit is decided by the text. The one on nesting is reported if each
level that may be entered has a first span and refuses it (`Exhausts`). The one on replacements
stops a run after it has changed the text, and then the change is kept; it is reported only if the
last replacement has brought back the text that the run began with (`Circles`). So an error of
expressions names no way of rewriting in these two cases and in no others
(`strategy_eq_none_iff_of_math`).

Calls have only the limit on nesting, and reach it where as many of them as there are levels stand
inside each other (`Span.NestsCalls`). What a function does may differ from call to call; if it does
not, the limit is reported exactly where all of these calls are refused (`RefusesCalls`).
-/
import MapScript.Proofs.ResolutionErrors
import MapScript.Proofs.Descent

set_option autoImplicit false

namespace MapScript

/-! ## Errors in lines -/

namespace ScriptError

/-- The error in all lines of a list, the first of them next to it. -/
def atLines : ScriptError → List (Nat × Text) → ScriptError
  | error, [] => error
  | error, (index, line) :: lines => (error.atLine index line).atLines lines

/-- Lines do not change the way of rewriting that an error names. -/
theorem strategy_atLines (error : ScriptError) (lines : List (Nat × Text)) :
    (error.atLines lines).strategy = error.strategy := by
  induction lines generalizing error with
  | nil => rw [atLines]
  | cons place lines ih =>
    rw [atLines, ih, atLine, strategy]

/-- **An error that names a way of rewriting unless it is one of the exceptions,** and names none if
it is, whatever lines it is shown with. -/
def NamesUnless (exceptions : ScriptError → Prop) (strategy : Strategy) (error : ScriptError) :
    Prop :=
  ∀ lines, (exceptions error → (error.atLines lines).strategy = none) ∧
    (¬ exceptions error → (error.atLines lines).strategy = some strategy)

section NamesUnless

variable {exceptions : ScriptError → Prop} {strategy : Strategy} {error : ScriptError}

theorem NamesUnless.of_exception (h : exceptions error) (hnone : error.strategy = none) :
    error.NamesUnless exceptions strategy := by
  intro lines
  rw [strategy_atLines]
  exact ⟨fun _ => hnone, absurd h⟩

theorem NamesUnless.of_strategy (h : ¬ exceptions error) (hsome : error.strategy = some strategy) :
    error.NamesUnless exceptions strategy := by
  intro lines
  rw [strategy_atLines]
  exact ⟨fun hexception => absurd hexception h, fun _ => hsome⟩

end NamesUnless

/-- An error of a substitution is about a variable. -/
theorem OfSubstitution.strategy_eq {error : ScriptError} (h : OfSubstitution error) :
    error.strategy = some .substitution := by
  cases h with
  | steps name limit reached => rfl

/-- An error of calls is about parentheses or a function, or it is the limit on nesting. -/
theorem OfCalls.namesUnless {Own : ScriptError → Prop} {config : Config} {Deep : Prop}
    {error : ScriptError} (h : OfCalls Own config Deep error) :
    error.NamesUnless (· = .recursionLimit config.maxDepth) .calls ∧
      (error = .recursionLimit config.maxDepth → Deep) := by
  cases h with
  | bracket text => exact ⟨.of_strategy nofun rfl, nofun⟩
  | call function hsource => exact ⟨.of_strategy nofun rfl, nofun⟩
  | steps function limit reached => exact ⟨.of_strategy nofun rfl, nofun⟩
  | depth hdeep => exact ⟨.of_exception rfl rfl, fun _ => hdeep⟩

end ScriptError

namespace Rewrite

/-! ## Texts that come back -/

/-- **The text after `count` first spans have been replaced by their values,** one after the other,
if each of them is there and has one. -/
def evaluateFirst (evaluate : Evaluator) : (count : Nat) → Text → Option Text
  | 0, text => some text
  | count + 1, text =>
    match Span.focusFirst text '\x7b' '\x7d' with
    | .error _ => none
    | .ok span =>
      match evaluate span.inside with
      | .error _ => none
      | .ok value => evaluateFirst evaluate count (span.splice value)

/-- **A text with a span that is there again after `count` replacements.** -/
def Circles (evaluate : Evaluator) (count : Nat) (input : Text) : Prop :=
  Span.hasUnescaped '\x7b' input = true ∧ evaluateFirst evaluate count input = some input

variable {evaluate : Evaluator} {config : Config}

/-- **A run reaches the limit exactly at a text with a span that all its replacements lead to.** -/
theorem evaluateSpans_eq_limited_iff {limit budget : Nat} {text reached : Text} :
    evaluateSpans evaluate limit budget text = ⟨reached, .failed (.didNotConverge limit reached)⟩ ↔
      Span.hasUnescaped '\x7b' reached = true ∧
        evaluateFirst evaluate budget text = some reached := by
  induction budget generalizing text with
  | zero =>
    rw [evaluateSpans, evaluateFirst, Option.some.injEq]
    split
    · rename_i hspan
      simp only [Run.mk.injEq, Stop.failed.injEq, ScriptError.didNotConverge.injEq, true_and,
        and_self]
      exact ⟨fun h => ⟨h ▸ hspan, h⟩, fun h => h.2⟩
    · rename_i hnone
      refine iff_of_false (fun h => by cases h) ?_
      rintro ⟨hspan, rfl⟩
      exact hnone hspan
  | succ budget ih =>
    cases hfocus : Span.focusFirst text '\x7b' '\x7d' with
    | error error =>
      -- a run that is stopped here has an error about the brackets
      refine iff_of_false ?_ ?_
      · intro h
        rw [evaluateSpans, hfocus, Span.eq_of_focusFirst_eq_error hfocus] at h
        split at h <;> cases h
      · simp only [evaluateFirst, hfocus, reduceCtorEq, and_false, not_false_eq_true]
    | ok span =>
      cases hresult : evaluate span.inside with
      | error cause =>
        rw [evaluateSpans_of_refused hfocus hresult]
        refine iff_of_false (fun h => by cases h) ?_
        simp only [evaluateFirst, hfocus, hresult, reduceCtorEq, and_false, not_false_eq_true]
      | ok value =>
        rw [evaluateSpans_of_value hfocus hresult, ih]
        simp only [evaluateFirst, hfocus, hresult]

/-! ## Limits of expressions -/

/-- **The errors of expressions:** the limit on nesting where all levels refuse their first span,
the limit on replacements where they lead back to the text, and errors that name expressions. -/
theorem of_mathWithin_eq_error {levels : Nat} {input : Text} {error : ScriptError}
    (h : mathWithin evaluate config levels input = .error error) :
    (error = .recursionLimit config.maxDepth ∧ Exhausts evaluate levels input) ∨
      (error = .didNotConverge config.maxExpansions input ∧
        Circles evaluate config.maxExpansions input) ∨
      error.strategy = some .math := by
  induction levels generalizing input error with
  | zero =>
    refine .inl ⟨(Except.error.inj h).symm, ?_⟩
    intro count hcount
    omega
  | succ levels ih =>
    rw [mathWithin] at h
    have hends := evaluateSpans_ends evaluate config.maxExpansions config.maxExpansions input
    split at h
    · rename_i result hverdict
      rw [h] at hverdict
      obtain ⟨hsame, hstop⟩ := Run.of_verdict_settled_error hverdict
      generalize hrun : evaluateSpans evaluate config.maxExpansions config.maxExpansions input =
        run at hends hsame hstop
      cases hends with
      | finished | refused => cases hstop
      | unclosed text =>
        cases hstop
        exact .inr (.inr rfl)
      | limited text =>
        cases hstop
        obtain rfl : text = input := hsame
        exact .inr (.inl ⟨rfl, evaluateSpans_eq_limited_iff.1 hrun⟩)
    · rename_i span cause hverdict
      obtain ⟨hsame, hstop⟩ := Run.of_verdict_narrow hverdict
      obtain ⟨hfocus, reason, hreason, rfl⟩ := of_evaluateSpans_failedIn hstop
      rw [hsame] at hfocus
      rcases Span.of_recover_eq_error h with rfl | ⟨depth, hinner, rfl⟩
      · exact .inr (.inr rfl)
      -- of the inside only the limit on nesting is passed on
      · rcases ih hinner with ⟨hdepth, hexhausts⟩ | ⟨hdepth, -⟩ | hstrategy
        · exact .inl ⟨hdepth, (exhausts_succ_iff hfocus hreason levels).2 hexhausts⟩
        · cases hdepth
        · cases hstrategy

/-- Where all levels refuse their first span the limit on nesting is reported, as long as a
replacement may be made. -/
theorem mathWithin_of_exhausts (hexpansions : 1 ≤ config.maxExpansions) {levels : Nat}
    {input : Text} (h : Exhausts evaluate levels input) :
    mathWithin evaluate config levels input = .error (.recursionLimit config.maxDepth) := by
  induction levels generalizing input with
  | zero => rfl
  | succ levels ih =>
    obtain ⟨text, span, cause, htext, hfocus, hcause⟩ := h 0 (by omega)
    obtain rfl := Option.some.inj htext
    have hinside : Exhausts evaluate levels span.inside :=
      (exhausts_succ_iff hfocus hcause levels).1 h
    rw [mathWithin_of_refused hexpansions hfocus hcause, ih hinside]
    rfl

/-- Where the replacements lead back to the text the limit on them is reported, as long as a level
may be entered. -/
theorem mathWithin_of_circles {input : Text} (h : Circles evaluate config.maxExpansions input)
    (levels : Nat) :
    mathWithin evaluate config (levels + 1) input =
      .error (.didNotConverge config.maxExpansions input) := by
  rw [mathWithin, evaluateSpans_eq_limited_iff.2 h, Run.verdict_failed]

/-- **When expressions fail without naming themselves:** exactly where all levels that may be entered
refuse their first span, and where the replacements lead back to the text. -/
theorem strategy_eq_none_iff_of_math {depth : Nat} {input : Text} :
    (∃ error, math evaluate config depth input = .error error ∧ error.strategy = none) ↔
      Exhausts evaluate (config.levelsAt depth) input ∨
        Circles evaluate config.maxExpansions input := by
  rw [math]
  generalize config.levelsAt depth = levels
  constructor
  · rintro ⟨error, hresult, hnone⟩
    rcases of_mathWithin_eq_error hresult with ⟨-, hexhausts⟩ | ⟨-, hcircles⟩ | hsome
    · exact .inl hexhausts
    · exact .inr hcircles
    · rw [hnone] at hsome
      cases hsome
  · intro h
    cases levels with
    | zero => exact ⟨_, rfl, rfl⟩
    | succ levels =>
      rcases h with hexhausts | hcircles
      · rcases Nat.eq_zero_or_pos config.maxExpansions with hzero | hpos
        -- with no replacement to make, the text that is there comes back at once
        · obtain ⟨text, span, cause, htext, hfocus, -⟩ := hexhausts 0 (by omega)
          obtain rfl := Option.some.inj htext
          have hcircles : Circles evaluate config.maxExpansions input := by
            rw [hzero]
            exact ⟨Span.hasUnescaped_of_focusFirst hfocus, rfl⟩
          exact ⟨_, mathWithin_of_circles hcircles levels, rfl⟩
        · exact ⟨_, mathWithin_of_exhausts hpos hexhausts, rfl⟩
      · exact ⟨_, mathWithin_of_circles hcircles levels, rfl⟩

/-- An error of expressions names them unless it is one of the two limits. -/
theorem math_namesUnless (evaluate : Evaluator) (config : Config) (depth : Nat) (input : Text) :
    OnError (ScriptError.NamesUnless
        (fun error => error = .recursionLimit config.maxDepth ∨
          error = .didNotConverge config.maxExpansions input) .math)
      (math evaluate config depth input) := by
  intro error h
  rcases of_mathWithin_eq_error h with ⟨rfl, -⟩ | ⟨rfl, -⟩ | hsome
  · exact .of_exception (.inl rfl) rfl
  · exact .of_exception (.inr rfl) rfl
  · refine .of_strategy ?_ hsome
    rintro (rfl | rfl) <;> cases hsome

/-! ## The limit of calls -/

section Deterministic

variable {registry : Registry Id}

/-- **A call that is refused with nothing done:** the calls that are made before it, if there are
any, have led back to the text. -/
def RefusesCall (registry : Registry Id) (limit : Nat) (text : Text) (span : Span) : Prop :=
  ∃ name source, (invokeAll limit registry.entries text).run =
    ⟨text, .failedIn span (.functionExecution name source)⟩

/-- **Calls inside each other that are refused with nothing done,** on each of `levels` levels. -/
inductive RefusesCalls (registry : Registry Id) (limit : Nat) : (levels : Nat) → Text → Prop where
  | zero (text : Text) : RefusesCalls registry limit 0 text
  | succ {levels : Nat} {text : Text} {span : Span}
      (hrefused : RefusesCall registry limit text span)
      (h : RefusesCalls registry limit levels span.inside) :
    RefusesCalls registry limit (levels + 1) text

/-- **The limit on nesting is an error of calls exactly where all levels are refused.** -/
theorem callsWithin_eq_recursionLimit_iff {levels : Nat} {input : Text} :
    (callsWithin registry config levels input).run = .error (.recursionLimit config.maxDepth) ↔
      RefusesCalls registry config.maxExpansions levels input := by
  induction levels generalizing input with
  | zero => exact iff_of_true rfl (.zero input)
  | succ levels ih =>
    have hends : EndsAtCalls registry.names (fun _ => True) config.maxExpansions
        (invokeAll config.maxExpansions registry.entries input).run :=
      SatisfiesM_Id_eq.1 (invokeAll_ends _ (fun _ hentry => List.mem_map_of_mem hentry)
        (fun _ _ _ => OnError.any _) input)
    rw [callsWithin, Id.run_bind]
    generalize hrun : (invokeAll config.maxExpansions registry.entries input).run = run at hends
    constructor
    · intro h
      split at h
      · rename_i result hverdict
        rw [Id.run_pure] at h
        rw [h] at hverdict
        obtain ⟨-, hstop⟩ := Run.of_verdict_settled_error hverdict
        -- no run is stopped by the limit on nesting
        cases hends <;> cases hstop
      · rename_i span error hverdict
        obtain ⟨hsame, hstop⟩ := Run.of_verdict_narrow hverdict
        rw [Id.run_bind, Id.run_pure] at h
        cases hends with
        | finished | unclosed | limited => cases hstop
        | refused hname hfocus hsource =>
          cases hstop
          obtain rfl := hsame
          rcases Span.of_recover_eq_error h with herror | ⟨depth, hinner, hdepth⟩
          · cases herror
          · rw [← hdepth] at hinner
            exact .succ ⟨_, _, hrun⟩ (ih.1 hinner)
    · intro h
      cases h with
      | succ hrefused hinside =>
        obtain ⟨name, source, hrefused⟩ := hrefused
        obtain rfl := hrun.symm.trans hrefused
        rw [Run.verdict_failedIn]
        dsimp only
        rw [Id.run_bind, Id.run_pure, ih.2 hinside]
        rfl

end Deterministic

/-! ## All three ways of rewriting -/

variable {m : Type → Type} [Monad m] [LawfulMonad m]

/-- **Which way of rewriting an error names,** for every input at every depth and in whatever lines
the error is shown.

* An error of a substitution names substitution.
* An error of expressions names them unless it is the limit on nesting or the limit on replacements,
  and then it names nothing. This happens exactly where each level that may be entered has a first
  span and refuses it, or where all the replacements that may be made lead back to the text.
* An error of calls names calls unless it is the limit on nesting, and then it names nothing. This
  happens only where as many calls as there are levels stand inside each other, and if the functions
  are deterministic exactly where each of these is refused with nothing done. -/
theorem errors_nameStrategy (evaluate : Evaluator) (registry : Registry m) (config : Config)
    (scope : Scope) (depth : Nat) (input : Text) :
    OnError (ScriptError.NamesUnless (fun _ => False) .substitution)
      (substitution config scope input) ∧
    OnError (ScriptError.NamesUnless
        (fun error => error = .recursionLimit config.maxDepth ∨
          error = .didNotConverge config.maxExpansions input) .math)
      (math evaluate config depth input) ∧
    ((∃ error, math evaluate config depth input = .error error ∧ error.strategy = none) ↔
      Exhausts evaluate (config.levelsAt depth) input ∨
        Circles evaluate config.maxExpansions input) ∧
    SatisfiesM
      (OnError fun error =>
        error.NamesUnless (· = .recursionLimit config.maxDepth) .calls ∧
          (error = .recursionLimit config.maxDepth →
            Span.NestsCalls registry.names (config.levelsAt depth) input))
      (calls registry config depth input) ∧
    ∀ deterministic : Registry Id,
      (calls deterministic config depth input).run = .error (.recursionLimit config.maxDepth) ↔
        RefusesCalls deterministic config.maxExpansions (config.levelsAt depth) input := by
  -- what the functions report is not looked at, since it stands inside the error of a call
  have hany : registry.ErrorsIn fun _ => True := fun _ _ _ => OnError.any _
  refine ⟨?_, math_namesUnless evaluate config depth input, strategy_eq_none_iff_of_math, ?_,
    fun _ => callsWithin_eq_recursionLimit_iff⟩
  · exact (substitution_onError config scope input).imp
      fun error herror => .of_strategy id herror.strategy_eq
  · exact (callsWithin_onError hany config (config.levelsAt depth) input).imp
      fun hresult => hresult.imp fun error herror => herror.namesUnless

/-- A span that is refused and has nothing inside it to go on with, with two levels to enter. The
error is about the expression and says so in all lines. -/
theorem errors_nameStrategy_refused :
    ∃ error, math Expr.evaluate ⟨1, 1, 1, false⟩ 0 "\x7bx\x7d".toList = .error error ∧
      ∀ lines, (error.atLines lines).strategy = some .math := by
  obtain ⟨error, hresult⟩ : ∃ error,
      math Expr.evaluate ⟨1, 1, 1, false⟩ 0 "\x7bx\x7d".toList = .error error :=
    exists_error_of_toOption (by decide +kernel)
  obtain ⟨-, hnames, hnone, -⟩ := errors_nameStrategy Expr.evaluate (.empty : Registry Id)
    ⟨1, 1, 1, false⟩ ⟨[], []⟩ 0 "\x7bx\x7d".toList
  have hinwards : Span.inwards 1 "\x7bx\x7d".toList = some "x".toList := by decide +kernel
  obtain ⟨reason, hreason⟩ : ∃ reason, Span.focusFirst "x".toList '\x7b' '\x7d' = .error reason :=
    exists_error_of_toOption (by decide +kernel)
  have hevaluate : evaluateFirst Expr.evaluate 1 "\x7bx\x7d".toList = none := by decide +kernel
  refine ⟨error, hresult, fun lines => (hnames error hresult lines).2 fun hlimit => ?_⟩
  -- a limit would name nothing, and for that the inside would have to be entered or to come back
  have hunnamed : error.strategy = none := (hnames error hresult []).1 hlimit
  rcases hnone.1 ⟨error, hresult, hunnamed⟩ with hexhausts | ⟨-, hback⟩
  · obtain ⟨text, span, cause, htext, hfocus, -⟩ := hexhausts 1 (by decide)
    obtain rfl := Option.some.inj (hinwards.symm.trans htext)
    rw [hreason] at hfocus
    cases hfocus
  · rw [hevaluate] at hback
    cases hback

/-- The same span with no level to enter below the first: expressions fail, and the error names
nothing. -/
theorem strategy_of_refused_at_greatest_depth :
    math Expr.evaluate ⟨256, 4096, 0, false⟩ 0 "\x7bx\x7d".toList = .error (.recursionLimit 0) ∧
      (ScriptError.recursionLimit 0).strategy ≠ some .math := by
  obtain ⟨cause, hcause⟩ : ∃ cause, Expr.evaluate "x".toList = .error cause :=
    exists_error_of_toOption (by decide +kernel)
  have hexhausts : Exhausts Expr.evaluate 1 "\x7bx\x7d".toList := by
    intro count hcount
    obtain rfl := Nat.lt_one_iff.1 hcount
    exact ⟨_, _, cause, rfl, rfl, hcause⟩
  exact ⟨mathWithin_of_exhausts (by decide) hexhausts, nofun⟩

end Rewrite

end MapScript
