/-
How far the evaluation of expressions goes down, and what it brings back.

The strategy looks at the first span of a text. If that is refused it looks at the first span of
the inside, and so on, one level of nesting after the other. So the texts that decide are the
input, the inside of its first span, the inside of the first span of that (`Span.inwards`), and
there are three ways in which the descent can end:

* it comes to a span that evaluates, and the change is put back around all levels (`Advances`);
* each level that it may enter has a first span and refuses it, and it runs into the limit on
  nesting (`Exhausts`);
* it comes to a text without a first span. Then nothing is done, and the result is what the
  outermost level says about its own text (`Rests`).

The argument is an induction over the levels that are left (`mathWithin_ends`): each level passes
on a change and the limit, and replaces every other error by its own. That a value makes a change
at all is where the count of braces comes in: a value has at most as many as its expression, so
the braces around it are missing afterwards.
-/
import MapScript.Proofs.Convergence

set_option autoImplicit false

namespace MapScript

/-- **The text that is `count` first spans further in:** the inside of the first span, the inside
of the first span of that, and so on as long as there is one. -/
def Span.inwards : (count : Nat) → Text → Option Text
  | 0, text => some text
  | count + 1, text =>
    match focusFirst text '\x7b' '\x7d' with
    | .ok span => inwards count span.inside
    | .error _ => none

namespace Rewrite

/-! ## The texts of a descent -/

/-- The text that is `count` first spans further in has a first span, and it evaluates. -/
def EvaluatesAt (evaluate : Evaluator) (input : Text) (count : Nat) : Prop :=
  ∃ text span value, Span.inwards count input = some text ∧
    Span.focusFirst text '\x7b' '\x7d' = .ok span ∧ evaluate span.inside = .ok value

/-- The text that is `count` first spans further in has a first span, and it is refused. -/
def RefusedAt (evaluate : Evaluator) (input : Text) (count : Nat) : Prop :=
  ∃ text span cause, Span.inwards count input = some text ∧
    Span.focusFirst text '\x7b' '\x7d' = .ok span ∧ evaluate span.inside = .error cause

/-- **Within `levels` levels the descent comes to a span that evaluates,** and the first spans of
all levels above are refused. -/
def Advances (evaluate : Evaluator) (levels : Nat) (input : Text) : Prop :=
  ∃ count < levels, EvaluatesAt evaluate input count ∧
    ∀ outer < count, RefusedAt evaluate input outer

/-- **Each of `levels` levels has a first span and refuses it.** -/
def Exhausts (evaluate : Evaluator) (levels : Nat) (input : Text) : Prop :=
  ∀ count < levels, RefusedAt evaluate input count

/-- **What a text gives where nothing inside of it is evaluated:** itself if it has no span, or an
error about the text or about its first span. -/
inductive Rests (evaluate : Evaluator) (input : Text) : Except ScriptError Rewrite → Prop where
  | untouched (hnone : Span.hasUnescaped '\x7b' input = false) :
    Rests evaluate input (.ok ⟨false, input⟩)
  | unclosed {before rest : Text}
      (hopen : Span.splitUnescaped '\x7b' false input = some (before, rest))
      (hclose : Span.splitClosing '\x7b' '\x7d' false 0 rest = none) :
    Rests evaluate input (.error (.malformedBracket '\x7b' '\x7d' input))
  | refused {span : Span} {cause : Expr.Error}
      (hfocus : Span.focusFirst input '\x7b' '\x7d' = .ok span)
      (hcause : evaluate span.inside = .error cause) :
    Rests evaluate input (.error (.malformedExpression span.inside cause))

variable {evaluate : Evaluator} {config : Config} {input : Text} {span : Span}

/-- A descent that comes to a span which evaluates does not refuse all levels. -/
theorem Advances.not_exhausts {levels : Nat} (h : Advances evaluate levels input) :
    ¬ Exhausts evaluate levels input := by
  intro hexhausts
  obtain ⟨count, hcount, ⟨text, span, value, htext, hfocus, hvalue⟩, -⟩ := h
  obtain ⟨text', span', cause, htext', hfocus', hcause⟩ := hexhausts count hcount
  -- both speak of the same text, of its first span and of the value of that
  obtain rfl := Option.some.inj (htext.symm.trans htext')
  obtain rfl := Except.ok.inj (hfocus.symm.trans hfocus')
  rw [hvalue] at hcause
  cases hcause

section Step

variable (hfocus : Span.focusFirst input '\x7b' '\x7d' = .ok span)

include hfocus

/-- One level further in is one level inside the first span. -/
theorem evaluatesAt_succ_iff (count : Nat) :
    EvaluatesAt evaluate input (count + 1) ↔ EvaluatesAt evaluate span.inside count := by
  simp only [EvaluatesAt, Span.inwards, hfocus]

theorem refusedAt_succ_iff (count : Nat) :
    RefusedAt evaluate input (count + 1) ↔ RefusedAt evaluate span.inside count := by
  simp only [RefusedAt, Span.inwards, hfocus]

variable {cause : Expr.Error} (hcause : evaluate span.inside = .error cause)

include hcause

/-- Below a first span that is refused the descent goes on inside it. -/
theorem advances_succ_iff (levels : Nat) :
    Advances evaluate (levels + 1) input ↔ Advances evaluate levels span.inside := by
  have hrefused : RefusedAt evaluate input 0 := ⟨input, span, cause, rfl, hfocus, hcause⟩
  constructor
  · rintro ⟨count, hcount, hevaluates, houter⟩
    obtain _ | count := count
    · -- the first span is refused, so it is not the one that evaluates
      obtain ⟨text, span', value, htext, hfocus', hvalue⟩ := hevaluates
      obtain rfl := Option.some.inj htext
      obtain rfl := Except.ok.inj (hfocus.symm.trans hfocus')
      rw [hcause] at hvalue
      cases hvalue
    · refine ⟨count, by omega, (evaluatesAt_succ_iff hfocus count).1 hevaluates, ?_⟩
      intro outer hlt
      exact (refusedAt_succ_iff hfocus outer).1 (houter (outer + 1) (by omega))
  · rintro ⟨count, hcount, hevaluates, houter⟩
    refine ⟨count + 1, by omega, (evaluatesAt_succ_iff hfocus count).2 hevaluates, ?_⟩
    intro outer hlt
    obtain _ | outer := outer
    · exact hrefused
    · exact (refusedAt_succ_iff hfocus outer).2 (houter outer (by omega))

theorem exhausts_succ_iff (levels : Nat) :
    Exhausts evaluate (levels + 1) input ↔ Exhausts evaluate levels span.inside := by
  constructor
  · intro h count hcount
    exact (refusedAt_succ_iff hfocus count).1 (h (count + 1) (by omega))
  · intro h count hcount
    obtain _ | count := count
    · exact ⟨input, span, cause, rfl, hfocus, hcause⟩
    · exact (refusedAt_succ_iff hfocus count).2 (h count (by omega))

end Step

/-- Where a text has no first span the descent is at its end. -/
theorem not_advances_of_error {error : ScriptError}
    (h : Span.focusFirst input '\x7b' '\x7d' = .error error) (levels : Nat) :
    ¬ Advances evaluate levels input := by
  rintro ⟨count, -, ⟨text, span, value, htext, hfocus, -⟩, -⟩
  obtain _ | count := count
  · obtain rfl := Option.some.inj htext
    rw [h] at hfocus
    cases hfocus
  · simp [Span.inwards, h] at htext

theorem not_exhausts_of_error {error : ScriptError}
    (h : Span.focusFirst input '\x7b' '\x7d' = .error error) (levels : Nat) :
    ¬ Exhausts evaluate (levels + 1) input := by
  intro hexhausts
  obtain ⟨text, span, cause, htext, hfocus, -⟩ := hexhausts 0 (by omega)
  obtain rfl := Option.some.inj htext
  rw [h] at hfocus
  cases hfocus

/-! ## One level -/

/-- **A text without a first span** is left as it is, or its brackets do not pair up. -/
theorem rests_of_focusFirst_error (hexpansions : 1 ≤ config.maxExpansions) {error : ScriptError}
    (h : Span.focusFirst input '\x7b' '\x7d' = .error error) (levels : Nat) :
    Rests evaluate input (mathWithin evaluate config (levels + 1) input) := by
  obtain ⟨budget, hbudget⟩ := Nat.exists_eq_add_of_le' hexpansions
  by_cases hnone : Span.hasUnescaped '\x7b' input = false
  · rw [mathWithin, evaluateSpans_of_none hnone, Run.verdict_finished]
    exact .untouched hnone
  · have hrun : evaluateSpans evaluate (budget + 1) (budget + 1) input =
        ⟨input, .failed error⟩ := by
      rw [evaluateSpans, if_pos (by simpa using hnone), h]
    rw [mathWithin, hbudget, hrun, Run.verdict_failed, Span.eq_of_focusFirst_eq_error h]
    -- the opening bracket is there, so it is the closing one that is missing
    obtain ⟨⟨before, rest⟩, hopen⟩ := Option.isSome_iff_exists.1 (Bool.not_eq_false _ ▸ hnone)
    rw [Span.focusFirst, hopen] at h
    simp only [Span.close] at h
    split at h
    · cases h
    · rename_i hclose
      exact .unclosed hopen hclose

/-- **A first span that evaluates makes a change:** the run goes on with fewer braces than the
text has. -/
theorem mathWithin_of_value (hadds : AddsNoBrace evaluate)
    (hexpansions : 1 ≤ config.maxExpansions)
    (hfocus : Span.focusFirst input '\x7b' '\x7d' = .ok span) {value : Text}
    (hvalue : evaluate span.inside = .ok value) (levels : Nat) :
    ∃ output, mathWithin evaluate config (levels + 1) input = .ok ⟨true, output⟩ := by
  obtain ⟨budget, hbudget⟩ := Nat.exists_eq_add_of_le' hexpansions
  have hless := braces_splice_lt hadds hfocus hvalue
  have hle := braces_evaluateSpans_le hadds config.maxExpansions budget (span.splice value)
  rw [← evaluateSpans_of_value hfocus hvalue, ← hbudget] at hle
  refine ⟨_, mathWithin_of_ne ?_ levels⟩
  intro hsame
  rw [hsame] at hle
  omega

/-- Where the inside rests, so does the text around it, with the error of its own first span. -/
theorem Rests.recover {inner : Except ScriptError Rewrite} (h : Rests evaluate span.inside inner)
    {cause : Expr.Error} (hfocus : Span.focusFirst input '\x7b' '\x7d' = .ok span)
    (hcause : evaluate span.inside = .error cause) :
    Rests evaluate input (span.recover (.malformedExpression span.inside cause) inner) := by
  cases h with
  | untouched hnone => exact .refused hfocus hcause
  | unclosed hopen hclose => exact .refused hfocus hcause
  | refused hfocus' hcause' => exact .refused hfocus hcause

/-! ## All levels -/

/-- **The three ways in which the evaluation of a text can end.** -/
theorem mathWithin_ends (hadds : AddsNoBrace evaluate) (config : Config)
    (hexpansions : 1 ≤ config.maxExpansions) (levels : Nat) (input : Text) :
    (Advances evaluate levels input ∧
      ∃ output, mathWithin evaluate config levels input = .ok ⟨true, output⟩) ∨
    (Exhausts evaluate levels input ∧
      mathWithin evaluate config levels input = .error (.recursionLimit config.maxDepth)) ∨
    (¬ Advances evaluate levels input ∧ ¬ Exhausts evaluate levels input ∧
      Rests evaluate input (mathWithin evaluate config levels input)) := by
  induction levels generalizing input with
  | zero =>
    -- no level may be entered, and the limit is noticed before the text is looked at
    refine .inr (.inl ⟨?_, rfl⟩)
    intro count hcount
    omega
  | succ levels ih =>
    cases hfocus : Span.focusFirst input '\x7b' '\x7d' with
    | error error =>
      exact .inr (.inr ⟨not_advances_of_error hfocus (levels + 1),
        not_exhausts_of_error hfocus levels, rests_of_focusFirst_error hexpansions hfocus levels⟩)
    | ok span =>
      cases hresult : evaluate span.inside with
      | ok value =>
        refine .inl ⟨⟨0, by omega, ⟨input, span, value, rfl, hfocus, hresult⟩, ?_⟩, ?_⟩
        · intro outer hlt
          omega
        · exact mathWithin_of_value hadds hexpansions hfocus hresult levels
      | error cause =>
        rw [advances_succ_iff hfocus hresult, exhausts_succ_iff hfocus hresult,
          mathWithin_of_refused hexpansions hfocus hresult]
        -- the level passes on a change and the limit, and keeps its own error otherwise
        rcases ih span.inside with ⟨hadvances, output, hinner⟩ | ⟨hexhausts, hinner⟩ |
          ⟨hadvances, hexhausts, hrests⟩
        · rw [hinner]
          exact .inl ⟨hadvances, _, rfl⟩
        · rw [hinner]
          exact .inr (.inl ⟨hexhausts, rfl⟩)
        · exact .inr (.inr ⟨hadvances, hexhausts, hrests.recover hfocus hresult⟩)

/-! ## The result -/

namespace Rests

variable {result : Except ScriptError Rewrite}

/-- A result that rests is no change and no limit on nesting. -/
theorem ne (h : Rests evaluate input result) :
    (∀ output, result ≠ .ok ⟨true, output⟩) ∧
      ∀ depth, result ≠ .error (.recursionLimit depth) := by
  cases h <;> simp

/-- Without a span it is the text. -/
theorem eq_of_none (h : Rests evaluate input result)
    (hnone : Span.hasUnescaped '\x7b' input = false) : result = .ok ⟨false, input⟩ := by
  cases h with
  | untouched => rfl
  | unclosed hopen hclose => simp [Span.hasUnescaped, hopen] at hnone
  | refused hfocus hcause =>
    rw [Span.hasUnescaped_of_focusFirst hfocus] at hnone
    cases hnone

/-- Where the first brace is not closed it is the error of the brackets. -/
theorem eq_of_unclosed (h : Rests evaluate input result) {before rest : Text}
    (hopen : Span.splitUnescaped '\x7b' false input = some (before, rest))
    (hclose : Span.splitClosing '\x7b' '\x7d' false 0 rest = none) :
    result = .error (.malformedBracket '\x7b' '\x7d' input) := by
  cases h with
  | untouched hnone => simp [Span.hasUnescaped, hopen] at hnone
  | unclosed => rfl
  | refused hfocus hcause => simp [Span.focusFirst, hopen, Span.close, hclose] at hfocus

/-- Where there is a first span it is the error of that. -/
theorem eq_of_focusFirst (h : Rests evaluate input result)
    (hfocus : Span.focusFirst input '\x7b' '\x7d' = .ok span) :
    ∃ cause, evaluate span.inside = .error cause ∧
      result = .error (.malformedExpression span.inside cause) := by
  cases h with
  | untouched hnone =>
    rw [Span.hasUnescaped_of_focusFirst hfocus] at hnone
    cases hnone
  | unclosed hopen hclose => simp [Span.focusFirst, hopen, Span.close, hclose] at hfocus
  | refused hfocus' hcause =>
    obtain rfl := Except.ok.inj (hfocus'.symm.trans hfocus)
    exact ⟨_, hcause, rfl⟩

end Rests

/-- **What the evaluation of expressions gives, and when.** Where no value has more braces than
its expression and a replacement may be made,

* a text without a span is left as it is;
* a text whose first opening brace is not closed is an error about the whole text;
* the text is changed exactly if within the levels of nesting the descent comes to a span that
  evaluates, and the first spans above it are refused;
* the limit on nesting is reported exactly if all first spans down to the greatest depth are there
  and are refused;
* in every other case the error is that of the outermost first span, with its expression and the
  cause for which that is refused. -/
theorem math_outcome (hadds : AddsNoBrace evaluate) (config : Config)
    (hexpansions : 1 ≤ config.maxExpansions) (input : Text) :
    (Span.hasUnescaped '\x7b' input = false →
      math evaluate config 0 input = .ok ⟨false, input⟩) ∧
    (∀ before rest, Span.splitUnescaped '\x7b' false input = some (before, rest) →
      Span.splitClosing '\x7b' '\x7d' false 0 rest = none →
        math evaluate config 0 input = .error (.malformedBracket '\x7b' '\x7d' input)) ∧
    ((∃ output, output ≠ input ∧ math evaluate config 0 input = .ok ⟨true, output⟩) ↔
      ∃ count ≤ config.maxDepth, EvaluatesAt evaluate input count ∧
        ∀ outer < count, RefusedAt evaluate input outer) ∧
    (∀ depth, math evaluate config 0 input = .error (.recursionLimit depth) ↔
      depth = config.maxDepth ∧ ∀ count ≤ config.maxDepth, RefusedAt evaluate input count) ∧
    (∀ span, Span.focusFirst input '\x7b' '\x7d' = .ok span →
      (¬ ∃ count ≤ config.maxDepth, EvaluatesAt evaluate input count ∧
        ∀ outer < count, RefusedAt evaluate input outer) →
      (¬ ∀ count ≤ config.maxDepth, RefusedAt evaluate input count) →
        ∃ cause, evaluate span.inside = .error cause ∧
          math evaluate config 0 input = .error (.malformedExpression span.inside cause)) := by
  -- a depth up to the greatest one is a level of those that may be entered
  have hadvances : (∃ count ≤ config.maxDepth, EvaluatesAt evaluate input count ∧
      ∀ outer < count, RefusedAt evaluate input outer) ↔
        Advances evaluate (config.maxDepth + 1) input := by
    simp only [Advances, Nat.lt_succ_iff]
  have hexhausts : (∀ count ≤ config.maxDepth, RefusedAt evaluate input count) ↔
      Exhausts evaluate (config.maxDepth + 1) input := by
    simp only [Exhausts, Nat.lt_succ_iff]
  have hends := mathWithin_ends hadds config hexpansions (config.maxDepth + 1) input
  have hmath : mathWithin evaluate config (config.maxDepth + 1) input =
      math evaluate config 0 input := rfl
  rw [hmath] at hends
  rw [hadvances, hexhausts]
  refine ⟨?_, ?_, ?_, ?_, ?_⟩
  · intro hnone
    cases hfocus : Span.focusFirst input '\x7b' '\x7d' with
    | ok span => simp [Span.hasUnescaped_of_focusFirst hfocus] at hnone
    | error error =>
      exact (rests_of_focusFirst_error hexpansions hfocus config.maxDepth).eq_of_none hnone
  · intro before rest hopen hclose
    have hfocus : Span.focusFirst input '\x7b' '\x7d' =
        .error (.malformedBracket '\x7b' '\x7d' input) := by
      simp only [Span.focusFirst, hopen, Span.close, hclose]
    exact (rests_of_focusFirst_error hexpansions hfocus config.maxDepth).eq_of_unclosed hopen hclose
  · rcases hends with ⟨hyes, output, hresult⟩ | ⟨hyes, hresult⟩ | ⟨hno, -, hrests⟩
    · exact iff_of_true ⟨output, (changed_iff_of_math hresult).1 rfl, hresult⟩ hyes
    · refine iff_of_false ?_ fun h => h.not_exhausts hyes
      rintro ⟨output, -, hchanged⟩
      rw [hresult] at hchanged
      cases hchanged
    · refine iff_of_false ?_ hno
      rintro ⟨output, -, hchanged⟩
      exact hrests.ne.1 output hchanged
  · intro depth
    rcases hends with ⟨hyes, output, hresult⟩ | ⟨hyes, hresult⟩ | ⟨-, hno, hrests⟩
    · rw [hresult]
      exact iff_of_false (by simp) fun h => hyes.not_exhausts h.2
    · rw [hresult, Except.error.injEq, ScriptError.recursionLimit.injEq, eq_comm]
      exact ⟨fun h => ⟨h, hyes⟩, fun h => h.1⟩
    · exact iff_of_false (hrests.ne.2 depth) fun h => hno h.2
  · intro span hfocus hadvances hexhausts
    rcases hends with ⟨hyes, -⟩ | ⟨hyes, -⟩ | ⟨-, -, hrests⟩
    · exact absurd hyes hadvances
    · exact absurd hyes hexhausts
    · exact hrests.eq_of_focusFirst hfocus

/-- Two spans inside each other, of which the inner one evaluates. It does within two levels, and
with one level the limit on nesting is reported. -/
theorem math_outcome_nested :
    AddsNoBrace (Resolver.boundBraces Expr.evaluate) ∧
    (∃ output, output ≠ "\x7b!\x7btrue\x7d\x7d".toList ∧
      math (Resolver.boundBraces Expr.evaluate) ⟨1, 1, 1, false⟩ 0
        "\x7b!\x7btrue\x7d\x7d".toList = .ok ⟨true, output⟩) ∧
    math (Resolver.boundBraces Expr.evaluate) ⟨1, 1, 0, false⟩ 0
      "\x7b!\x7btrue\x7d\x7d".toList = .error (.recursionLimit 0) := by
  have hadds := Resolver.addsNoBrace_boundBraces Expr.evaluate
  obtain ⟨cause, hcause⟩ :
      ∃ cause, Resolver.boundBraces Expr.evaluate "!\x7btrue\x7d".toList = .error cause :=
    exists_error_of_toOption (by decide +kernel)
  have htrue : Resolver.boundBraces Expr.evaluate "true".toList = .ok "true".toList :=
    eq_ok_of_toOption (by decide +kernel)
  have hrefused : RefusedAt (Resolver.boundBraces Expr.evaluate)
      "\x7b!\x7btrue\x7d\x7d".toList 0 := ⟨_, _, cause, rfl, rfl, hcause⟩
  have hevaluates : EvaluatesAt (Resolver.boundBraces Expr.evaluate)
      "\x7b!\x7btrue\x7d\x7d".toList 1 := ⟨_, _, _, rfl, rfl, htrue⟩
  obtain ⟨-, -, htwo, -, -⟩ := math_outcome hadds ⟨1, 1, 1, false⟩ (by decide)
    "\x7b!\x7btrue\x7d\x7d".toList
  obtain ⟨-, -, -, hone, -⟩ := math_outcome hadds ⟨1, 1, 0, false⟩ (by decide)
    "\x7b!\x7btrue\x7d\x7d".toList
  refine ⟨hadds, htwo.2 ⟨1, le_rfl, hevaluates, ?_⟩, (hone 0).2 ⟨rfl, ?_⟩⟩
  · intro outer hlt
    rwa [Nat.lt_one_iff.1 hlt]
  · intro count hle
    rwa [Nat.le_zero.1 hle]

end Rewrite

end MapScript
