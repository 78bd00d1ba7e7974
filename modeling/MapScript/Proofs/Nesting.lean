/-
Expressions inside expressions.

The program never evaluates the innermost expression first. It tries the first span of
braces as a whole; where that fails it looks inside, keeps what it has evaluated there, puts
it back between the braces and leaves the rest to later passes. The argument of this file is
that this comes to the same as evaluating from the inside out.

A text with spans is a tree (`Nested`), and one evaluation of a span that holds no other span
is a step from one tree to another (`Nested.Step`). A step takes one span away, makes nothing
deeper and keeps the value that the text has when it is evaluated from the inside out. Where
the evaluator refuses every text in which a span is left (`Nested.InnermostFirst`), one call
of the math strategy makes at least one step (`mathWithin_render`), whatever the shape of the
tree, because it stops only behind a step or by going into a span. So each pass takes a span
away until none is left, and the last text is the value (`resolve_render`).
-/
import MapScript.Proofs.Balance
import MapScript.Proofs.Rewriting
import MapScript.Resolver
import Mathlib.Logic.Relation

set_option autoImplicit false

namespace MapScript

open Relation (ReflTransGen TransGen)

/-! ## Texts without braces -/

/-- A text without braces and backslashes. -/
def Text.Plain (text : Text) : Prop :=
  ∀ c ∈ text, c ≠ '\x7b' ∧ c ≠ '\x7d' ∧ c ≠ '\\'

instance (text : Text) : Decidable text.Plain :=
  List.decidableBAll (fun c => c ≠ '\x7b' ∧ c ≠ '\x7d' ∧ c ≠ '\\') text

namespace Text.Plain

/-- Two plain texts are a plain one together. -/
theorem append {left right : Text} (hleft : left.Plain) (hright : right.Plain) :
    Text.Plain (left ++ right) :=
  List.forall_mem_append.2 ⟨hleft, hright⟩

/-- A plain text has no brace. -/
theorem count_eq_zero {text : Text} (h : text.Plain) : text.count '\x7b' = 0 :=
  List.count_eq_zero.2 fun hmem => (h _ hmem).1 rfl

end Text.Plain

namespace Span

/-- A plain text has no opening brace and leaves nothing escaped. -/
theorem splitUnescaped_of_plain {text : Text} (h : text.Plain) :
    splitUnescaped '\x7b' false text = none ∧ escapedAfter false text = false :=
  splitUnescaped_of_free fun c hc => ⟨(h c hc).1, (h c hc).2.2⟩

/-- So it has no span. -/
theorem hasUnescaped_of_plain {text : Text} (h : text.Plain) : hasUnescaped '\x7b' text = false :=
  hasUnescaped_of_free fun c hc => ⟨(h c hc).1, (h c hc).2.2⟩

end Span

/-! ## Ways of rewriting that have nothing to do -/

namespace Rewrite

variable {evaluate : Evaluator}

/-- A call of the strategy leaves a plain text as it is. -/
theorem math_of_plain {config : Config} {text : Text} (h : text.Plain) :
    math evaluate config 0 text = .ok ⟨false, text⟩ := by
  have hnone := Span.hasUnescaped_of_plain h
  rw [math, Config.levelsAt_zero, mathWithin, evaluateSpans_of_none hnone, Run.verdict_finished]

end Rewrite

namespace Resolver

variable {m : Type → Type} [Monad m] [LawfulMonad m] {resolver : Resolver m}

/-- Without variables the substitution leaves every text as it is. -/
theorem substitution_of_empty (config : Config) (text : Text) :
    Rewrite.substitution config ⟨[], []⟩ text = .ok ⟨false, text⟩ := by
  simp [Rewrite.substitution, Scope.toList, Rewrite.substituteAll, Except.map, Rewrite.compare]

/-- Without functions the calls leave every text as it is. -/
theorem calls_of_empty (hregistry : resolver.registry.entries = []) (text : Text) :
    Rewrite.calls resolver.registry resolver.config 0 text = pure (.ok ⟨false, text⟩) := by
  rw [Rewrite.calls, Config.levelsAt_zero, Rewrite.callsWithin, hregistry, Rewrite.invokeAll,
    pure_bind, Run.verdict_finished]

/-- A result without an error is taken up, and nothing is pending. -/
theorem Progress.apply_ok {text output : Text} {changed : Bool}
    (h : changed = false → output = text) :
    Progress.apply ⟨text, none⟩ (.ok ⟨changed, output⟩) = ⟨output, none⟩ := by
  cases changed with
  | false => rw [h rfl, apply, if_neg Bool.false_ne_true]
  | true => rw [apply, if_pos rfl]

/-- A pass without variables evaluates the expressions and makes the calls. -/
theorem pass_of_rewrites {text middle output : Text} {evaluated called : Bool}
    (hmath : Rewrite.math resolver.evaluate resolver.config 0 text = .ok ⟨evaluated, middle⟩)
    (hcalls : Rewrite.calls resolver.registry resolver.config 0 middle =
      pure (.ok ⟨called, output⟩)) (hkept : called = false → output = middle) :
    resolver.pass ⟨[], []⟩ ⟨text, none⟩ = pure ⟨output, none⟩ := by
  have hflag := Rewrite.output_eq_of_exact (Rewrite.changed_iff_of_math hmath)
  have hsubstituted : Progress.apply ⟨text, none⟩
      (Rewrite.substitution resolver.config ⟨[], []⟩ text) = ⟨text, none⟩ := by
    rw [substitution_of_empty]
    rfl
  have hevaluated : Progress.apply ⟨text, none⟩
      (Rewrite.math resolver.evaluate resolver.config 0 text) = ⟨middle, none⟩ := by
    rw [hmath, Progress.apply_ok hflag]
  simp only [pass, hsubstituted, hevaluated, hcalls, pure_bind, Progress.apply_ok hkept]

end Resolver

/-! ## Texts with nested spans -/

/-- **A text with spans of braces** around such texts: it has no span, or there is a first
one, with a text before it, an inside and the rest after it. -/
inductive Nested where
  | literal (text : Text)
  | span (before : Text) (inside after : Nested)

namespace Nested

/-- The text. -/
def render : Nested → Text
  | literal text => text
  | span before inside after => before ++ '\x7b' :: (inside.render ++ '\x7d' :: after.render)

/-- The number of spans, at all depths. -/
def spans : Nested → Nat
  | literal _ => 0
  | span _ inside after => inside.spans + 1 + after.spans

/-- How deep spans are nested. -/
def depth : Nested → Nat
  | literal _ => 0
  | span _ inside after => max (inside.depth + 1) after.depth

/-- Whether the pieces between the braces are plain. -/
def Plain : Nested → Prop
  | literal text => text.Plain
  | span before inside after => before.Plain ∧ inside.Plain ∧ after.Plain

/-- The same spans with a text put before them. -/
def prepend (text : Text) : Nested → Nested
  | literal rest => literal (text ++ rest)
  | span before inside after => span (text ++ before) inside after

/-- **The text in which each outermost span is replaced by its value,** where the value of a
span is that of its inside, evaluated in the same way before. -/
def value (evaluate : Rewrite.Evaluator) : Nested → Except Expr.Error Text
  | literal text => .ok text
  | span before inside after => do
    let text ← inside.value evaluate
    let result ← evaluate text
    let rest ← after.value evaluate
    .ok (before ++ result ++ rest)

@[simp] theorem render_prepend (text : Text) (nested : Nested) :
    (nested.prepend text).render = text ++ nested.render := by
  cases nested <;> simp [prepend, render]

@[simp] theorem spans_prepend (text : Text) (nested : Nested) :
    (nested.prepend text).spans = nested.spans := by
  cases nested <;> rfl

@[simp] theorem depth_prepend (text : Text) (nested : Nested) :
    (nested.prepend text).depth = nested.depth := by
  cases nested <;> rfl

theorem value_prepend (evaluate : Rewrite.Evaluator) (text : Text) (nested : Nested) :
    (nested.prepend text).value evaluate = (nested.value evaluate).map (text ++ ·) := by
  cases nested with
  | literal rest => rfl
  | span before inside after =>
    simp only [prepend, value, bind, Except.bind]
    cases inside.value evaluate with
    | error error => rfl
    | ok inner =>
      cases hresult : evaluate inner with
      | error error => simp [Except.map, hresult]
      | ok result => cases after.value evaluate <;> simp [Except.map, hresult]

/-! ### Braces of the text -/

/-- As many opening braces as spans. -/
theorem count_render {nested : Nested} (h : nested.Plain) :
    nested.render.count '\x7b' = nested.spans := by
  induction nested with
  | literal text => exact Text.Plain.count_eq_zero h
  | span before inside after ihInside ihAfter =>
    obtain ⟨hbefore, hinside, hafter⟩ := h
    simp only [render, spans, List.count_append, List.count_cons, hbefore.count_eq_zero,
      ihInside hinside, ihAfter hafter]
    simp
    omega

/-- **A text with spans closes what it opens.** -/
theorem balanced_render {nested : Nested} (h : nested.Plain) :
    Span.Balanced '\x7b' '\x7d' nested.render := by
  induction nested with
  | literal text => exact .of_free h
  | span before inside after ihInside ihAfter =>
    obtain ⟨hbefore, hinside, hafter⟩ := h
    have hspan := (ihInside hinside).enclose .braces
    have hrest := hspan.append (ihAfter hafter)
    rw [render]
    simpa using (Span.Balanced.of_free hbefore).append hrest

/-- **The first span is the one that is focused.** -/
theorem focusFirst_render {before : Text} {inside after : Nested} (hbefore : before.Plain)
    (hinside : inside.Plain) :
    Span.focusFirst (span before inside after).render '\x7b' '\x7d' =
      .ok ⟨before, [], inside.render, after.render, '\x7b', '\x7d'⟩ := by
  obtain ⟨hnone, hescaped⟩ := Span.splitUnescaped_of_plain hbefore
  exact Span.focusFirst_of_balanced .braces hnone hescaped (balanced_render hinside) _

/-! ## Evaluation from the inside out -/

/-- **One evaluation:** a span that holds no other span is replaced by its value. -/
inductive Step (evaluate : Rewrite.Evaluator) : Nested → Nested → Prop where
  | evaluated {text value : Text} (hvalue : evaluate text = .ok value) (before : Text)
      (after : Nested) :
      Step evaluate (span before (literal text) after) (after.prepend (before ++ value))
  | inside {inside inside' : Nested} (h : Step evaluate inside inside') (before : Text)
      (after : Nested) : Step evaluate (span before inside after) (span before inside' after)
  | after {after after' : Nested} (h : Step evaluate after after') (before : Text)
      (inside : Nested) : Step evaluate (span before inside after) (span before inside after')

/-- **The evaluator works from the inside out.** It gives every span a plain value once all
spans inside it are replaced by theirs, and refuses each text that some evaluations inside it
lead to as long as a span is left. -/
inductive InnermostFirst (evaluate : Rewrite.Evaluator) : Nested → Prop where
  | literal {text : Text} (plain : text.Plain) : InnermostFirst evaluate (literal text)
  | span {before text value : Text} {inside after : Nested} (hbefore : before.Plain)
      (hinside : InnermostFirst evaluate inside) (hafter : InnermostFirst evaluate after)
      (htext : inside.value evaluate = .ok text) (hvalue : evaluate text = .ok value)
      (hplain : value.Plain)
      (hrefuses : ∀ unfinished, ReflTransGen (Step evaluate) inside unfinished →
        0 < unfinished.spans → ∃ cause, evaluate unfinished.render = .error cause) :
      InnermostFirst evaluate (span before inside after)

variable {evaluate : Rewrite.Evaluator} {nested nested' : Nested}

namespace Step

/-- An evaluation takes one span away. -/
theorem spans_eq (h : Step evaluate nested nested') : nested'.spans + 1 = nested.spans := by
  induction h with
  | evaluated hvalue before after =>
    rw [spans_prepend, spans, spans]
    omega
  | inside h before after ih =>
    rw [spans, spans]
    omega
  | after h before inside ih =>
    rw [spans, spans]
    omega

/-- An evaluation makes nothing deeper. -/
theorem depth_le (h : Step evaluate nested nested') : nested'.depth ≤ nested.depth := by
  induction h with
  | evaluated hvalue before after =>
    rw [depth_prepend, depth]
    exact le_max_right _ _
  | inside h before after ih =>
    rw [depth, depth]
    omega
  | after h before inside ih =>
    rw [depth, depth]
    omega

/-- An evaluation keeps the value of the text. -/
theorem value_eq (h : Step evaluate nested nested') :
    nested'.value evaluate = nested.value evaluate := by
  induction h with
  | evaluated hvalue before after =>
    rw [value_prepend, value, value]
    cases after.value evaluate <;> simp [bind, Except.bind, Except.map, hvalue]
  | inside h before after ih => rw [value, value, ih]
  | after h before inside ih => rw [value, value, ih]

end Step

namespace InnermostFirst

/-- Its pieces are plain. -/
theorem plain (h : InnermostFirst evaluate nested) : nested.Plain := by
  induction h with
  | literal plain => exact plain
  | span hbefore _ _ _ _ _ _ ihInside ihAfter => exact ⟨hbefore, ihInside, ihAfter⟩

/-- A plain text may be put before it. -/
theorem prepend {text : Text} (htext : text.Plain) (h : InnermostFirst evaluate nested) :
    InnermostFirst evaluate (nested.prepend text) := by
  cases h with
  | literal plain => exact .literal (htext.append plain)
  | span hbefore hinside hafter hvalue hresult hplain hrefuses =>
    exact .span (htext.append hbefore) hinside hafter hvalue hresult hplain hrefuses

/-- **What holds of a text holds of it after an evaluation:** what the inside leads to
afterwards it has led to before. -/
theorem step (h : InnermostFirst evaluate nested) (hstep : Step evaluate nested nested') :
    InnermostFirst evaluate nested' := by
  induction hstep with
  | @evaluated text value hvalue before after =>
    cases h with
    | span hbefore _ hafter htext hvalue' hplain _ =>
      rw [Nested.value, Except.ok.injEq] at htext
      rw [← htext, hvalue, Except.ok.injEq] at hvalue'
      rw [← hvalue'] at hplain
      exact hafter.prepend (hbefore.append hplain)
  | inside hinner before after ih =>
    cases h with
    | span hbefore hinside hafter htext hvalue hplain hrefuses =>
      refine .span hbefore (ih hinside) hafter ?_ hvalue hplain ?_
      · rw [hinner.value_eq, htext]
      · intro unfinished hreach hspans
        exact hrefuses unfinished (.head hinner hreach) hspans
  | after hlater before inside ih =>
    cases h with
    | span hbefore hinside hafter htext hvalue hplain hrefuses =>
      exact .span hbefore hinside (ih hafter) htext hvalue hplain hrefuses

/-- **What one or more evaluations do:** they take spans away, make nothing deeper and keep
the value. -/
theorem steps (h : InnermostFirst evaluate nested)
    (hsteps : TransGen (Step evaluate) nested nested') :
    InnermostFirst evaluate nested' ∧ nested'.spans < nested.spans ∧
      nested'.depth ≤ nested.depth ∧ nested'.value evaluate = nested.value evaluate := by
  induction hsteps with
  | single hstep =>
    have hspans := hstep.spans_eq
    exact ⟨h.step hstep, by omega, hstep.depth_le, hstep.value_eq⟩
  | tail _ hstep ih =>
    obtain ⟨hmid, hspans, hdepth, hvalue⟩ := ih
    have hfewer := hstep.spans_eq
    exact ⟨hmid.step hstep, by omega, hstep.depth_le.trans hdepth, hstep.value_eq.trans hvalue⟩

/-- **The first span is evaluated or refused:** it is evaluated if it holds no other span,
which is a step, and refused if it does. -/
theorem first_span {before : Text} {inside after : Nested}
    (h : InnermostFirst evaluate (.span before inside after)) :
    (∃ value, evaluate inside.render = .ok value ∧
      Step evaluate (.span before inside after) (after.prepend (before ++ value))) ∨
    (0 < inside.spans ∧ ∃ cause, evaluate inside.render = .error cause) := by
  cases h with
  | @span _ text value _ _ _ _ _ htext hvalue _ hrefuses =>
    cases inside with
    | literal inner =>
      rw [Nested.value, Except.ok.injEq] at htext
      rw [← htext] at hvalue
      exact .inl ⟨value, hvalue, .evaluated hvalue before after⟩
    | span before' inside' after' =>
      have hsome : 0 < (Nested.span before' inside' after').spans := by
        rw [spans]
        omega
      exact .inr ⟨hsome, hrefuses _ .refl hsome⟩

/-- Evaluations that take no span away are none. -/
theorem eq_of_spans_le (h : InnermostFirst evaluate nested)
    (hreach : ReflTransGen (Step evaluate) nested nested') (hle : nested.spans ≤ nested'.spans) :
    nested' = nested := by
  rcases Relation.reflTransGen_iff_eq_or_transGen.1 hreach with heq | hsteps
  · exact heq
  · obtain ⟨-, hfewer, -, -⟩ := h.steps hsteps
    omega

/-- A span that holds no other span has only to be evaluated. -/
theorem of_literal {before text value : Text} {after : Nested} (hbefore : before.Plain)
    (htext : text.Plain) (hvalue : evaluate text = .ok value) (hplain : value.Plain)
    (hafter : InnermostFirst evaluate after) :
    InnermostFirst evaluate (.span before (.literal text) after) := by
  have hinside : InnermostFirst evaluate (.literal text) := .literal htext
  refine .span hbefore hinside hafter rfl hvalue hplain ?_
  intro unfinished hreach hspans
  rw [hinside.eq_of_spans_le hreach (Nat.zero_le _)] at hspans
  cases hspans

/-- One or more evaluations make another text. -/
theorem render_ne (h : InnermostFirst evaluate nested)
    (hsteps : TransGen (Step evaluate) nested nested') : nested'.render ≠ nested.render := by
  intro heq
  obtain ⟨hend, hspans, -, -⟩ := h.steps hsteps
  have hcount := congrArg (List.count '\x7b') heq
  rw [count_render hend.plain, count_render h.plain] at hcount
  omega

end InnermostFirst

/-! ## The math strategy -/

open Rewrite

/-- A first span that has a value is replaced by it, and the run goes on. -/
theorem evaluateSpans_of_span {before value : Text} {inside after : Nested}
    (hbefore : before.Plain) (hinside : inside.Plain)
    (hvalue : evaluate inside.render = .ok value) (limit budget : Nat) :
    evaluateSpans evaluate limit (budget + 1) (span before inside after).render =
      evaluateSpans evaluate limit budget (after.prepend (before ++ value)).render := by
  rw [evaluateSpans_of_value (focusFirst_render hbefore hinside) hvalue, Span.splice,
    render_prepend]

/-- **A run over the spans of a text makes evaluations only,** and stops behind one of
them. -/
theorem evaluateSpans_render (h : InnermostFirst evaluate nested) (limit budget : Nat) :
    ∃ nested', ReflTransGen (Step evaluate) nested nested' ∧
      (evaluateSpans evaluate limit budget nested.render).text = nested'.render := by
  induction budget generalizing nested with
  | zero =>
    refine ⟨nested, .refl, ?_⟩
    rw [evaluateSpans]
    split <;> rfl
  | succ budget ih =>
    cases nested with
    | literal text =>
      refine ⟨literal text, .refl, ?_⟩
      rw [render, evaluateSpans_of_none (Span.hasUnescaped_of_plain h.plain)]
    | span before inside after =>
      obtain ⟨hbefore, hinside, -⟩ := h.plain
      rcases h.first_span with ⟨value, hvalue, hstep⟩ | ⟨-, cause, hcause⟩
      · obtain ⟨nested', hreach, hrun⟩ := ih (h.step hstep)
        refine ⟨nested', .head hstep hreach, ?_⟩
        rw [evaluateSpans_of_span hbefore hinside hvalue, hrun]
      · refine ⟨_, .refl, ?_⟩
        rw [evaluateSpans_of_refused (focusFirst_render hbefore hinside) hcause]

/-- **One call of the strategy makes an evaluation,** as long as a span is left and the
levels reach down to the deepest one. -/
theorem mathWithin_render {config : Config} (hexpansions : 1 ≤ config.maxExpansions)
    (h : InnermostFirst evaluate nested) (hspans : 0 < nested.spans) {levels : Nat}
    (hdepth : nested.depth ≤ levels) :
    ∃ nested', TransGen (Step evaluate) nested nested' ∧
      mathWithin evaluate config levels nested.render = .ok ⟨true, nested'.render⟩ := by
  obtain ⟨budget, hbudget⟩ := Nat.exists_eq_add_of_le' hexpansions
  induction nested generalizing levels with
  | literal text => simp [spans] at hspans
  | span before inside after ihInside _ =>
    obtain ⟨hbefore, hinside, -⟩ := h.plain
    -- a span takes up one level
    rw [depth] at hdepth
    obtain ⟨levels, rfl⟩ : ∃ less, levels = less + 1 := ⟨levels - 1, by omega⟩
    rcases h.first_span with ⟨value, hvalue, hstep⟩ | ⟨hsome, cause, hcause⟩
    · -- the first span is evaluated: whatever stops the run, the text has changed
      obtain ⟨nested', hreach, hrun⟩ := evaluateSpans_render (h.step hstep) (budget + 1) budget
      have hsteps : TransGen (Step evaluate) (span before inside after) nested' :=
        .head' hstep hreach
      rw [← evaluateSpans_of_span hbefore hinside hvalue, ← hbudget] at hrun
      rw [mathWithin_of_ne (by rw [hrun]; exact h.render_ne hsteps), hrun]
      exact ⟨nested', hsteps, rfl⟩
    · -- the first span is refused: an evaluation is made inside it
      cases h with
      | span _ hinner _ _ _ _ _ =>
        obtain ⟨inside', hsteps, hmath⟩ := ihInside hinner hsome (by omega : inside.depth ≤ levels)
        refine ⟨span before inside' after, ?_, ?_⟩
        · exact hsteps.lift (fun inner => span before inner after)
            fun _ _ hinnerStep => .inside hinnerStep before after
        · rw [mathWithin_of_refused hexpansions (focusFirst_render hbefore hinside) hcause, hmath]
          simp [Span.recover, Span.rewrap, render]

/-! ## Resolution -/

section Resolution

variable {m : Type → Type} [Monad m] [LawfulMonad m] {resolver : Resolver m}

/-- Enough passes reach the value. -/
theorem passes_render (hregistry : resolver.registry.entries = [])
    (hexpansions : 1 ≤ resolver.config.maxExpansions) (lenient : Bool)
    (h : InnermostFirst resolver.evaluate nested)
    (hdepth : nested.depth ≤ resolver.config.maxDepth + 1) {remaining : Nat}
    (hspans : nested.spans < remaining) :
    ∃ out, nested.value resolver.evaluate = .ok out ∧
      resolver.passes ⟨[], []⟩ lenient remaining ⟨nested.render, none⟩ = pure (.ok out) := by
  induction remaining generalizing nested with
  | zero => omega
  | succ remaining ih =>
    cases nested with
    | literal text =>
      -- nothing is left to evaluate: this pass is the one that leaves the text as it is
      have hmath : Rewrite.math resolver.evaluate resolver.config 0 text = .ok ⟨false, text⟩ :=
        math_of_plain h.plain
      refine ⟨text, rfl, ?_⟩
      have hpass : resolver.pass ⟨[], []⟩ ⟨text, none⟩ = pure ⟨text, none⟩ :=
        Resolver.pass_of_rewrites hmath (Resolver.calls_of_empty hregistry text) fun _ => rfl
      rw [Resolver.passes, render, hpass, pure_bind, if_pos rfl]
      rfl
    | span before inside after =>
      obtain ⟨nested', hsteps, hmath⟩ :=
        mathWithin_render hexpansions h (by rw [spans]; omega) hdepth
      obtain ⟨hnext, hfewer, hdepth', hvalue⟩ := h.steps hsteps
      have hpass : resolver.pass ⟨[], []⟩ ⟨(span before inside after).render, none⟩ =
          pure ⟨nested'.render, none⟩ :=
        Resolver.pass_of_rewrites hmath (Resolver.calls_of_empty hregistry _) fun _ => rfl
      obtain ⟨out, hout, hpasses⟩ := ih hnext (hdepth'.trans hdepth) (by omega)
      refine ⟨out, hvalue.symm.trans hout, ?_⟩
      rw [Resolver.passes, hpass, pure_bind, if_neg (h.render_ne hsteps), hpasses]

/-- **Narrowing evaluates from the inside out.** A text with nested spans, of which the
evaluator gives each a plain value once the spans inside it have theirs and refuses it before,
resolves without variables and functions to the text in which each outermost span is replaced
by its innermost-first value. The levels have to reach down to the deepest span, one
replacement in a pass is enough, and so is one pass more than there are spans. -/
theorem resolve_render (resolver : Resolver m) (nested : Nested)
    (hregistry : resolver.registry.entries = [])
    (h : InnermostFirst resolver.evaluate nested)
    (hdepth : nested.depth ≤ resolver.config.maxDepth + 1)
    (hspans : nested.spans < resolver.config.maxPasses)
    (hexpansions : 1 ≤ resolver.config.maxExpansions) :
    ∃ out, nested.value resolver.evaluate = .ok out ∧
      resolver.resolve ⟨[], []⟩ nested.render = pure (.ok out) :=
  passes_render hregistry hexpansions resolver.config.lenient h hdepth hspans

end Resolution

/-! ## A text of two levels -/

/-- Two spans side by side, the first around a third, which is evaluated before it. The
levels, the passes and the replacements are as few as they can be. -/
theorem resolve_render_two_levels :
    InnermostFirst Expr.evaluate
      (.span ['a'] (.span ['!'] (.literal "true".toList) (.literal []))
        (.span ['b'] (.literal "false".toList) (.literal []))) ∧
    ∃ out,
      (span ['a'] (.span ['!'] (.literal "true".toList) (.literal []))
        (.span ['b'] (.literal "false".toList) (.literal []))).value Expr.evaluate = .ok out ∧
      (Resolver.of (.empty : Registry Id) ⟨4, 1, 1, false⟩).resolve ⟨[], []⟩
        (span ['a'] (.span ['!'] (.literal "true".toList) (.literal []))
          (.span ['b'] (.literal "false".toList) (.literal []))).render = pure (.ok out) := by
  have htrue : Expr.evaluate "true".toList = .ok "true".toList :=
    eq_ok_of_toOption (by decide +kernel)
  have hfalse : Expr.evaluate "false".toList = .ok "false".toList :=
    eq_ok_of_toOption (by decide +kernel)
  have hnot : Expr.evaluate "!true".toList = .ok "false".toList :=
    eq_ok_of_toOption (by decide +kernel)
  have hinside : InnermostFirst Expr.evaluate
      (.span ['!'] (.literal "true".toList) (.literal [])) :=
    .of_literal (by decide) (by decide) htrue (by decide) (.literal (by decide))
  have hafter : InnermostFirst Expr.evaluate
      (.span ['b'] (.literal "false".toList) (.literal [])) :=
    .of_literal (by decide) (by decide) hfalse (by decide) (.literal (by decide))
  have hvalue : (span ['!'] (.literal "true".toList) (.literal [])).value Expr.evaluate =
      .ok "!true".toList := by
    simp only [value, bind, Except.bind, htrue]
    rfl
  have hwhole : InnermostFirst Expr.evaluate
      (.span ['a'] (.span ['!'] (.literal "true".toList) (.literal []))
        (.span ['b'] (.literal "false".toList) (.literal []))) := by
    refine .span (by decide) hinside hafter hvalue hnot (by decide) ?_
    -- a text of the inside that still has its span is the inside itself
    intro unfinished hreach hspans
    rw [hinside.eq_of_spans_le hreach hspans]
    exact exists_error_of_toOption (by decide +kernel)
  exact ⟨hwhole,
    resolve_render (Resolver.of .empty ⟨4, 1, 1, false⟩) _ rfl hwhole (by decide) (by decide)
      (by decide)⟩

end Nested

end MapScript
