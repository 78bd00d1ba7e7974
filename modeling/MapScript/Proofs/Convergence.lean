/-
Expressions alone always come to an end.

The measure is the number of opening braces, escaped or not. A span that is replaced loses the
brace it begins with, and its value has no more braces than its inside had
(`Rewrite.AddsNoBrace`), whatever the value does to the escapes of the rest. A new inside that is
put back between its braces has fewer braces than the old one by the same argument. So one call
of the math strategy leaves a text without expressions as it is or takes a brace away
(`eq_or_count_lt_of_math`).

Without variables and functions a pass is such a call, so a run changes its text at most as many
times as there are braces in it (`settlesAt_of_addsNoBrace`). The other limit, the one on the
replacements of a pass, ends a run only where it allows no replacement at all, because a run that
has made one keeps it (`of_math_eq_didNotConverge`).
-/
import MapScript.Proofs.Rewriting
import MapScript.Proofs.Nesting
import MapScript.Proofs.Resolution

set_option autoImplicit false

namespace MapScript

/-! ## The measure -/

/-- The number of opening braces of a text, escaped or not. -/
def Text.braces (text : Text) : Nat := text.count '\x7b'

/-- **An evaluator that adds no brace:** a value has at most as many as its expression. -/
def Rewrite.AddsNoBrace (evaluate : Rewrite.Evaluator) : Prop :=
  ∀ expression value, evaluate expression = .ok value → value.braces ≤ expression.braces

namespace Span

/-- The braces of a text with a text in the place of a span. -/
theorem braces_splice (span : Span) (replacement : Text) :
    Text.braces (span.splice replacement) =
      span.before.braces + replacement.braces + span.after.braces := by
  simp only [splice, Text.braces, List.count_append]

/-- The braces of a text with an inside put back. -/
theorem braces_rewrap {text : Text} {span : Span}
    (hfocus : focusFirst text '\x7b' '\x7d' = .ok span) (inner : Text) :
    Text.braces (span.rewrap inner) =
      span.before.braces + inner.braces + span.after.braces + 1 := by
  obtain ⟨-, -, hlead, hopening, hclosing⟩ := rewrap_inside_of_focusFirst (by decide) hfocus
  simp only [rewrap, hlead, hopening, hclosing, Text.braces, List.count_append, List.count_cons,
    List.count_nil, beq_self_eq_true, if_true, Char.reduceBEq, Bool.false_eq_true, if_false]
  omega

/-- A brace that is not escaped is a brace. -/
theorem braces_pos_of_hasUnescaped {text : Text} (h : hasUnescaped '\x7b' text = true) :
    0 < text.braces := by
  obtain ⟨before, rest, rfl, -⟩ := (hasUnescaped_iff (by decide)).1 h
  exact List.count_pos_iff.2 (by simp)

end Span

namespace Rewrite

variable {evaluate : Evaluator} {config : Config}

/-! ## One call of the strategy -/

/-- **A value takes the brace of its span away.** -/
theorem braces_splice_lt (h : AddsNoBrace evaluate) {text value : Text} {span : Span}
    (hfocus : Span.focusFirst text '\x7b' '\x7d' = .ok span)
    (hvalue : evaluate span.inside = .ok value) :
    Text.braces (span.splice value) < text.braces := by
  obtain ⟨hwhole, -⟩ := Span.rewrap_inside_of_focusFirst (by decide) hfocus
  have hadds := h span.inside value hvalue
  rw [← hwhole, Span.braces_rewrap hfocus, Span.braces_splice]
  omega

/-- What becomes of a text has fewer braces, or it is the text. -/
theorem output_eq_or_braces_lt (h : AddsNoBrace evaluate) {depth : Nat} {input : Text}
    {rewrite : Rewrite} (hmath : math evaluate config depth input = .ok rewrite) :
    rewrite.output = input ∨ Text.braces rewrite.output < input.braces := by
  refine math_induction (P := fun text out => out = text ∨ Text.braces out < text.braces)
    (fun _ => .inl rfl) ?_ ?_ hmath
  · intro text span value out hfocus hvalue hout
    have hless := braces_splice_lt h hfocus hvalue
    right
    rcases hout with rfl | hout
    · exact hless
    · omega
  -- a new inside makes the same difference to the whole text
  · intro text span inner hfocus hinner
    obtain ⟨hwhole, -⟩ := Span.rewrap_inside_of_focusFirst (by decide) hfocus
    rcases hinner with rfl | hinner
    · exact .inl hwhole
    · right
      rw [← hwhole, Span.braces_rewrap hfocus, Span.braces_rewrap hfocus]
      omega

/-- **A call of the strategy has nothing to do, or it takes a brace away.** -/
theorem eq_or_braces_lt_of_math (h : AddsNoBrace evaluate) {depth : Nat} {input : Text}
    {rewrite : Rewrite} (hmath : math evaluate config depth input = .ok rewrite) :
    (Span.hasUnescaped '\x7b' input = false ∧ rewrite.output = input) ∨
      Text.braces rewrite.output < input.braces := by
  obtain ⟨changed, output⟩ := rewrite
  cases changed with
  | false =>
    have hkept : output = input := output_eq_of_exact (changed_iff_of_math hmath) rfl
    exact .inl ⟨hasUnescaped_of_math hmath, hkept⟩
  | true =>
    have hne : output ≠ input := (changed_iff_of_math hmath).1 rfl
    exact .inr ((output_eq_or_braces_lt h hmath).resolve_left hne)

/-! ## The limit on replacements -/

/-- A run over the spans of a text adds no brace. -/
theorem braces_evaluateSpans_le (h : AddsNoBrace evaluate) (limit budget : Nat) (text : Text) :
    Text.braces (evaluateSpans evaluate limit budget text).text ≤ text.braces := by
  refine evaluateSpans_induction (P := fun text out => Text.braces out ≤ text.braces)
    (fun _ => le_rfl) ?_ limit budget text
  intro text span value out hfocus hvalue hout
  have hless := braces_splice_lt h hfocus hvalue
  omega

/-- A run that the limit stops has changed the text, unless it may make no replacement. -/
theorem of_evaluateSpans_didNotConverge (h : AddsNoBrace evaluate) {limit budget bound : Nat}
    {text reached : Text}
    (hstop : (evaluateSpans evaluate limit budget text).stop =
      .failed (.didNotConverge bound reached))
    (hsame : (evaluateSpans evaluate limit budget text).text = text) :
    bound = limit ∧ budget = 0 ∧ Span.hasUnescaped '\x7b' text = true := by
  cases budget with
  | zero =>
    rw [evaluateSpans] at hstop
    split at hstop
    · rename_i hspan
      simp only [Stop.failed.injEq, ScriptError.didNotConverge.injEq] at hstop
      exact ⟨hstop.1.symm, rfl, hspan⟩
    · cases hstop
  | succ budget =>
    exfalso
    rw [evaluateSpans] at hstop hsame
    split at hstop
    · rename_i hspan
      rw [if_pos hspan] at hsame
      split at hstop
      · rename_i error hfocus
        -- this is the error of a bracket and not of the limit
        rw [Span.eq_of_focusFirst_eq_error hfocus] at hstop
        cases hstop
      · rename_i span hfocus
        rw [hfocus] at hsame
        dsimp only at hsame
        split at hstop
        · rename_i value hvalue
          rw [hvalue] at hsame
          have hless := braces_splice_lt h hfocus hvalue
          have hle := braces_evaluateSpans_le h limit budget (span.splice value)
          rw [hsame] at hle
          omega
        · cases hstop
    · cases hstop

/-- **The limit on replacements ends a call of the strategy only where it allows none.** -/
theorem of_math_eq_didNotConverge (h : AddsNoBrace evaluate) {depth bound : Nat}
    {input reached : Text}
    (hmath : math evaluate config depth input = .error (.didNotConverge bound reached)) :
    bound = 0 ∧ config.maxExpansions = 0 ∧ 0 < input.braces := by
  rw [math] at hmath
  cases hlevels : config.levelsAt depth with
  | zero => rw [hlevels] at hmath; cases hmath
  | succ levels =>
    rw [hlevels, mathWithin] at hmath
    split at hmath
    · rename_i result hverdict
      rw [hmath] at hverdict
      obtain ⟨hsame, hstop⟩ := Run.of_verdict_settled_error hverdict
      obtain ⟨rfl, hzero, hspan⟩ := of_evaluateSpans_didNotConverge h hstop hsame
      exact ⟨hzero, hzero, Span.braces_pos_of_hasUnescaped hspan⟩
    · rename_i span error hverdict
      obtain ⟨-, hstop⟩ := Run.of_verdict_narrow hverdict
      obtain ⟨-, cause, -, rfl⟩ := of_evaluateSpans_failedIn hstop
      -- neither the error of the span nor the limit on nesting is the one on replacements
      rcases Span.of_recover_eq_error hmath with herror | ⟨limit, -, herror⟩
      · cases herror
      · cases herror

end Rewrite

/-! ## Passes without variables and functions -/

namespace Resolver

variable {resolver : Resolver Id}

/-- Without variables and functions a pass is one call of the strategy. -/
theorem passOver_of_empty (hregistry : resolver.registry.entries = []) (text : Text) :
    resolver.passOver ⟨[], []⟩ text =
      Progress.apply ⟨text, none⟩
        (Rewrite.math resolver.evaluate resolver.config 0 text) := by
  obtain ⟨s, e, hs, he, hpass⟩ := resolver.passOf_eq ⟨[], []⟩ ⟨text, none⟩
  rw [substitution_of_empty] at hs
  have hsame : s = ⟨text, none⟩ := hs
  rw [hsame] at he
  rw [passOver, hpass, calls_of_empty hregistry, he]
  rfl

/-- The one error that a text can have is that of the strategy. -/
theorem lastFailure_of_empty (hregistry : resolver.registry.entries = []) {text : Text}
    {error : ScriptError} (h : resolver.lastFailure ⟨[], []⟩ text = some error) :
    Rewrite.math resolver.evaluate resolver.config 0 text = .error error := by
  rw [lastFailure, calls_of_empty hregistry, substitution_of_empty] at h
  dsimp only [Id.run_pure] at h
  split at h
  · rename_i cause hmath
    rw [hmath, Option.some.inj h]
  · cases h

/-- A pass that changes the text takes a brace away. -/
theorem braces_textAfter_succ_lt (hadds : Rewrite.AddsNoBrace resolver.evaluate)
    (hregistry : resolver.registry.entries = []) {input : Text} {n : Nat}
    (hne : resolver.textAfter ⟨[], []⟩ input (n + 1) ≠ resolver.textAfter ⟨[], []⟩ input n) :
    Text.braces (resolver.textAfter ⟨[], []⟩ input (n + 1)) <
      Text.braces (resolver.textAfter ⟨[], []⟩ input n) := by
  rw [textAfter_succ, passOver_of_empty hregistry] at hne ⊢
  rcases Progress.apply_cases ⟨resolver.textAfter ⟨[], []⟩ input n, none⟩
      (Rewrite.math resolver.evaluate resolver.config 0 (resolver.textAfter ⟨[], []⟩ input n)) with
    ⟨output, hmath, happly⟩ | ⟨output, -, happly⟩ | ⟨error, -, happly⟩
  · rw [happly] at hne ⊢
    exact (Rewrite.output_eq_or_braces_lt hadds hmath).resolve_left hne
  · rw [happly] at hne
    exact absurd rfl hne
  · rw [happly] at hne
    exact absurd rfl hne

/-- As long as each pass changes the text, each takes a brace away. -/
theorem braces_textAfter_add_le (hadds : Rewrite.AddsNoBrace resolver.evaluate)
    (hregistry : resolver.registry.entries = []) {input : Text} {n : Nat}
    (hruns : resolver.RunsOn ⟨[], []⟩ input n) :
    Text.braces (resolver.textAfter ⟨[], []⟩ input n) + n ≤ input.braces := by
  induction n with
  | zero => exact le_rfl
  | succ n ih =>
    obtain ⟨hbefore, hlast⟩ := (resolver.runsOn_succ_iff ⟨[], []⟩).1 hruns
    have hless := braces_textAfter_succ_lt hadds hregistry hlast
    have hle := ih hbefore
    omega

/-- **A run settles after at most as many passes as the text has braces.** -/
theorem settlesAt_of_addsNoBrace (hadds : Rewrite.AddsNoBrace resolver.evaluate)
    (hregistry : resolver.registry.entries = []) (input : Text) :
    ∃ n ≤ input.braces, resolver.SettlesAt ⟨[], []⟩ input n := by
  rcases resolver.runsOn_or_settlesAt ⟨[], []⟩ input (input.braces + 1) with
    hruns | ⟨n, hn, hsettles⟩
  · have hle := braces_textAfter_add_le hadds hregistry hruns
    omega
  · exact ⟨n, by omega, hsettles⟩

/-- **What does not converge is stopped by a limit on replacements that allows none.** -/
theorem of_resolveWith_eq_didNotConverge (hadds : Rewrite.AddsNoBrace resolver.evaluate)
    (hregistry : resolver.registry.entries = []) {input : Text}
    (hpasses : input.braces < resolver.config.maxPasses) {lenient : Bool} {limit : Nat}
    {reached : Text}
    (h : (resolver.resolveWith lenient ⟨[], []⟩ input).run =
      .error (.didNotConverge limit reached)) :
    limit = 0 ∧ resolver.config.maxExpansions = 0 ∧ 0 < input.braces := by
  obtain ⟨n, hn, hsettles⟩ := settlesAt_of_addsNoBrace hadds hregistry input
  obtain ⟨htext, htied⟩ := passOver_of_settlesAt hsettles
  rw [resolveWith_of_settlesAt lenient hsettles (by omega)] at h
  have hpending : (resolver.passOver ⟨[], []⟩ (resolver.textAfter ⟨[], []⟩ input n)).pending =
      some (.didNotConverge limit reached) := Progress.pending_of_result_eq_error h
  have hmath := lastFailure_of_empty hregistry (htied _ hpending)
  rw [htext] at hmath
  obtain ⟨hlimit, hzero, hbraces⟩ := Rewrite.of_math_eq_didNotConverge hadds hmath
  have hle := braces_textAfter_add_le hadds hregistry hsettles.2
  exact ⟨hlimit, hzero, by omega⟩

/-- **Expressions alone always converge,** as long as no value has more braces than its
expression, whatever else the values do to the text.

A call of the math strategy leaves a text without expressions as it is or takes a brace away.
So without variables and functions a run over a text with fewer braces than there may be passes
settles, within as many passes as there are braces; it never runs out of passes. If it may also
make as many replacements in a pass as the text has braces, no limit on steps is reached at
all. -/
theorem math_converges (resolver : Resolver Id) (hadds : Rewrite.AddsNoBrace resolver.evaluate) :
    (∀ depth input rewrite,
      Rewrite.math resolver.evaluate resolver.config depth input = .ok rewrite →
        (Span.hasUnescaped '\x7b' input = false ∧ rewrite.output = input) ∨
          Text.braces rewrite.output < input.braces) ∧
    (resolver.registry.entries = [] → ∀ input : Text,
      input.braces < resolver.config.maxPasses →
        (∃ n ≤ input.braces, resolver.SettlesAt ⟨[], []⟩ input n) ∧
        (∀ reached, (resolver.resolve ⟨[], []⟩ input).run ≠
          .error (.didNotConverge resolver.config.maxPasses reached)) ∧
        (input.braces ≤ resolver.config.maxExpansions → ∀ limit reached,
          (resolver.resolve ⟨[], []⟩ input).run ≠ .error (.didNotConverge limit reached))) := by
  refine ⟨fun depth input rewrite hmath => Rewrite.eq_or_braces_lt_of_math hadds hmath, ?_⟩
  intro hregistry input hpasses
  refine ⟨settlesAt_of_addsNoBrace hadds hregistry input, ?_, ?_⟩
  · intro reached hresult
    obtain ⟨hlimit, -⟩ := of_resolveWith_eq_didNotConverge hadds hregistry hpasses hresult
    omega
  · intro hexpansions limit reached hresult
    obtain ⟨-, hzero, hbraces⟩ :=
      of_resolveWith_eq_didNotConverge hadds hregistry hpasses hresult
    omega

/-- An evaluator that is held to the bound: a value with more braces than its expression is
refused. -/
def boundBraces (evaluate : Rewrite.Evaluator) : Rewrite.Evaluator := fun expression =>
  match evaluate expression with
  | .ok value => if value.braces ≤ expression.braces then .ok value else .error .missingOperator
  | .error cause => .error cause

/-- An evaluator that is held to the bound adds no brace. -/
theorem addsNoBrace_boundBraces (evaluate : Rewrite.Evaluator) :
    Rewrite.AddsNoBrace (boundBraces evaluate) := by
  intro expression value hvalue
  rw [boundBraces] at hvalue
  split at hvalue
  · split at hvalue
    · rename_i hle
      rwa [← Except.ok.inj hvalue]
    · cases hvalue
  · cases hvalue

/-- A span inside a span and an unfinished one after them, under limits that are as low as they
can be. The bound on braces refuses none of the values that are met here. -/
theorem math_converges_nested :
    Rewrite.AddsNoBrace (boundBraces Expr.evaluate) ∧
    (boundBraces Expr.evaluate "true".toList).toOption = some "true".toList ∧
    (boundBraces Expr.evaluate "!true".toList).toOption = some "false".toList ∧
    (∃ n ≤ 3, Resolver.SettlesAt ⟨(.empty : Registry Id), ⟨4, 3, 1, false⟩,
      boundBraces Expr.evaluate⟩ ⟨[], []⟩ "\x7b!\x7btrue\x7d\x7d \x7b".toList n) ∧
    ∀ limit reached, (Resolver.resolve ⟨(.empty : Registry Id), ⟨4, 3, 1, false⟩,
      boundBraces Expr.evaluate⟩ ⟨[], []⟩ "\x7b!\x7btrue\x7d\x7d \x7b".toList).run ≠
        .error (.didNotConverge limit reached) := by
  have hadds := addsNoBrace_boundBraces Expr.evaluate
  obtain ⟨hsettles, -, hresult⟩ :=
    (math_converges ⟨(.empty : Registry Id), ⟨4, 3, 1, false⟩, boundBraces Expr.evaluate⟩
      hadds).2 rfl "\x7b!\x7btrue\x7d\x7d \x7b".toList (by decide)
  exact ⟨hadds, by decide +kernel, by decide +kernel, hsettles, hresult (by decide)⟩

end Resolver

end MapScript
