/-
What a resolution returns.

The run is decided by its texts (`Proofs.Passes`), and the texts depend neither on the mode
nor on the limit of passes. So the two modes differ only in what they make of an error of
the last text, and a text that has come out of a resolution comes out of it again, because
it is one that a pass leaves as it was (`passOver_of_resolveWith_eq_ok`).
-/
import MapScript.Proofs.Passes

set_option autoImplicit false

namespace MapScript

/-! ## The limit on passes -/

/-- Expressions are evaluated under the limits on replacements and nesting only. -/
theorem Rewrite.mathWithin_congr {evaluate : Evaluator} {config config' : Config}
    (hexp : config.maxExpansions = config'.maxExpansions)
    (hdepth : config.maxDepth = config'.maxDepth) (levels : Nat) (input : Text) :
    mathWithin evaluate config levels input = mathWithin evaluate config' levels input := by
  induction levels generalizing input with
  | zero => rw [mathWithin, mathWithin, hdepth]
  | succ levels ih =>
    rw [mathWithin, mathWithin, hexp]
    simp only [ih]

/-- Calls are made under the limits on replacements and nesting only. -/
theorem Rewrite.callsWithin_congr {m : Type → Type} [Monad m] {registry : Registry m}
    {config config' : Config} (hexp : config.maxExpansions = config'.maxExpansions)
    (hdepth : config.maxDepth = config'.maxDepth) (levels : Nat) (input : Text) :
    callsWithin registry config levels input = callsWithin registry config' levels input := by
  induction levels generalizing input with
  | zero => rw [callsWithin, callsWithin, hdepth]
  | succ levels ih =>
    rw [callsWithin, callsWithin, hexp]
    simp only [ih]

namespace Resolver

/-- A pass knows neither how many passes may follow nor the mode. -/
theorem pass_eq_of_limits (resolver : Resolver Id) (maxPasses : Nat) (lenient : Bool)
    (scope : Scope) (progress : Progress) :
    pass { resolver with
      config := { resolver.config with maxPasses := maxPasses, lenient := lenient } }
        scope progress = resolver.pass scope progress := by
  have hmath : ∀ levels input,
      Rewrite.mathWithin resolver.evaluate
          { resolver.config with maxPasses := maxPasses, lenient := lenient } levels input =
        Rewrite.mathWithin resolver.evaluate resolver.config levels input :=
    Rewrite.mathWithin_congr rfl rfl
  have hcalls : ∀ levels input,
      Rewrite.callsWithin resolver.registry
          { resolver.config with maxPasses := maxPasses, lenient := lenient } levels input =
        Rewrite.callsWithin resolver.registry resolver.config levels input :=
    Rewrite.callsWithin_congr rfl rfl
  rw [pass, pass]
  simp only [Rewrite.math, Rewrite.calls, hmath, hcalls]
  rfl

/-- The same resolver with another limit on passes. -/
def limitPasses {m : Type → Type} (resolver : Resolver m) (maxPasses : Nat) : Resolver m :=
  { resolver with config := { resolver.config with maxPasses := maxPasses } }

variable (resolver : Resolver Id) (scope : Scope) (maxPasses : Nat)

@[simp] theorem limitPasses_maxPasses :
    (resolver.limitPasses maxPasses).config.maxPasses = maxPasses := rfl

@[simp] theorem passOf_limitPasses :
    (resolver.limitPasses maxPasses).passOf scope = resolver.passOf scope :=
  funext fun progress =>
    congrArg Id.run
      (resolver.pass_eq_of_limits maxPasses resolver.config.lenient scope progress)

@[simp] theorem passOver_limitPasses :
    (resolver.limitPasses maxPasses).passOver scope = resolver.passOver scope := by
  funext text
  rw [passOver, passOf_limitPasses, passOver]

@[simp] theorem textAfter_limitPasses (input : Text) (n : Nat) :
    (resolver.limitPasses maxPasses).textAfter scope input n =
      resolver.textAfter scope input n := by
  rw [textAfter, after, passOf_limitPasses, textAfter, after]

@[simp] theorem runsOn_limitPasses (input : Text) (n : Nat) :
    (resolver.limitPasses maxPasses).RunsOn scope input n ↔ resolver.RunsOn scope input n := by
  simp only [RunsOn, textAfter_limitPasses]

@[simp] theorem settlesAt_limitPasses (input : Text) (n : Nat) :
    (resolver.limitPasses maxPasses).SettlesAt scope input n ↔
      resolver.SettlesAt scope input n := by
  simp only [SettlesAt, textAfter_limitPasses, runsOn_limitPasses]

variable {resolver scope}

/-- A run that settles gives the same under every limit that it settles within. -/
theorem resolveWith_limitPasses_of_settlesAt {input : Text} {n more : Nat} (lenient : Bool)
    (h : resolver.SettlesAt scope input n) (hn : n < more) :
    ((resolver.limitPasses more).resolveWith lenient scope input).run =
      (resolver.passOver scope (resolver.textAfter scope input n)).result lenient := by
  rw [resolveWith_of_settlesAt lenient ((resolver.settlesAt_limitPasses scope more input n).2 h) hn,
    passOver_limitPasses, textAfter_limitPasses]

/-! ## The two modes -/

/-- What the pass over the settled text leaves is the settled text, and its error. -/
theorem passOver_of_settlesAt {input : Text} {n : Nat} (h : resolver.SettlesAt scope input n) :
    (resolver.passOver scope (resolver.textAfter scope input n)).text =
        resolver.textAfter scope input n ∧
      resolver.Tied scope (resolver.passOver scope (resolver.textAfter scope input n)) := by
  refine ⟨?_, ?_⟩
  · rw [← textAfter_succ]
    exact h.1
  · rw [← after_succ]
    exact resolver.tied_after scope input (n + 1)

/-- **The two modes see the same texts, and a strict error is about the last one.**

Either each pass within the limit changes the text: then both modes give the text after
the last pass as one that did not converge. Or the run settles at a text: leniently this
text comes out; strictly it comes out or the error is the one that the last failing way of
rewriting gives on this very text; and no higher limit changes either result. -/
theorem resolveWith_modes_agree (resolver : Resolver Id) (scope : Scope) (input : Text) :
    (resolver.RunsOn scope input resolver.config.maxPasses ∧
      ∀ lenient, (resolver.resolveWith lenient scope input).run =
        .error (.didNotConverge resolver.config.maxPasses
          (resolver.textAfter scope input resolver.config.maxPasses))) ∨
    ∃ n < resolver.config.maxPasses, resolver.SettlesAt scope input n ∧
      (resolver.resolveWith true scope input).run = .ok (resolver.textAfter scope input n) ∧
      ((resolver.resolveWith false scope input).run = .ok (resolver.textAfter scope input n) ∨
        ∃ error, (resolver.resolveWith false scope input).run = .error error ∧
          resolver.lastFailure scope (resolver.textAfter scope input n) = some error) ∧
      ∀ lenient more, resolver.config.maxPasses ≤ more →
        ((resolver.limitPasses more).resolveWith lenient scope input).run =
          (resolver.resolveWith lenient scope input).run := by
  rcases resolver.runsOn_or_settlesAt scope input resolver.config.maxPasses with
    hruns | ⟨n, hn, hsettles⟩
  · exact .inl ⟨hruns, fun lenient => resolveWith_of_runsOn lenient hruns⟩
  · obtain ⟨htext, htied⟩ := passOver_of_settlesAt hsettles
    refine .inr ⟨n, hn, hsettles, ?_, ?_, ?_⟩
    · rw [resolveWith_of_settlesAt true hsettles hn, Progress.result_true, htext]
    · rw [resolveWith_of_settlesAt false hsettles hn]
      rcases hpending : (resolver.passOver scope (resolver.textAfter scope input n)).pending with
        _ | error
      · exact .inl (Progress.result_false_eq_ok_iff.2 ⟨hpending, htext⟩)
      · refine .inr ⟨error, ?_, ?_⟩
        · rw [Progress.result, hpending]
          rfl
        · rw [← htext]
          exact htied error hpending
    · intro lenient more hmore
      rw [resolveWith_limitPasses_of_settlesAt lenient hsettles (by omega),
        resolveWith_of_settlesAt lenient hsettles hn]

/-! ## Resolving what has been resolved -/

/-- **A text that comes out of a resolution is one that a pass leaves as it was,** with an
error only where that is good enough. -/
theorem passOver_of_resolveWith_eq_ok {lenient : Bool} {input out : Text}
    (h : (resolver.resolveWith lenient scope input).run = .ok out) :
    0 < resolver.config.maxPasses ∧ (resolver.passOver scope out).text = out ∧
      (resolver.passOver scope out).result lenient = .ok out := by
  rcases resolver.runsOn_or_settlesAt scope input resolver.config.maxPasses with
    hruns | ⟨n, hn, hsettles⟩
  · rw [resolveWith_of_runsOn lenient hruns] at h
    cases h
  · rw [resolveWith_of_settlesAt lenient hsettles hn] at h
    obtain ⟨htext, -⟩ := passOver_of_settlesAt hsettles
    have hout : resolver.textAfter scope input n = out := by
      rw [← htext]
      exact Progress.text_eq_of_result h
    rw [hout] at h htext
    exact ⟨by omega, htext, h⟩

/-- **Resolution is a projection:** in either mode, what comes out of a resolution is what
comes out when it is resolved again. -/
theorem resolveWith_idempotent (resolver : Resolver Id) (scope : Scope) (lenient : Bool)
    (input out : Text) (h : (resolver.resolveWith lenient scope input).run = .ok out) :
    (resolver.resolveWith lenient scope out).run = .ok out := by
  obtain ⟨hmax, htext, hresult⟩ := passOver_of_resolveWith_eq_ok h
  have hsettles : resolver.SettlesAt scope out 0 := by
    refine ⟨?_, fun k hk => by omega⟩
    rw [textAfter_succ, textAfter_zero, htext]
  rw [resolveWith_of_settlesAt lenient hsettles hmax, textAfter_zero, hresult]

/-- A run whose last pass changes the text and changes it back: `c` stands for `a`, and
`a` and `b` stand for each other. -/
theorem resolveWith_idempotent_after_a_cycle :
    ((Resolver.of (.empty : Registry Id) .standard).resolveWith false
        ⟨[], [⟨['c'], some ['a']⟩, ⟨['a'], some ['b']⟩, ⟨['b'], some ['a']⟩]⟩ ['c']).run =
      .ok ['a'] ∧
    ((Resolver.of (.empty : Registry Id) .standard).resolveWith false
        ⟨[], [⟨['c'], some ['a']⟩, ⟨['a'], some ['b']⟩, ⟨['b'], some ['a']⟩]⟩ ['a']).run =
      .ok ['a'] :=
  ⟨rfl, resolveWith_idempotent _ _ _ ['c'] _ rfl⟩

end Resolver

end MapScript
