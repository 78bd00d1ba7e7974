/-
How far local variables shadow global ones.

A shadowed global, one with the name of a local, should make no difference. But it is still
substituted, after the locals, and all that keeps it from being used is that the name is
gone by then. A variable that is substituted in between can bring the name back, and then
the global takes it and not the local.

The results with and without the shadowed globals are compared pass by pass. They agree
under every limit on passes and in both modes exactly when each pass over a text of the run
ends alike, and a pass can end otherwise only where a shadowed global finds its name when
its turn comes (`samePass_or_bringsBack`).
-/
import MapScript.Proofs.Resolution
import MapScript.Proofs.Rewriting

set_option autoImplicit false

namespace MapScript

/-! ## Shadowed variables -/

/-- Whether a local variable has the name of this one. The empty name is no name. -/
def Scope.shadows (scope : Scope) (var : Variable) : Bool :=
  var.name ≠ [] && scope.locals.any (·.name = var.name)

/-- The scope without the globals that are shadowed. -/
def Scope.unshadowed (scope : Scope) : Scope :=
  ⟨scope.locals, scope.globals.filter fun var => !scope.shadows var⟩

/-- **A shadowed global that finds its name in the text when its turn comes,** after the
locals and the globals before it. -/
def Scope.BringsBack (scope : Scope) (limit : Nat) (text : Text) : Prop :=
  ∃ before var after reached, scope.globals = before ++ var :: after ∧
    scope.shadows var = true ∧
    Rewrite.substituteAll limit (scope.locals ++ before) text = .ok reached ∧
    var.name <:+: reached

/-- Variables that do not find their names when their turn comes can be left out. -/
theorem Rewrite.substituteAll_filter {limit : Nat} {vars : List Variable}
    {keep : Variable → Bool} {text : Text}
    (h : ∀ before var after reached, vars = before ++ var :: after → keep var = false →
      substituteAll limit before text = .ok reached → ¬ var.name <:+: reached) :
    substituteAll limit (vars.filter keep) text = substituteAll limit vars text := by
  induction vars generalizing text with
  | nil => rfl
  | cons var rest ih =>
    -- what holds after `var` and `before` holds of the rest, once `var` is substituted
    have hrest : ∀ mid, substituteAll limit [var] text = .ok mid →
        substituteAll limit (rest.filter keep) mid = substituteAll limit rest mid := by
      intro mid hmid
      refine ih fun before other after reached hsplit hkeep hreached => ?_
      refine h (var :: before) other after reached (by rw [hsplit, List.cons_append]) hkeep ?_
      have hcons : var :: before = [var] ++ before := rfl
      rw [hcons, substituteAll_append, hmid]
      exact hreached
    have hsplit : substituteAll limit (var :: rest) text =
        (substituteAll limit [var] text).bind (substituteAll limit rest) :=
      substituteAll_append limit [var] rest text
    rw [hsplit]
    by_cases hkeep : keep var = true
    · rw [List.filter_cons_of_pos hkeep]
      have hkept : substituteAll limit (var :: rest.filter keep) text =
          (substituteAll limit [var] text).bind (substituteAll limit (rest.filter keep)) :=
        substituteAll_append limit [var] (rest.filter keep) text
      rw [hkept]
      cases hvar : substituteAll limit [var] text with
      | error error => rfl
      | ok mid => exact hrest mid hvar
    · rw [List.filter_cons_of_neg hkeep]
      have habsent := h [] var rest text rfl (by simpa using hkeep) rfl
      have hvar : substituteAll limit [var] text = .ok text := by
        rw [substituteAll, substitute_of_not_infix habsent]
        split <;> rfl
      rw [hvar]
      exact hrest text hvar

/-- **Where no shadowed global finds its name, substitution is the same without them.** -/
theorem Scope.substituteAll_unshadowed {scope : Scope} {limit : Nat} {text : Text}
    (h : ¬ scope.BringsBack limit text) :
    Rewrite.substituteAll limit scope.unshadowed.toList text =
      Rewrite.substituteAll limit scope.toList text := by
  rw [Scope.toList, Scope.toList, Scope.unshadowed, Rewrite.substituteAll_append,
    Rewrite.substituteAll_append]
  cases hlocals : Rewrite.substituteAll limit scope.locals text with
  | error error => rfl
  | ok start =>
    refine Rewrite.substituteAll_filter fun before var after reached hsplit hkeep hreached => ?_
    intro hfound
    refine h ⟨before, var, after, reached, hsplit, by simpa using hkeep, ?_, hfound⟩
    rw [Rewrite.substituteAll_append, hlocals]
    exact hreached

namespace Resolver

/-! ## Two scopes, pass by pass -/

/-- **A pass over a text ends alike in two scopes:** with the same text, and, if that is
the text it began with, with the same error. -/
def SamePass (resolver : Resolver Id) (scope scope' : Scope) (text : Text) : Prop :=
  (resolver.passOver scope text).text = (resolver.passOver scope' text).text ∧
    ((resolver.passOver scope text).text = text →
      (resolver.passOver scope text).pending = (resolver.passOver scope' text).pending)

/-- A pass is the same in two scopes that substitute alike. -/
theorem samePass_of_substituteAll {resolver : Resolver Id} {scope scope' : Scope} {text : Text}
    (h : Rewrite.substituteAll resolver.config.maxExpansions scope.toList text =
      Rewrite.substituteAll resolver.config.maxExpansions scope'.toList text) :
    resolver.SamePass scope scope' text := by
  have hsub : Rewrite.substitution resolver.config scope text =
      Rewrite.substitution resolver.config scope' text := by
    rw [Rewrite.substitution, Rewrite.substitution, h]
  have hpass : resolver.passOver scope text = resolver.passOver scope' text := by
    obtain ⟨s, e, hs, he, hp⟩ := resolver.passOf_eq scope ⟨text, none⟩
    obtain ⟨s', e', hs', he', hp'⟩ := resolver.passOf_eq scope' ⟨text, none⟩
    have hsame : s = s' := by rw [hs, hs', hsub]
    rw [passOver, passOver, hp, hp', he, he', hsame]
  exact ⟨by rw [hpass], fun _ => by rw [hpass]⟩

variable {resolver : Resolver Id} {scope scope' : Scope} {input : Text}

/-- If the passes of a run end alike, the other run goes through the same texts. -/
theorem textAfter_of_samePass
    (h : ∀ n, resolver.RunsOn scope input n →
      resolver.SamePass scope scope' (resolver.textAfter scope input n)) (n : Nat)
    (hruns : resolver.RunsOn scope input n) :
    resolver.textAfter scope' input n = resolver.textAfter scope input n ∧
      resolver.RunsOn scope' input n := by
  induction n with
  | zero => exact ⟨rfl, fun k hk => absurd hk (by omega)⟩
  | succ n ih =>
    obtain ⟨hbefore, hlast⟩ := (resolver.runsOn_succ_iff scope).1 hruns
    obtain ⟨htext, hruns'⟩ := ih hbefore
    have hnext : resolver.textAfter scope' input (n + 1) =
        resolver.textAfter scope input (n + 1) := by
      rw [textAfter_succ, textAfter_succ, htext, (h n hbefore).1]
    refine ⟨hnext, (resolver.runsOn_succ_iff scope').2 ⟨hruns', ?_⟩⟩
    rw [hnext, htext]
    exact hlast

/-- If the passes of a run end alike, so does the resolution. -/
theorem resolveWith_eq_of_samePass
    (h : ∀ n, resolver.RunsOn scope input n →
      resolver.SamePass scope scope' (resolver.textAfter scope input n))
    (maxPasses : Nat) (lenient : Bool) :
    ((resolver.limitPasses maxPasses).resolveWith lenient scope input).run =
      ((resolver.limitPasses maxPasses).resolveWith lenient scope' input).run := by
  rcases resolver.runsOn_or_settlesAt scope input maxPasses with hruns | ⟨n, hn, hsettles⟩
  · obtain ⟨htext, hruns'⟩ := textAfter_of_samePass h maxPasses hruns
    rw [resolveWith_of_runsOn lenient (by simpa using hruns),
      resolveWith_of_runsOn lenient (by simpa using hruns')]
    simp only [limitPasses_maxPasses, textAfter_limitPasses, htext]
  · obtain ⟨htext, hruns'⟩ := textAfter_of_samePass h n hsettles.2
    obtain ⟨hsame, hpending⟩ := h n hsettles.2
    have hreached := (passOver_of_settlesAt hsettles).1
    have hsettles' : resolver.SettlesAt scope' input n := by
      refine ⟨?_, hruns'⟩
      rw [textAfter_succ, htext, ← hsame, hreached]
    rw [resolveWith_limitPasses_of_settlesAt lenient hsettles hn,
      resolveWith_limitPasses_of_settlesAt lenient hsettles' hn, htext, Progress.result,
      Progress.result, hsame, hpending hreached]

/-- If two runs give the same leniently under every limit, they go through the same texts:
a limit shows the text that a run has reached, unless it has settled before. -/
theorem textAfter_of_resolveWith_eq
    (h : ∀ maxPasses,
      ((resolver.limitPasses maxPasses).resolveWith true scope input).run =
        ((resolver.limitPasses maxPasses).resolveWith true scope' input).run) (n : Nat)
    (hruns : resolver.RunsOn scope input n) :
    resolver.textAfter scope' input n = resolver.textAfter scope input n ∧
      resolver.RunsOn scope' input n := by
  have hlimit := h n
  rw [resolveWith_of_runsOn true (by simpa using hruns)] at hlimit
  rcases resolver.runsOn_or_settlesAt scope' input n with hruns' | ⟨k, hk, hsettles⟩
  · rw [resolveWith_of_runsOn true (by simpa using hruns')] at hlimit
    simp only [limitPasses_maxPasses, textAfter_limitPasses, Except.error.injEq,
      ScriptError.didNotConverge.injEq, true_and] at hlimit
    exact ⟨hlimit.symm, hruns'⟩
  · rw [resolveWith_limitPasses_of_settlesAt true hsettles hk, Progress.result_true] at hlimit
    cases hlimit

/-- Such runs settle at the same text. The other one cannot settle before, and if it went
on, it would not have converged under the next limit. -/
theorem settlesAt_of_resolveWith_eq
    (h : ∀ maxPasses,
      ((resolver.limitPasses maxPasses).resolveWith true scope input).run =
        ((resolver.limitPasses maxPasses).resolveWith true scope' input).run) {n : Nat}
    (hsettles : resolver.SettlesAt scope input n) : resolver.SettlesAt scope' input n := by
  obtain ⟨-, hruns'⟩ := textAfter_of_resolveWith_eq h n hsettles.2
  refine ⟨?_, hruns'⟩
  by_contra hgoesOn
  have hnext : resolver.RunsOn scope' input (n + 1) :=
    (resolver.runsOn_succ_iff scope').2 ⟨hruns', hgoesOn⟩
  have hlimit := h (n + 1)
  rw [resolveWith_limitPasses_of_settlesAt true hsettles (by omega), Progress.result_true,
    resolveWith_of_runsOn true (by simpa using hnext)] at hlimit
  cases hlimit

/-- If two runs give the same under every limit and in both modes, their passes end
alike. -/
theorem samePass_of_resolveWith_eq
    (h : ∀ maxPasses lenient,
      ((resolver.limitPasses maxPasses).resolveWith lenient scope input).run =
        ((resolver.limitPasses maxPasses).resolveWith lenient scope' input).run) (n : Nat)
    (hruns : resolver.RunsOn scope input n) :
    resolver.SamePass scope scope' (resolver.textAfter scope input n) := by
  have hlenient := fun maxPasses => h maxPasses true
  obtain ⟨htext, -⟩ := textAfter_of_resolveWith_eq hlenient n hruns
  by_cases hlast : resolver.textAfter scope input (n + 1) = resolver.textAfter scope input n
  · have hsettles : resolver.SettlesAt scope input n := ⟨hlast, hruns⟩
    have hsettles' := settlesAt_of_resolveWith_eq hlenient hsettles
    have hreached := (passOver_of_settlesAt hsettles).1
    have hreached' := (passOver_of_settlesAt hsettles').1
    rw [htext] at hreached'
    have hsame := hreached.trans hreached'.symm
    -- strictly, the settled text shows its error
    have hstrict := h (n + 1) false
    rw [resolveWith_limitPasses_of_settlesAt _ hsettles (by omega),
      resolveWith_limitPasses_of_settlesAt _ hsettles' (by omega), htext] at hstrict
    exact ⟨hsame, fun _ => Progress.pending_eq_of_result_false hsame hstrict⟩
  · obtain ⟨htext', -⟩ := textAfter_of_resolveWith_eq hlenient (n + 1)
      ((resolver.runsOn_succ_iff scope).2 ⟨hruns, hlast⟩)
    rw [textAfter_succ, textAfter_succ, htext] at htext'
    refine ⟨htext'.symm, fun hstable => absurd ?_ hlast⟩
    rw [textAfter_succ]
    exact hstable

/-! ## Shadowing -/

/-- A pass ends alike with and without the shadowed globals, unless one of them finds its
name. -/
theorem samePass_or_bringsBack (resolver : Resolver Id) (scope : Scope) (text : Text) :
    resolver.SamePass scope scope.unshadowed text ∨
      scope.BringsBack resolver.config.maxExpansions text := by
  by_cases hback : scope.BringsBack resolver.config.maxExpansions text
  · exact .inr hback
  · exact .inl (samePass_of_substituteAll (Scope.substituteAll_unshadowed hback).symm)

/-- **When local variables shadow global ones.** With and without the shadowed globals an
input gives the same under every limit on passes and in both modes exactly when each pass
over a text of its run ends alike; and it does, unless a shadowed global finds its name in
that text when its turn comes. -/
theorem unshadowed_iff_samePass (resolver : Resolver Id) (scope : Scope) (input : Text) :
    ((∀ maxPasses lenient,
        ((resolver.limitPasses maxPasses).resolveWith lenient scope input).run =
          ((resolver.limitPasses maxPasses).resolveWith lenient scope.unshadowed input).run) ↔
      ∀ n, resolver.RunsOn scope input n →
        resolver.SamePass scope scope.unshadowed (resolver.textAfter scope input n)) ∧
    ∀ text, resolver.SamePass scope scope.unshadowed text ∨
      scope.BringsBack resolver.config.maxExpansions text :=
  ⟨⟨samePass_of_resolveWith_eq, resolveWith_eq_of_samePass⟩,
    resolver.samePass_or_bringsBack scope⟩

/-- The global `y` brings back the name of the local `X`, and the global `X` takes it. -/
theorem shadowed_global_comes_out :
    ((Resolver.of (.empty : Registry Id) .standard).resolveWith false
        ⟨[⟨['X'], some ['9', '9']⟩], [⟨['y'], some ['X']⟩, ⟨['X'], some ['1', '0']⟩]⟩
        ['y']).run = .ok ['1', '0'] ∧
    ((Resolver.of (.empty : Registry Id) .standard).resolveWith false
        (Scope.unshadowed
          ⟨[⟨['X'], some ['9', '9']⟩], [⟨['y'], some ['X']⟩, ⟨['X'], some ['1', '0']⟩]⟩)
        ['y']).run = .ok ['9', '9'] :=
  ⟨rfl, rfl⟩

end Resolver

end MapScript
