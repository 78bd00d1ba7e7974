/-
Runs of passes over a text, for functions that draw nothing.

A pass carries two things on: the text, and an error that nothing has changed since. The
argument of this file is that the second never outlives the first. A pending error is
always the one that the last failing way of rewriting gives on the text that is there
(`Resolver.Tied`), so a pass that begins with it does what a pass without it does
(`passOf_eq_passOver`), and a run is the iteration of one function on texts.

From this the two ways in which a run ends are read off: the first text that a pass leaves
as it was decides the result (`resolveWith_of_settlesAt`), or there is no such text within
the limit (`resolveWith_of_runsOn`). Both modes see the same texts, so they can differ only
in what is made of an error at the end.
-/
import MapScript.Resolver
import Mathlib.Logic.Function.Iterate
import Mathlib.Order.Basic

set_option autoImplicit false

namespace MapScript.Resolver

/-! ## What one way of rewriting does to a text on its way -/

/-- The three things that can happen: the text is replaced, nothing happens, or an error
is noted. -/
theorem Progress.apply_cases (progress : Progress) (step : Except ScriptError Rewrite) :
    (∃ output, step = .ok ⟨true, output⟩ ∧ progress.apply step = ⟨output, none⟩) ∨
    (∃ output, step = .ok ⟨false, output⟩ ∧ progress.apply step = progress) ∨
    (∃ error, step = .error error ∧ progress.apply step = ⟨progress.text, some error⟩) := by
  match step with
  | .ok ⟨true, output⟩ => exact .inl ⟨output, rfl, rfl⟩
  | .ok ⟨false, output⟩ => exact .inr (.inl ⟨output, rfl, rfl⟩)
  | .error error => exact .inr (.inr ⟨error, rfl, rfl⟩)

/-- Where two of them have the same text, one way of rewriting makes the same of both, or
it leaves both as they are. -/
theorem Progress.apply_congr {p q : Progress} (h : p.text = q.text)
    (step : Except ScriptError Rewrite) :
    p.apply step = q.apply step ∨
      ∃ output, step = .ok ⟨false, output⟩ ∧ p.apply step = p ∧ q.apply step = q := by
  match step with
  | .ok ⟨true, output⟩ => exact .inl rfl
  | .ok ⟨false, output⟩ => exact .inr ⟨output, rfl, rfl, rfl⟩
  | .error error => exact .inl (by rw [Progress.apply, Progress.apply, h])

/-- An error that is pending afterwards concerns the text that was there: it is new, or
it was pending before and nothing has happened. -/
theorem Progress.pending_of_apply {progress : Progress} {step : Except ScriptError Rewrite}
    {error : ScriptError} (h : (progress.apply step).pending = some error) :
    (progress.apply step).text = progress.text ∧
      (step = .error error ∨
        (∃ output, step = .ok ⟨false, output⟩) ∧ progress.pending = some error) := by
  match step with
  | .ok ⟨true, output⟩ => cases h
  | .ok ⟨false, output⟩ => exact ⟨rfl, .inr ⟨⟨output, rfl⟩, h⟩⟩
  | .error new => exact ⟨rfl, .inl (congrArg Except.error (Option.some.inj h))⟩

/-- What comes out leniently is the text. -/
@[simp] theorem Progress.result_true (progress : Progress) :
    progress.result true = .ok progress.text := by
  unfold Progress.result
  split <;> rfl

/-- Strictly, the text comes out exactly when no error is pending. -/
theorem Progress.result_false_eq_ok_iff {progress : Progress} {out : Text} :
    progress.result false = .ok out ↔ progress.pending = none ∧ progress.text = out := by
  unfold Progress.result
  cases progress.pending <;> simp

/-- An error that comes out has been pending. -/
theorem Progress.pending_of_result_eq_error {progress : Progress} {lenient : Bool}
    {error : ScriptError} (h : progress.result lenient = .error error) :
    progress.pending = some error := by
  cases lenient with
  | true => simp at h
  | false =>
    obtain ⟨text, pending⟩ := progress
    cases pending with
    | none => cases h
    | some cause => exact congrArg some (Except.error.inj h)

/-- A text that comes out is the one that was reached. -/
theorem Progress.text_eq_of_result {progress : Progress} {lenient : Bool} {out : Text}
    (h : progress.result lenient = .ok out) : progress.text = out := by
  cases lenient with
  | true => simpa using h
  | false => exact (result_false_eq_ok_iff.1 h).2

/-- Strictly, two results that are the same come from the same error. -/
theorem Progress.pending_eq_of_result_false {p q : Progress} (htext : p.text = q.text)
    (h : p.result false = q.result false) : p.pending = q.pending := by
  obtain ⟨text, pending⟩ := p
  obtain ⟨text', pending'⟩ := q
  cases pending <;> cases pending' <;> simp_all [Progress.result]

/-! ## The error of a text -/

variable (resolver : Resolver Id) (scope : Scope)

/-- The error of the last failing one of the three ways of rewriting, each applied to this
very text. -/
def lastFailure (text : Text) : Option ScriptError :=
  match (Rewrite.calls resolver.registry resolver.config 0 text).run with
  | .error error => some error
  | .ok _ =>
    match Rewrite.math resolver.evaluate resolver.config 0 text with
    | .error error => some error
    | .ok _ =>
      match Rewrite.substitution resolver.config scope text with
      | .error error => some error
      | .ok _ => none

/-- **A pending error concerns the text that is there.** -/
def Tied (progress : Progress) : Prop :=
  ∀ error, progress.pending = some error →
    resolver.lastFailure scope progress.text = some error

/-- Where nothing is pending there is nothing to show. -/
theorem tied_of_pending_eq_none {progress : Progress} (h : progress.pending = none) :
    resolver.Tied scope progress := by
  intro error herror
  rw [h] at herror
  cases herror

/-! ## One pass -/

/-- One pass as a function on what is on its way. -/
def passOf (progress : Progress) : Progress := (resolver.pass scope progress).run

/-- The pass over a text with no error pending. -/
def passOver (text : Text) : Progress := resolver.passOf scope ⟨text, none⟩

/-- The three steps of a pass. -/
theorem passOf_eq (progress : Progress) :
    ∃ substituted evaluated : Progress,
      substituted =
        progress.apply (Rewrite.substitution resolver.config scope progress.text) ∧
      evaluated = substituted.apply
        (Rewrite.math resolver.evaluate resolver.config 0 substituted.text) ∧
      resolver.passOf scope progress = evaluated.apply
        (Rewrite.calls resolver.registry resolver.config 0 evaluated.text).run :=
  ⟨_, _, rfl, rfl, rfl⟩

/-- **A pass keeps the pending error tied to the text.** The error is set by one of the
three ways on the text as it then is. If a later way changes the text the error is gone;
if none does, the later ones succeed on that text, and the error is the last one. -/
theorem tied_passOf {progress : Progress} (h : resolver.Tied scope progress) :
    resolver.Tied scope (resolver.passOf scope progress) := by
  obtain ⟨s, e, hs, he, hp⟩ := resolver.passOf_eq scope progress
  intro error herror
  rw [hp] at herror ⊢
  obtain ⟨htext, hcalls | ⟨⟨_, hcalls⟩, herror⟩⟩ := Progress.pending_of_apply herror
  · rw [htext, lastFailure, hcalls]
  -- the calls found nothing to do, so the error was there after the expressions
  rw [he] at herror
  obtain ⟨hetext, hmath | ⟨⟨_, hmath⟩, herror⟩⟩ := Progress.pending_of_apply herror
  · rw [htext, lastFailure, hcalls, he, hetext, hmath]
  -- nor did the expressions, so it was there after the substitution
  rw [hs] at herror
  obtain ⟨hstext, hsub | ⟨⟨_, hsub⟩, herror⟩⟩ := Progress.pending_of_apply herror
  · rw [htext, lastFailure, hcalls, he, hetext, hmath, hs, hstext, hsub]
  · rw [htext, he, hetext, hs, hstext]
    exact h error herror

/-- **A pending error that is tied to the text makes no difference to the next pass:** the
way of rewriting that gave it fails again, unless the text is changed before or after. -/
theorem passOf_eq_passOver {progress : Progress} (h : resolver.Tied scope progress) :
    resolver.passOf scope progress = resolver.passOver scope progress.text := by
  obtain ⟨text, pending⟩ := progress
  cases pending with
  | none => rfl
  | some carried =>
    obtain ⟨s, e, hs, he, hp⟩ := resolver.passOf_eq scope ⟨text, some carried⟩
    obtain ⟨s', e', hs', he', hp'⟩ := resolver.passOf_eq scope ⟨text, none⟩
    rw [passOver, hp, hp']
    -- once one way has changed the text or failed, both passes go on alike
    rcases Progress.apply_congr (p := ⟨text, some carried⟩) (q := ⟨text, none⟩) rfl
        (Rewrite.substitution resolver.config scope text) with
      hsame | ⟨_, hsub, hleft, hright⟩
    · rw [he, he', hs, hs', hsame]
    rw [hs.trans hleft] at he
    rw [hs'.trans hright] at he'
    rcases Progress.apply_congr (p := ⟨text, some carried⟩) (q := ⟨text, none⟩) rfl
        (Rewrite.math resolver.evaluate resolver.config 0 text) with
      hsame | ⟨_, hmath, hleft, hright⟩
    · rw [he, he', hsame]
    rw [he.trans hleft, he'.trans hright]
    rcases Progress.apply_congr (p := ⟨text, some carried⟩) (q := ⟨text, none⟩) rfl
        (Rewrite.calls resolver.registry resolver.config 0 text).run with
      hsame | ⟨_, hcalls, -, -⟩
    · exact hsame
    -- none of the three fails on the text, so it has no error to be tied to
    have hfails : resolver.lastFailure scope text = some carried := h carried rfl
    rw [lastFailure, hcalls, hmath, hsub] at hfails
    cases hfails

/-! ## The texts of a run -/

/-- What is on its way after `n` passes over an input. -/
def after (input : Text) (n : Nat) : Progress := (resolver.passOf scope)^[n] ⟨input, none⟩

/-- **The text after `n` passes.** -/
def textAfter (input : Text) (n : Nat) : Text := (resolver.after scope input n).text

/-- After every number of passes the pending error is tied to the text. -/
theorem tied_after (input : Text) (n : Nat) : resolver.Tied scope (resolver.after scope input n) := by
  induction n with
  | zero => exact resolver.tied_of_pending_eq_none scope rfl
  | succ n ih =>
    rw [after, Function.iterate_succ_apply']
    exact resolver.tied_passOf scope ih

/-- One more pass is the pass over the text. -/
theorem after_succ (input : Text) (n : Nat) :
    resolver.after scope input (n + 1) =
      resolver.passOver scope (resolver.textAfter scope input n) := by
  rw [after, Function.iterate_succ_apply']
  exact resolver.passOf_eq_passOver scope (resolver.tied_after scope input n)

@[simp] theorem textAfter_zero (input : Text) : resolver.textAfter scope input 0 = input := rfl

theorem textAfter_succ (input : Text) (n : Nat) :
    resolver.textAfter scope input (n + 1) =
      (resolver.passOver scope (resolver.textAfter scope input n)).text := by
  rw [textAfter, after_succ]

/-- Each of the first `n` passes changes the text. -/
def RunsOn (input : Text) (n : Nat) : Prop :=
  ∀ k < n, resolver.textAfter scope input (k + 1) ≠ resolver.textAfter scope input k

/-- **The pass after the first `n` is the first that leaves the text as it was.** -/
def SettlesAt (input : Text) (n : Nat) : Prop :=
  resolver.textAfter scope input (n + 1) = resolver.textAfter scope input n ∧
    resolver.RunsOn scope input n

/-- The passes before the last one, and the last one. -/
theorem runsOn_succ_iff {input : Text} {n : Nat} :
    resolver.RunsOn scope input (n + 1) ↔ resolver.RunsOn scope input n ∧
      resolver.textAfter scope input (n + 1) ≠ resolver.textAfter scope input n := by
  constructor
  · intro h
    exact ⟨fun k hk => h k (by omega), h n (by omega)⟩
  · rintro ⟨hbefore, hlast⟩ k hk
    rcases Nat.lt_succ_iff_lt_or_eq.1 hk with hlt | rfl
    · exact hbefore k hlt
    · exact hlast

/-- Within any number of passes a run settles, or it does not. -/
theorem runsOn_or_settlesAt (input : Text) (n : Nat) :
    resolver.RunsOn scope input n ∨ ∃ k < n, resolver.SettlesAt scope input k := by
  induction n with
  | zero => exact .inl fun k hk => absurd hk (by omega)
  | succ n ih =>
    rcases ih with hruns | ⟨k, hk, hsettles⟩
    · by_cases hn : resolver.textAfter scope input (n + 1) = resolver.textAfter scope input n
      · exact .inr ⟨n, by omega, hn, hruns⟩
      · exact .inl ((resolver.runsOn_succ_iff scope).2 ⟨hruns, hn⟩)
    · exact .inr ⟨k, by omega, hsettles⟩

/-! ## Where a run ends -/

/-- One round of the loop, entered after `k` passes. -/
theorem passes_after (lenient : Bool) (remaining : Nat) (input : Text) (k : Nat) :
    (resolver.passes scope lenient (remaining + 1) (resolver.after scope input k)).run =
      if resolver.textAfter scope input (k + 1) = resolver.textAfter scope input k
      then (resolver.after scope input (k + 1)).result lenient
      else (resolver.passes scope lenient remaining
        (resolver.after scope input (k + 1))).run := by
  have hpass : resolver.after scope input (k + 1) =
      resolver.passOf scope (resolver.after scope input k) := Function.iterate_succ_apply' _ _ _
  rw [passes, textAfter, textAfter, hpass]
  exact apply_ite Id.run _ _ _

/-- The loop, entered after `k` passes, ends at the text that settles. -/
theorem passes_of_settlesAt {input : Text} {n : Nat} (lenient : Bool)
    (h : resolver.SettlesAt scope input n) (remaining : Nat) :
    ∀ k ≤ n, n < k + remaining →
      (resolver.passes scope lenient remaining (resolver.after scope input k)).run =
        (resolver.passOver scope (resolver.textAfter scope input n)).result lenient := by
  induction remaining with
  | zero => intro k hk hn; omega
  | succ remaining ih =>
    intro k hk hn
    rw [passes_after]
    -- the loop stops here, or the pass changes the text and the loop is entered once more
    rcases Nat.eq_or_lt_of_le hk with rfl | hlt
    · rw [if_pos h.1, after_succ]
    · rw [if_neg (h.2 k hlt)]
      exact ih (k + 1) hlt (by omega)

/-- The loop, entered after `k` passes, runs out of passes where none settles. -/
theorem passes_of_runsOn (lenient : Bool) (input : Text) (remaining : Nat) :
    ∀ k, resolver.RunsOn scope input (k + remaining) →
      (resolver.passes scope lenient remaining (resolver.after scope input k)).run =
        .error (.didNotConverge resolver.config.maxPasses
          (resolver.textAfter scope input (k + remaining))) := by
  induction remaining with
  | zero => intro k _; rfl
  | succ remaining ih =>
    intro k h
    rw [passes_after, if_neg (h k (by omega))]
    have hshift : k + 1 + remaining = k + (remaining + 1) := by omega
    rw [ih (k + 1) (by rwa [hshift]), hshift]

variable {resolver scope}

/-- **A run that settles within the limit gives what the pass over the settled text
gives.** -/
theorem resolveWith_of_settlesAt {input : Text} {n : Nat} (lenient : Bool)
    (h : resolver.SettlesAt scope input n) (hn : n < resolver.config.maxPasses) :
    (resolver.resolveWith lenient scope input).run =
      (resolver.passOver scope (resolver.textAfter scope input n)).result lenient :=
  resolver.passes_of_settlesAt scope lenient h _ 0 (Nat.zero_le n) (by omega)

/-- **A run that does not settle within the limit gives the text it has reached.** -/
theorem resolveWith_of_runsOn {input : Text} (lenient : Bool)
    (h : resolver.RunsOn scope input resolver.config.maxPasses) :
    (resolver.resolveWith lenient scope input).run =
      .error (.didNotConverge resolver.config.maxPasses
        (resolver.textAfter scope input resolver.config.maxPasses)) := by
  have hrun := resolver.passes_of_runsOn scope lenient input resolver.config.maxPasses 0
    (by rwa [Nat.zero_add])
  rwa [Nat.zero_add] at hrun

end MapScript.Resolver
