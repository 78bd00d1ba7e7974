/-
Functions that draw nothing.

Such a function is one over `Id`, and it is one over every monad (`Function.lift`). A
resolver of such functions does in every lawful monad what it does in `Id`, and nothing
besides (`resolveWith_lift`), so what is shown over `Id` holds of them wherever they are
called.
-/
import MapScript.Resolver

set_option autoImplicit false

namespace MapScript

variable {m : Type → Type} [Monad m]

/-- A function that draws nothing, over another monad. -/
def Function.lift (function : Function Id) : Function m :=
  fun arguments => pure (function arguments).run

/-- Functions that draw nothing, with their names. -/
def Registry.liftEntries : List (Text × Function Id) → List (Text × Function m) :=
  List.map fun entry => (entry.1, Function.lift entry.2)

/-- A resolver of functions that draw nothing, over another monad. -/
def Resolver.lift (resolver : Resolver Id) : Resolver m :=
  ⟨⟨Registry.liftEntries resolver.registry.entries⟩, resolver.config, resolver.evaluate⟩

variable [LawfulMonad m]

namespace Rewrite

/-- Calling one function draws nothing. -/
theorem invoke_lift (limit : Nat) (name : Text) (function : Function Id) (budget : Nat)
    (text : Text) :
    invoke limit name (Function.lift (m := m) function) budget text =
      pure (invoke limit name function budget text).run := by
  induction budget generalizing text with
  | zero =>
    rw [invoke, invoke]
    split <;> rfl
  | succ budget ih =>
    rw [invoke, invoke]
    split
    · split
      · rfl
      · rename_i span hfocus
        rw [Function.lift, pure_bind, Id.run_bind]
        split
        · exact ih _
        · rfl
    · rfl

/-- Nor does calling several. -/
theorem invokeAll_lift (limit : Nat) (entries : List (Text × Function Id)) (text : Text) :
    invokeAll limit (Registry.liftEntries (m := m) entries) text =
      pure (invokeAll limit entries text).run := by
  induction entries generalizing text with
  | nil => rfl
  | cons entry rest ih =>
    obtain ⟨name, function⟩ := entry
    rw [Registry.liftEntries, List.map_cons, ← Registry.liftEntries, invokeAll, invokeAll,
      invoke_lift, pure_bind, Id.run_bind]
    dsimp only
    generalize (invoke limit name function limit text).run = run
    obtain ⟨reached, stop⟩ := run
    cases stop with
    | finished => exact ih reached
    | failed error => rfl
    | failedIn span error => rfl

/-- Nor does going into the insides of calls. -/
theorem callsWithin_lift (registry : Registry Id) (config : Config) (levels : Nat)
    (input : Text) :
    callsWithin (m := m) ⟨Registry.liftEntries registry.entries⟩ config levels input =
      pure (callsWithin registry config levels input).run := by
  induction levels generalizing input with
  | zero => rfl
  | succ levels ih =>
    rw [callsWithin, callsWithin, invokeAll_lift, pure_bind, Id.run_bind]
    split
    · rfl
    · rw [ih, pure_bind, Id.run_bind]
      rfl

end Rewrite

namespace Resolver

/-- A pass draws nothing. -/
theorem pass_lift (resolver : Resolver Id) (scope : Scope) (progress : Progress) :
    (resolver.lift (m := m)).pass scope progress = pure (resolver.pass scope progress).run := by
  have hcalls : ∀ text,
      Rewrite.calls (resolver.lift (m := m)).registry resolver.config 0 text =
        pure (Rewrite.calls resolver.registry resolver.config 0 text).run :=
    fun text => Rewrite.callsWithin_lift resolver.registry resolver.config _ text
  unfold pass
  exact (congrArg (· >>= _) (hcalls _)).trans (pure_bind _ _)

/-- Several passes draw nothing. -/
theorem passes_lift (resolver : Resolver Id) (scope : Scope) (lenient : Bool) (remaining : Nat)
    (progress : Progress) :
    (resolver.lift (m := m)).passes scope lenient remaining progress =
      pure (resolver.passes scope lenient remaining progress).run := by
  induction remaining generalizing progress with
  | zero => rfl
  | succ remaining ih =>
    rw [passes, passes, pass_lift, pure_bind, Id.run_bind]
    split
    · rfl
    · exact ih _

/-- **A resolver of functions that draw nothing gives in every monad what it gives in
`Id`.** -/
theorem resolveWith_lift (resolver : Resolver Id) (lenient : Bool) (scope : Scope)
    (input : Text) :
    (resolver.lift (m := m)).resolveWith lenient scope input =
      pure (resolver.resolveWith lenient scope input).run :=
  passes_lift resolver scope lenient resolver.config.maxPasses ⟨input, none⟩

end Resolver

end MapScript
