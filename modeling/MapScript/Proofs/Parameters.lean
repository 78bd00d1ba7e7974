/-
Parameters that a block is asked for by name.

Before the parameters of a block are read in order, one of them is looked up: how often the
block is repeated or, where it defines a variable, when the variable is computed anew. Both are
one question (`Session.ask`) with a name, an answer for blocks without such a parameter, and a
way of reading the value. Asking marks one parameter as read and changes nothing else.
-/
import MapScript.Session

set_option autoImplicit false

namespace MapScript

namespace Block

/-- Reading a parameter is not seen by what does not see marks. -/
theorem map_useFirst {α : Type} {view : Directive → α}
    (h : ∀ param, view param.markUsed = view param) (name : Text) (params : List Directive) :
    (useFirst name params).map view = params.map view := by
  induction params with
  | nil => rfl
  | cons param rest ih =>
    rw [useFirst]
    split
    · rw [List.map_cons, List.map_cons, h]
    · rw [List.map_cons, List.map_cons, ih]

/-- Resetting the marks shows in a parameter that is looked up as a mark only. -/
theorem param?_resetUsage (block : Block) (name : Text) :
    block.resetUsage.param? name = (block.param? name).map Directive.markUnused := by
  rw [param?, param?, resetUsage, List.find?_map]
  rfl

end Block

namespace Session

variable {m : Type → Type} [Monad m]

/-- **Asks a block for a parameter** of a name. -/
def ask {α : Type} (name : Text) (without : α) (read : Directive → Text → Except ScriptError α)
    (resolver : Resolver m) (visible : List Variable) (block : Block) : m (Outcome Block α) :=
  match block.param? name with
  | none => pure (.success without block)
  | some param => do
    match ← param.current resolver visible with
    | .error error => pure (.failure error (block.useParam name))
    | .ok value => pure ⟨read param (value.getD []), block.useParam name⟩

/-- The policy that the value of a parameter names. -/
def readPolicy (param : Directive) (text : Text) : Except ScriptError ResolvePolicy :=
  match ResolvePolicy.ofText? text with
  | some policy => .ok policy
  | none =>
    .error (param.malformed ("unknown recompute mode `".toList ++ Text.trim text ++ ['`']))

/-- The number that the value of a parameter names. -/
def readCount (param : Directive) (text : Text) : Except ScriptError Nat :=
  match Text.natBelow? (Nat.pow 2 64) (Text.trim text) with
  | some count => .ok count
  | none =>
    .error (param.malformed
      ("repeat must be a whole number, got `".toList ++ Text.trim text ++ ['`']))

variable (resolver : Resolver m) (visible : List Variable) (block : Block)

/-- The policy of a variable is asked for; a block without one computes the value once. -/
theorem policyOf_eq_ask : policyOf resolver visible block =
    ask "recompute".toList .onceAtCreation readPolicy resolver visible block := by
  rw [policyOf, ask]
  cases block.param? "recompute".toList with
  | none => rfl
  | some param =>
    refine congrArg (param.current resolver visible >>= ·) (funext fun result => ?_)
    cases result with
    | error error => rfl
    | ok value =>
      dsimp only
      rw [readPolicy]
      cases ResolvePolicy.ofText? (value.getD []) <;> rfl

/-- The number of repetitions is asked for; a block without one is expanded once. -/
theorem countOf_eq_ask : countOf resolver visible block =
    ask repeatName 1 readCount resolver visible block := by
  rw [countOf, ask]
  cases block.param? repeatName with
  | none => rfl
  | some param =>
    refine congrArg (param.current resolver visible >>= ·) (funext fun result => ?_)
    cases result with
    | error error => rfl
    | ok value =>
      dsimp only
      rw [readCount]
      cases Text.natBelow? (Nat.pow 2 64) (Text.trim (value.getD [])) <;> rfl

end Session

end MapScript
