/-
Global variables.

The table keeps its variables in the order of their first definition. Each is resolved
against those before it only, so that none can depend on itself; a variable that is
defined again stays in its place. What a resolution sees of the table is a snapshot, the
list of the current values.
-/
import MapScript.Directive

set_option autoImplicit false

namespace MapScript

/-- **The table of global variables.** -/
structure Globals where
  entries : List Directive
deriving Repr, DecidableEq

namespace Globals

/-- The table without variables. -/
def empty : Globals := ⟨[]⟩

/-- The number of variables. -/
def size (globals : Globals) : Nat := globals.entries.length

/-- The container of the variable of a name. -/
def get? (globals : Globals) (name : Text) : Option Directive :=
  globals.entries.find? (·.name = name)

/-- The position of the variable of a name. -/
def position? (globals : Globals) (name : Text) : Option Nat :=
  globals.entries.findIdx? (·.name = name)

variable {m : Type → Type} [Monad m]

/-! ## Snapshots -/

/-- The values of containers, each computed where the variables before it can be seen;
`visible` are those before the first. -/
def snapshotFrom (resolver : Resolver m) (visible : List Variable) :
    List Directive → m (Except ScriptError (List Variable))
  | [] => pure (.ok visible)
  | entry :: rest => do
    match ← entry.current resolver visible with
    | .ok data => snapshotFrom resolver (visible ++ [⟨entry.name, data⟩]) rest
    | .error error => pure (.error error)

/-- The values of the first `count` variables. -/
def snapshotPrefix (resolver : Resolver m) (globals : Globals) (count : Nat) :
    m (Except ScriptError (List Variable)) :=
  snapshotFrom resolver [] (globals.entries.take count)

/-- **The values of all variables,** in order. -/
def snapshot (resolver : Resolver m) (globals : Globals) :
    m (Except ScriptError (List Variable)) :=
  snapshotFrom resolver [] globals.entries

/-- The value of one variable, which has to exist. -/
def valueOf (resolver : Resolver m) (globals : Globals) (name : Text) :
    m (Except ScriptError Text) := do
  match ← globals.snapshot resolver with
  | .error error => pure (.error error)
  | .ok visible =>
    pure ((Scope.require ⟨[], visible⟩ name).map Variable.dataOrEmpty)

/-! ## Changes -/

/-- Puts a container in a place of the table, or at the end. -/
def place (globals : Globals) (position : Option Nat) (container : Directive) : Globals :=
  match position with
  | some i => ⟨globals.entries.set i container⟩
  | none => ⟨globals.entries ++ [container]⟩

/-- **Defines a variable** and computes its value against the variables before it. When
that fails the table stays as it is. -/
def define (resolver : Resolver m) (name data : Text) (policy : ResolvePolicy) (index : Nat)
    (globals : Globals) : m (Outcome Globals Unit) := do
  let position := globals.position? name
  match ← globals.snapshotPrefix resolver (position.getD globals.size) with
  | .error error => pure (.failure error globals)
  | .ok visible =>
    match ← Directive.container resolver visible name data policy index with
    | .error error => pure (.failure error globals)
    | .ok container => pure (.success () (globals.place position container))

/-- Refreshes containers from left to right; `done` are those before the first. -/
def refreshFrom (resolver : Resolver m) (done : List Directive) :
    List Directive → m (Outcome Globals Unit)
  | [] => pure (.success () ⟨done⟩)
  | entry :: rest =>
    if entry.policy ≠ .onEveryRefresh then refreshFrom resolver (done ++ [entry]) rest
    else do
      match ← snapshotFrom resolver [] done with
      | .error error => pure (.failure error ⟨done ++ entry :: rest⟩)
      | .ok visible =>
        let outcome ← entry.refresh resolver visible
        match outcome.result with
        | .ok _ => refreshFrom resolver (done ++ [outcome.state]) rest
        | .error error => pure (.failure error ⟨done ++ outcome.state :: rest⟩)

/-- **Refreshes every variable** whose policy asks for it. At the first failure the
variables before it have been refreshed. -/
def refreshAll (resolver : Resolver m) (globals : Globals) : m (Outcome Globals Unit) :=
  refreshFrom resolver [] globals.entries

end Globals

end MapScript
