/-
Scopes: the variables that one resolution can see.

The local variables come before the global ones, and the first variable of a name is
the one that is found.
-/
import MapScript.Error
import MapScript.Variable

set_option autoImplicit false

namespace MapScript

/-- **A scope:** local variables that shadow global ones. -/
structure Scope where
  locals : List Variable
  globals : List Variable
deriving Repr, DecidableEq

namespace Scope

/-- The variables in the order in which they are looked up and substituted. -/
def toList (scope : Scope) : List Variable := scope.locals ++ scope.globals

/-- The first variable of a name. -/
def find? (scope : Scope) (name : Text) : Option Variable :=
  scope.toList.find? (·.name = name)

/-- The first variable of a name, which has to exist. -/
def require (scope : Scope) (name : Text) : Except ScriptError Variable :=
  match scope.find? name with
  | some var => .ok var
  | none => .error (.unresolvedVariable name)

end Scope

end MapScript
