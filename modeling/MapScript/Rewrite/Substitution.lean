/-
Substitution of variables.

A variable is substituted by replacing its name, wherever it occurs in the text, by its
data. Names are taken in the order of the scope, and each is replaced at its first
occurrence until it occurs no more; the data may bring the name back, so the number of
replacements is limited.
-/
import MapScript.Scope
import MapScript.Rewrite.Basic

set_option autoImplicit false

namespace MapScript.Rewrite

/-- Replaces a name by data until it occurs no more, at most `budget` times. -/
def substitute (limit : Nat) (name data : Text) :
    (budget : Nat) → Text → Except ScriptError Text
  | budget, text =>
    match Text.find? name text with
    | none => .ok text
    | some occurrence =>
      match budget with
      | 0 => .error (.variableSubstitution name (.didNotConverge limit text))
      | budget + 1 => substitute limit name data budget (occurrence.replace data)
termination_by structural budget => budget

/-- Substitutes the variables of a list one after the other. The empty name stands for
no variable. -/
def substituteAll (limit : Nat) : List Variable → Text → Except ScriptError Text
  | [], text => .ok text
  | var :: rest, text =>
    if var.name = [] then substituteAll limit rest text
    else
      match substitute limit var.name var.dataOrEmpty limit text with
      | .ok text => substituteAll limit rest text
      | .error error => .error error

/-- **Substitutes the variables of a scope,** local ones first. -/
def substitution (config : Config) (scope : Scope) (input : Text) : Except ScriptError Rewrite :=
  (substituteAll config.maxExpansions scope.toList input).map (Rewrite.compare input)

end MapScript.Rewrite
