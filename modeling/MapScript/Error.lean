/-
Why a script cannot be resolved.

An error is a cause: the text, name or limit that it is about, and the error it was
caused by, if it wraps one. Three questions are asked of an error: what it says, which
of the three ways of rewriting it comes from, and what started it.
-/
import MapScript.Expr.Error

set_option autoImplicit false

namespace MapScript

/-- The three ways in which a text is rewritten. -/
inductive Strategy where
  | substitution
  | math
  | calls
deriving Repr, DecidableEq

/-- **Why a script cannot be resolved.** -/
inductive ScriptError where
  /-- Brackets that are missing or do not pair up. -/
  | malformedBracket (opening closing : Char) (text : Text)
  /-- An expression without a value. -/
  | malformedExpression (expression : Text) (cause : Expr.Error)
  /-- Arguments that a function refuses. -/
  | functionArgument (function message : Text)
  /-- A call that failed. -/
  | functionExecution (function : Text) (source : ScriptError)
  /-- A name that no variable has. -/
  | unresolvedVariable (name : Text)
  /-- A variable that could not be substituted. -/
  | variableSubstitution (name : Text) (source : ScriptError)
  /-- A limit on the number of steps, and the text that was reached. -/
  | didNotConverge (limit : Nat) (reached : Text)
  /-- A limit on nesting. -/
  | recursionLimit (depth : Nat)
  /-- A line without a name. -/
  | emptyName (index : Nat)
  /-- A line that is wrong where it stands or in what it says. -/
  | malformedLine (index : Nat) (line message : Text)
  /-- A line whose value could not be resolved. -/
  | unresolvedLine (index : Nat) (line : Text) (source : ScriptError)

namespace ScriptError

/-! ## Wording -/

/-- The beginning of the messages about a line. -/
def lineLabel (index : Nat) (line : Text) : Text :=
  "line ".toList ++ Text.ofNat index ++ " `".toList ++ line ++ "`: ".toList

/-- **The message of an error.** -/
def message : ScriptError → Text
  | malformedBracket opening closing text =>
    "unbalanced '".toList ++ [opening, closing] ++ "' brackets in `".toList ++ text ++ ['`']
  | malformedExpression expression cause =>
    "error parsing math \x7b".toList ++ expression ++ "\x7d: ".toList ++ cause.message
  | functionArgument function message => function ++ ": ".toList ++ message
  | functionExecution function source =>
    "error executing internal function ".toList ++ function ++ ": ".toList ++ source.message
  | unresolvedVariable name => "unknown variable '".toList ++ name ++ "'".toList
  | variableSubstitution name source =>
    "error implementing variable ".toList ++ name ++ ": ".toList ++ source.message
  | didNotConverge limit reached =>
    "resolution did not converge after ".toList ++ Text.ofNat limit ++
      " steps (last value `".toList ++ reached ++ "`)".toList
  | recursionLimit depth => "nested fallback exceeded depth ".toList ++ Text.ofNat depth
  | emptyName index => "line ".toList ++ Text.ofNat index ++ ": directive has no name".toList
  | malformedLine index line message => lineLabel index line ++ message
  | unresolvedLine index line source => lineLabel index line ++ source.message

/-! ## Structure -/

/-- The error with the line it arose in. -/
def atLine (error : ScriptError) (index : Nat) (line : Text) : ScriptError :=
  unresolvedLine index line error

/-- The errors that an error wraps, outermost first. -/
def causes : ScriptError → List ScriptError
  | functionExecution _ source => source :: source.causes
  | variableSubstitution _ source => source :: source.causes
  | unresolvedLine _ _ source => source :: source.causes
  | _ => []

/-- **The error that started it all.** -/
def innermost : ScriptError → ScriptError
  | functionExecution _ source => source.innermost
  | variableSubstitution _ source => source.innermost
  | unresolvedLine _ _ source => source.innermost
  | error => error

/-- **The way of rewriting that failed,** if the error came out of one. Braces belong to
expressions and all other brackets to calls; a line adds nothing of its own. -/
def strategy : ScriptError → Option Strategy
  | malformedBracket opening _ _ => some (if opening = '\x7b' then .math else .calls)
  | malformedExpression _ _ => some .math
  | functionArgument _ _ => some .calls
  | functionExecution _ _ => some .calls
  | unresolvedVariable _ => some .substitution
  | variableSubstitution _ _ => some .substitution
  | unresolvedLine _ _ source => source.strategy
  | _ => none

end ScriptError

end MapScript
