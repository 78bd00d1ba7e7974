/-
Functions that scripts call, and the table in which they are found.

A function turns the arguments of one call into the text that takes the place of the
call, or refuses them. It may draw random numbers; what it needs for that is the monad
`m`, and a function that draws nothing is one over every monad.

The table keeps the order of registration, because calls are made in that order. Names
are kept in their normal form, and a name that is registered again keeps its place.
-/
import MapScript.Error
import MapScript.Variable

set_option autoImplicit false

namespace MapScript

/-! ## Arguments -/

/-- **The arguments of one call:** the name of the function in its normal form, and the
text between the parentheses. -/
structure Arguments where
  function : Text
  raw : Text
deriving Repr, DecidableEq

namespace Arguments

/-- The texts between the commas. -/
def items (arguments : Arguments) : List Text := Text.splitAt ',' arguments.raw

/-- One argument without the white space around it. -/
def item? (arguments : Arguments) (index : Nat) : Option Text :=
  arguments.items[index]?.map Text.trim

/-- The refusal of the arguments. -/
def refuse {α : Type} (arguments : Arguments) (message : Text) : Except ScriptError α :=
  .error (.functionArgument arguments.function message)

end Arguments

/-! ## The table -/

/-- A function of scripts. -/
abbrev Function (m : Type → Type) := Arguments → m (Except ScriptError Text)

/-- **The table of functions,** in the order of their first registration. -/
structure Registry (m : Type → Type) where
  entries : List (Text × Function m)

namespace Registry

variable {m : Type → Type}

/-- The table without functions. -/
def empty : Registry m := ⟨[]⟩

/-- Gives a name that is there a new function, or appends it. -/
def insertEntry (name : Text) (function : Function m) :
    List (Text × Function m) → List (Text × Function m)
  | [] => [(name, function)]
  | (n, f) :: rest =>
    if n = name then (n, function) :: rest else (n, f) :: insertEntry name function rest

/-- Registers a function under the normal form of a name. -/
def register (registry : Registry m) (name : Text) (function : Function m) : Registry m :=
  ⟨insertEntry (normalizeName name) function registry.entries⟩

/-- The function of the normal form of a name. -/
def get? (registry : Registry m) (name : Text) : Option (Function m) :=
  (registry.entries.find? (·.1 = normalizeName name)).map (·.2)

/-- The names in order. -/
def names (registry : Registry m) : List Text := registry.entries.map (·.1)

/-- The number of functions. -/
def size (registry : Registry m) : Nat := registry.entries.length

/-- The names as a message shows them: quoted, in brackets. -/
def describe (registry : Registry m) : Text :=
  '[' :: Text.join [',', ' '] (registry.names.map Text.quoted) ++ [']']

end Registry

end MapScript
