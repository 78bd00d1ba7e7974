/-
The functions that every script can call.
-/
import MapScript.Builtin.Random
import MapScript.Builtin.Color
import MapScript.Builtin.Points

set_option autoImplicit false

namespace MapScript

variable {m : Type → Type} [Monad m] [Draws m]

/-- **The table of the built-in functions.** -/
def Registry.builtins : Registry m :=
  (((Registry.empty.register "random".toList Builtin.random).register
    "randomint".toList Builtin.randomInteger).register
    "hsltorgb".toList Builtin.hslToRgb).register
    "multpointdefinition".toList Builtin.multiplyPoints

end MapScript
