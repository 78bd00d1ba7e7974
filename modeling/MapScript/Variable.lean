/-
Variables, and the form in which names are compared.

A line of a script names something and gives it data; so does a variable that takes
part in a substitution. Both are a name with data that may be missing.
-/
import MapScript.Text.Blank
import MapScript.Text.Case

set_option autoImplicit false

namespace MapScript

/-- **A variable:** a name with data, or without. -/
structure Variable where
  name : Text
  data : Option Text
deriving Repr, DecidableEq

namespace Variable

/-- The name before the first colon of a line and the data after it; without a colon
the line is a name and there is no data. -/
def ofLine (line : Text) : Variable :=
  match line.cutFirst ':' with
  | some (name, data) => ⟨name, some data⟩
  | none => ⟨line, none⟩

/-- The data, or the empty text where there is none. -/
def dataOrEmpty (var : Variable) : Text := var.data.getD []

/-- The variable as a message shows it. -/
def describe (var : Variable) : Text :=
  "Name:".toList ++ var.name ++ " Data:".toList ++ var.dataOrEmpty

end Variable

/-- **The normal form of a name:** without white space, in lower case. -/
def normalizeName (text : Text) : Text := Text.toLower (Text.stripBlanks text)

end MapScript
