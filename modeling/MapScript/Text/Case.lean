/-
Lower and upper case of whole texts.

The case of a character rarely depends on its neighbours. The exception is the
capital sigma, which is lowered to the final form at the end of a word: when the
nearest character before it, looking through marks and modifiers, has case, and
the nearest one after it has not.
-/
import MapScript.Text.Basic
import MapScript.Text.CaseTable

set_option autoImplicit false

namespace MapScript.Text

/-! ## One character -/

/-- The characters that `long` lists for `c`, or the partner of `c` in `runs`. -/
def mapCase (long : List (Nat × List Nat)) (runs : List CaseRun) (c : Char) : Text :=
  match long.lookup c.toNat with
  | some codes => codes.map Char.ofNat
  | none => [CaseRun.map runs c]

/-- The lower-case form of a character on its own. -/
def lowerChar (c : Char) : Text :=
  if c.toNat < 128 then [c.toLower] else mapCase lowerLong lowerRuns c

/-- The upper-case form of a character. -/
def upperChar (c : Char) : Text :=
  if c.toNat < 128 then [c.toUpper] else mapCase upperLong upperRuns c

/-! ## Words and the capital sigma -/

/-- Whether the character has case. -/
def isCased (c : Char) : Bool := CodeRange.anyContains casedRanges c

/-- Whether the character is looked through in search of a cased neighbour. -/
def isCaseIgnorable (c : Char) : Bool := CodeRange.anyContains caseIgnorableRanges c

/-- Whether the first character that is not looked through has case. -/
def startsCased (text : Text) : Bool :=
  match text.dropWhile isCaseIgnorable with
  | [] => false
  | c :: _ => isCased c

/-- The lower-case sigma that stands between `before`, nearest character first,
and `after`. -/
def lowerSigma (before after : Text) : Char :=
  if startsCased before && !startsCased after then 'ς' else 'σ'

/-- Lowers a text whose characters before it are `before`, nearest first. -/
def lowerAfter (before : Text) : Text → Text
  | [] => []
  | c :: rest =>
    let lowered := if c = 'Σ' then [lowerSigma before rest] else lowerChar c
    lowered ++ lowerAfter (c :: before) rest

/-- **The lower-case form** of a text. -/
def toLower (text : Text) : Text := lowerAfter [] text

/-- **The upper-case form** of a text. -/
def toUpper (text : Text) : Text := text.flatMap upperChar

end MapScript.Text
