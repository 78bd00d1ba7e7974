/-
Texts in quotes, as they are shown inside messages.

A quote and a backslash are escaped by a backslash, as are the five controls that
have a letter of their own. Whatever else could not be seen, or would attach to
the character before it, is shown by its number.
-/
import MapScript.Text.Basic
import MapScript.Text.VisibleTable

set_option autoImplicit false

namespace MapScript.Text

/-- Whether a quoted text shows the character by its number. -/
def isHidden (c : Char) : Bool :=
  if 0x20 ≤ c.toNat ∧ c.toNat < 0x7F then false
  else [unprintableRanges, extendingRanges, fillerRanges].any (CodeRange.anyContains · c)

/-- One character as a quoted text shows it. -/
def quotedChar (c : Char) : Text :=
  match c with
  | '"' => ['\\', '"']
  | '\\' => ['\\', '\\']
  | '\n' => ['\\', 'n']
  | '\r' => ['\\', 'r']
  | '\t' => ['\\', 't']
  | '\x00' => ['\\', '0']
  | _ =>
    if isHidden c then ['\\', 'u', '\x7b'] ++ Nat.toDigits 16 c.toNat ++ ['\x7d'] else [c]

/-- **The text in double quotes.** -/
def quoted (text : Text) : Text := '"' :: text.flatMap quotedChar ++ ['"']

end MapScript.Text
