/-
Blank characters: those with the property of being white space, from the tab to
the ideographic space. Names lose all of them, arguments lose them at both ends.
-/
import MapScript.Text.Basic
import MapScript.Text.CodeRange

set_option autoImplicit false

namespace MapScript.Text

/-- The white space characters. -/
def blankRanges : List CodeRange := CodeRange.ofPairs [
    (0x09, 0x0D), (0x20, 0x20), (0x85, 0x85), (0xA0, 0xA0), (0x1680, 0x1680),
    (0x2000, 0x200A), (0x2028, 0x2029), (0x202F, 0x202F), (0x205F, 0x205F),
    (0x3000, 0x3000)]

/-- Whether the character is white space. -/
def isBlank (c : Char) : Bool := CodeRange.anyContains blankRanges c

/-- The text without its white space, wherever it stands. -/
def stripBlanks (text : Text) : Text := text.filter fun c => !isBlank c

/-- The text without the white space at its end. -/
def trimEnd (text : Text) : Text := (text.reverse.dropWhile isBlank).reverse

/-- The text without the white space at its two ends. -/
def trim (text : Text) : Text := trimEnd (text.dropWhile isBlank)

end MapScript.Text
