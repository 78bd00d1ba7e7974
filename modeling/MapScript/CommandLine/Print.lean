/-
Printing resolved blocks and errors.

As text, a block is its header in one line and its fields in one line each; records are
numbered where there are several. As JSON, the blocks are a list of objects. An error is
followed by the errors it wraps.
-/
import MapScript.Json.Value
import MapScript.Session

set_option autoImplicit false

namespace MapScript.CommandLine

/-- A line with its end. -/
def line (text : Text) : Text := text ++ ['\n']

/-! ## Text -/

/-- The line of a field. -/
def fieldLine (field : Field) : Text :=
  line ("    ".toList ++ field.name ++ ": ".toList ++ field.value.getD [])

/-- The lines of the records from a number on. -/
def recordLines (numbered : Bool) : (number : Nat) → List (List Field) → Text
  | _, [] => []
  | number, fields :: rest =>
    (if numbered then line ("  #".toList ++ Text.ofNat number) else []) ++
      fields.flatMap fieldLine ++ recordLines numbered (number + 1) rest

/-- **The lines of a block.** -/
def blockLines (block : ResolvedBlock) : Text :=
  line ('[' :: Text.ofNat block.index ++ "] ".toList ++ block.name ++ ':' ::
    block.data.getD []) ++
    recordLines (decide (1 < block.records.length)) 0 block.records

/-! ## JSON -/

/-- The word for a kind of directive. -/
def kindWord : DirectiveKind → Text
  | .workspace => "workspace".toList
  | .function => "function".toList
  | .parameter => "parameter".toList
  | .variable => "variable".toList
  | .container => "variable_container".toList

/-- A text that may be missing. -/
def optionalText : Option Text → Json
  | some text => .string text
  | none => .null

/-- A field as an object. -/
def fieldJson (field : Field) : Json :=
  .object [("name".toList, .string field.name), ("value".toList, optionalText field.value)]

/-- An unread parameter as an object. -/
def unusedJson (unused : UnusedDirective) : Json :=
  .object [("name".toList, .string unused.name), ("index".toList, .integer unused.index)]

/-- **A block as an object.** The unread parameters are left out where there are none. -/
def blockJson (block : ResolvedBlock) : Json :=
  let unused : List (Text × Json) :=
    if block.unused.isEmpty then []
    else [("unused".toList, .array (block.unused.map unusedJson))]
  .object ([
    ("kind".toList, .string (kindWord block.kind)),
    ("index".toList, .integer block.index),
    ("name".toList, .string block.name),
    ("data".toList, optionalText block.data),
    ("records".toList, .array (block.records.map fun fields => .array (fields.map fieldJson)))]
    ++ unused)

/-! ## Errors -/

/-- A text of several lines with the lines after the first moved in. -/
def indentFrom (indent text : Text) : Text :=
  Text.join ('\n' :: indent) (Text.splitAt '\n' text)

/-- The causes of an error, numbered from a number on. -/
def numberedCauses (number : Nat) : List Text → Text
  | [] => []
  | cause :: rest =>
    let digits := Text.ofNat number
    line (List.replicate (5 - digits.length) ' ' ++ digits ++ ": ".toList ++
      indentFrom (List.replicate 7 ' ') cause) ++ numberedCauses (number + 1) rest

/-- The causes of an error, under a heading; one cause alone has no number. -/
def causeLines : List Text → Text
  | [] => []
  | [cause] => "\nCaused by:\n    ".toList ++ line (indentFrom (List.replicate 4 ' ') cause)
  | causes => "\nCaused by:\n".toList ++ numberedCauses 0 causes

/-- **The report of an error:** its message, and those of its causes. -/
def errorReport (message : Text) (causes : List Text) : Text :=
  line ("Error: ".toList ++ message) ++ causeLines causes

end MapScript.CommandLine
