/-
JSON values and how they are written.

An object is the list of its members, so that their order is the writer's to choose;
`insertMember` keeps the order of the keys and lets the last of two equal keys win.
Integers and doubles are told apart, because they are written differently.
-/
import MapScript.Number.Layout

set_option autoImplicit false

namespace MapScript

/-- **A JSON value.** -/
inductive Json where
  | null
  | boolean (b : Bool)
  | integer (n : Int)
  | float (x : Float)
  | string (text : Text)
  | array (items : List Json)
  | object (members : List (Text × Json))

namespace Json

/-! ## Numbers and members -/

/-- The double of a number. -/
def toNumber? : Json → Option Float
  | integer n => some (Float.ofInt n)
  | float x => some x
  | _ => none

/-- Whether the value is a number. -/
def isNumber : Json → Bool
  | integer _ | float _ => true
  | _ => false

/-- A double as a value; what is no finite number becomes null. -/
def ofFloat (x : Float) : Json := if Number.isFinite x then float x else null

/-- Puts a member in its place in the order of the keys; the new value of a key that
is there already takes the place of the old one. -/
def insertMember (key : Text) (value : Json) : List (Text × Json) → List (Text × Json)
  | [] => [(key, value)]
  | (k, v) :: rest =>
    match Text.order key k with
    | .lt => (key, value) :: (k, v) :: rest
    | .eq => (key, value) :: rest
    | .gt => (k, v) :: insertMember key value rest

/-! ## Scalars -/

/-- Numbers keep their fraction and are written with a signed power of ten where the
decimal point would be far away. -/
def numberLayout : Number.Layout := ⟨some (-5, 15), true, true, .toEven⟩

/-- A control character by its number. -/
def controlEscape (c : Char) : Text :=
  ['\\', 'u', '0', '0', Nat.digitChar (c.toNat / 16), Nat.digitChar (c.toNat % 16)]

/-- One character inside a string. -/
def stringChar (c : Char) : Text :=
  match c with
  | '"' => ['\\', '"']
  | '\\' => ['\\', '\\']
  | '\x08' => ['\\', 'b']
  | '\x0c' => ['\\', 'f']
  | '\n' => ['\\', 'n']
  | '\r' => ['\\', 'r']
  | '\t' => ['\\', 't']
  | _ => if c.toNat < 0x20 then controlEscape c else [c]

/-- A text as a JSON string. -/
def stringText (text : Text) : Text := '"' :: text.flatMap stringChar ++ ['"']

/-- The text of a double. -/
def floatText (x : Float) : Text :=
  if Number.isFinite x then numberLayout.render x else "null".toList

/-! ## The compact form -/

mutual

/-- **The compact text** of a value, without blanks. -/
def compact : Json → Text
  | null => "null".toList
  | boolean b => if b then "true".toList else "false".toList
  | integer n => Text.ofInt n
  | float x => floatText x
  | string text => stringText text
  | array items => '[' :: Text.join [','] (compactItems items) ++ [']']
  | object members => '\x7b' :: Text.join [','] (compactMembers members) ++ ['\x7d']

/-- The compact texts of the items of an array. -/
def compactItems : List Json → List Text
  | [] => []
  | item :: items => compact item :: compactItems items

/-- The compact texts of the members of an object. -/
def compactMembers : List (Text × Json) → List Text
  | [] => []
  | (key, value) :: members => (stringText key ++ [':'] ++ compact value) :: compactMembers members

end

/-! ## The form with line breaks

Every item stands on a line of its own, two blanks further in than the brackets
around it. Empty brackets stay together. -/

/-- The beginning of a line at a depth. -/
def lineStart (depth : Nat) : Text := '\n' :: List.replicate (2 * depth) ' '

/-- Brackets around texts that each get a line. -/
def bracketed (opening closing : Char) (depth : Nat) (texts : List Text) : Text :=
  if texts.isEmpty then [opening, closing]
  else
    opening :: Text.join [','] (texts.map (lineStart (depth + 1) ++ ·)) ++ lineStart depth ++
      [closing]

mutual

/-- The text of a value inside `depth` brackets. -/
def prettyAt (depth : Nat) : Json → Text
  | null => "null".toList
  | boolean b => if b then "true".toList else "false".toList
  | integer n => Text.ofInt n
  | float x => floatText x
  | string text => stringText text
  | array items => bracketed '[' ']' depth (prettyItems (depth + 1) items)
  | object members => bracketed '\x7b' '\x7d' depth (prettyMembers (depth + 1) members)

/-- The texts of the items of an array. -/
def prettyItems (depth : Nat) : List Json → List Text
  | [] => []
  | item :: items => prettyAt depth item :: prettyItems depth items

/-- The texts of the members of an object. -/
def prettyMembers (depth : Nat) : List (Text × Json) → List Text
  | [] => []
  | (key, value) :: members =>
    (stringText key ++ [':', ' '] ++ prettyAt depth value) :: prettyMembers depth members

end

/-- **The text of a value** with line breaks. -/
def pretty (value : Json) : Text := prettyAt 0 value

end Json

end MapScript
