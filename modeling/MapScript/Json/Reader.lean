/-
Reading JSON.

The reader takes the text from left to right and reports the first fault with the
number of bytes that were left when it was noticed, from which the line and the
column follow. A fault is noticed either at the byte that is looked at next, which
counts as consumed, or after the bytes that were taken.

Doubles are read in one multiplication or division: the digits are collected into an
integer of 64 bits, digits that do not fit are dropped, and the integer is scaled by
a power of ten.
-/
import MapScript.Text.Basic
import MapScript.Json.Value
import MapScript.Number.Reading

set_option autoImplicit false

namespace MapScript.Json

/-! ## Faults -/

/-- What is wrong with a text that is no JSON. -/
inductive Reason where
  | endInList
  | endInObject
  | endInString
  | endInValue
  | expectedColon
  | expectedListSeparator
  | expectedObjectSeparator
  | expectedIdent
  | expectedValue
  | invalidEscape
  | invalidNumber
  | numberOutOfRange
  | controlCharacter
  | keyMustBeString
  | loneSurrogate
  | endOfHexEscape
  | trailingComma
  | trailingCharacters
  | tooDeep
deriving Repr, DecidableEq

/-- The wording of a reason. -/
def Reason.message : Reason → Text
  | .endInList => "EOF while parsing a list".toList
  | .endInObject => "EOF while parsing an object".toList
  | .endInString => "EOF while parsing a string".toList
  | .endInValue => "EOF while parsing a value".toList
  | .expectedColon => "expected `:`".toList
  | .expectedListSeparator => "expected `,` or `]`".toList
  | .expectedObjectSeparator => "expected `,` or `\x7d`".toList
  | .expectedIdent => "expected ident".toList
  | .expectedValue => "expected value".toList
  | .invalidEscape => "invalid escape".toList
  | .invalidNumber => "invalid number".toList
  | .numberOutOfRange => "number out of range".toList
  | .controlCharacter =>
    "control character (\\u0000-\\u001F) found while parsing a string".toList
  | .keyMustBeString => "key must be a string".toList
  | .loneSurrogate => "lone leading surrogate in hex escape".toList
  | .endOfHexEscape => "unexpected end of hex escape".toList
  | .trailingComma => "trailing comma".toList
  | .trailingCharacters => "trailing characters".toList
  | .tooDeep => "recursion limit exceeded".toList

/-- A fault and the number of bytes that were left when it was noticed. -/
structure Fault where
  reason : Reason
  left : Nat
deriving Repr, DecidableEq

/-- A fault after the bytes that have been taken. -/
def faultAt {α : Type} (reason : Reason) (rest : Text) : Except Fault α :=
  .error ⟨reason, rest.byteSize⟩

/-- A fault at the byte that comes next. -/
def faultBefore {α : Type} (reason : Reason) (rest : Text) : Except Fault α :=
  .error ⟨reason, rest.byteSize - 1⟩

/-! ## Blanks and words -/

/-- Whether the character may stand between the parts of a JSON text. -/
def isSpace (c : Char) : Bool := c == ' ' || c == '\t' || c == '\n' || c == '\r'

/-- The text from the next part on. -/
def skipSpace (text : Text) : Text := text.dropWhile isSpace

/-- Takes the rest of a word whose first letter has been taken. -/
def readWord (value : Json) : (expected text : Text) → Except Fault (Json × Text)
  | [], text => .ok (value, text)
  | _ :: _, [] => faultAt .endInValue []
  | e :: expected, c :: rest =>
    if c = e then readWord value expected rest
    -- one byte of the wrong character has been taken
    else faultBefore .expectedIdent (c :: rest)

/-! ## Strings -/

/-- The value of four hexadecimal digits. Four bytes are taken whatever they are. -/
def readHex (text : Text) : Except Fault (Nat × Text) :=
  if text.byteSize < 4 then faultAt .endInString []
  else
    match text with
    | a :: b :: c :: d :: rest =>
      match Text.digits? 16 [a, b, c, d] with
      | some n => .ok (n, rest)
      | none => .error ⟨.invalidEscape, text.byteSize - 4⟩
    | _ => .error ⟨.invalidEscape, text.byteSize - 4⟩

/-- The second half of a character that is escaped as two surrogates. -/
def readTrailing (leading : Nat) (text : Text) : Except Fault (Char × Text) :=
  match text with
  | [] => faultAt .endInString []
  | ['\\'] => faultAt .endInString []
  | '\\' :: 'u' :: rest => do
    let (trailing, rest) ← readHex rest
    if trailing < 0xDC00 ∨ 0xDFFF < trailing then faultAt .loneSurrogate rest
    else .ok (Char.ofNat ((leading - 0xD800) * 0x400 + (trailing - 0xDC00) + 0x10000), rest)
  | '\\' :: rest => faultBefore .endOfHexEscape rest
  | rest => faultBefore .endOfHexEscape rest

/-- The character that hexadecimal digits after a backslash and `u` name. -/
def readUnicode (text : Text) : Except Fault (Char × Text) := do
  let (n, rest) ← readHex text
  if 0xDC00 ≤ n ∧ n ≤ 0xDFFF then faultAt .loneSurrogate rest
  else if 0xD800 ≤ n ∧ n ≤ 0xDBFF then readTrailing n rest
  else .ok (Char.ofNat n, rest)

/-- The character of an escape whose backslash has been taken. -/
def readEscape (text : Text) : Except Fault (Char × Text) :=
  match text with
  | [] => faultAt .endInString []
  | '"' :: rest => .ok ('"', rest)
  | '\\' :: rest => .ok ('\\', rest)
  | '/' :: rest => .ok ('/', rest)
  | 'b' :: rest => .ok ('\x08', rest)
  | 'f' :: rest => .ok ('\x0c', rest)
  | 'n' :: rest => .ok ('\n', rest)
  | 'r' :: rest => .ok ('\r', rest)
  | 't' :: rest => .ok ('\t', rest)
  | 'u' :: rest => readUnicode rest
  | rest => faultBefore .invalidEscape rest

/-- Reads a string whose quote has been taken. `fuel` bounds the number of characters,
and the length of the text always suffices. -/
def readString : (fuel : Nat) → Text → Except Fault (Text × Text)
  | 0, rest => faultAt .endInString rest
  | _ + 1, [] => faultAt .endInString []
  | fuel + 1, c :: rest =>
    if c = '"' then .ok ([], rest)
    else if c = '\\' then
      match readEscape rest with
      | .error fault => .error fault
      | .ok (escaped, rest) =>
        (readString fuel rest).map fun (text, rest) => (escaped :: text, rest)
    else if c.toNat < 0x20 then faultAt .controlCharacter rest
    else (readString fuel rest).map fun (text, rest) => (c :: text, rest)

/-! ## Numbers -/

/-- The bound of the significand of a double. -/
def significandBound : Nat := Nat.pow 2 64

/-- Ten to a power as the nearest double. -/
def tenTo (n : Nat) : Float := Float.ofScientific 1 false n

/-- A significand scaled by a negative power of ten, in steps that a double can hold.
`fuel` is the number of steps. -/
def scaleDown : (fuel : Nat) → (x : Float) → (power : Nat) → Float
  | 0, x, _ => x
  | fuel + 1, x, power =>
    if power ≤ 308 then x / tenTo power
    else if x == 0.0 then x
    else scaleDown fuel (x / tenTo 308) (power - 308)

/-- The double with the given parts, if it is finite. -/
def scale? (significand : Nat) (exponent : Int) : Option Float :=
  let x := Float.ofNat significand
  if 0 ≤ exponent then
    if 308 < exponent then (if significand = 0 then some x else none)
    else
      let scaled := x * tenTo exponent.toNat
      if Number.isFinite scaled then some scaled else none
  else some (scaleDown 5 x (-exponent).toNat)

/-- The number with the given parts, whose last byte has been taken. -/
def finishFloat (negative : Bool) (significand : Nat) (exponent : Int) (rest : Text) :
    Except Fault (Json × Text) :=
  match scale? significand exponent with
  | some x => .ok (.float (if negative then -x else x), rest)
  | none => faultAt .numberOutOfRange rest

/-- Reads on the digits of a power of ten. A power that leaves 31 bits is out of range
at once, unless it makes the number zero. -/
def readPower (negative : Bool) (significand : Nat) (start : Int) (positive : Bool) :
    (power : Nat) → Text → Except Fault (Json × Text)
  | power, c :: rest =>
    if Number.isDigit c then
      let grown := power * 10 + (c.toNat - '0'.toNat)
      if Nat.pow 2 31 ≤ grown then
        if significand ≠ 0 ∧ positive then faultAt .numberOutOfRange rest
        else .ok (.float (if negative then -0.0 else 0.0), rest.dropWhile Number.isDigit)
      else readPower negative significand start positive grown rest
    else
      finishFloat negative significand (if positive then start + power else start - power)
        (c :: rest)
  | power, [] =>
    finishFloat negative significand (if positive then start + power else start - power) []

/-- Reads a power of ten whose mark has been taken. -/
def readExponent (negative : Bool) (significand : Nat) (start : Int) (text : Text) :
    Except Fault (Json × Text) :=
  let (positive, digits) := match text with
    | '+' :: rest => (true, rest)
    | '-' :: rest => (false, rest)
    | _ => (true, text)
  match digits with
  | [] => faultAt .endInValue []
  | c :: rest =>
    if Number.isDigit c then
      readPower negative significand start positive (c.toNat - '0'.toNat) rest
    else faultBefore .invalidNumber (c :: rest)

/-- Ends a number whose digits have been taken, with a power of ten if there is one. -/
def finishDecimal (negative : Bool) (significand : Nat) (exponent : Int) (text : Text) :
    Except Fault (Json × Text) :=
  match text with
  | c :: rest =>
    if c = 'e' ∨ c = 'E' then readExponent negative significand exponent rest
    else finishFloat negative significand exponent text
  | [] => finishFloat negative significand exponent []

/-- Reads on the digits behind the decimal point; `before` is the power of ten of the
digits before it, and `count` digits have been kept already. -/
def readFraction (negative : Bool) (before : Int) :
    (significand count : Nat) → Text → Except Fault (Json × Text)
  | significand, count, c :: rest =>
    if Number.isDigit c then
      let grown := significand * 10 + (c.toNat - '0'.toNat)
      if significandBound ≤ grown then
        finishDecimal negative significand (before - count)
          ((c :: rest).dropWhile Number.isDigit)
      else readFraction negative before grown (count + 1) rest
    else if count = 0 then faultBefore .invalidNumber (c :: rest)
    else finishDecimal negative significand (before - count) (c :: rest)
  | significand, count, [] =>
    if count = 0 then faultAt .endInValue []
    else finishDecimal negative significand (before - count) []

/-- Reads on a number of whose significand `dropped` digits did not fit. -/
def readLong (negative : Bool) (significand : Nat) :
    (dropped : Nat) → Text → Except Fault (Json × Text)
  | dropped, c :: rest =>
    if Number.isDigit c then readLong negative significand (dropped + 1) rest
    else if c = '.' then readFraction negative dropped significand 0 rest
    else finishDecimal negative significand dropped (c :: rest)
  | dropped, [] => finishFloat negative significand dropped []

/-- The number with a whole part only: an integer, if one of 64 bits can hold it, and
else a double. A negative zero is a double as well. -/
def finishInteger (negative : Bool) (significand : Nat) (rest : Text) :
    Except Fault (Json × Text) :=
  if !negative then .ok (.integer significand, rest)
  else if significand = 0 ∨ Nat.pow 2 63 < significand then
    .ok (.float (-(Float.ofNat significand)), rest)
  else .ok (.integer (-(significand : Int)), rest)

/-- Ends a number whose whole part has been taken, with a fraction or a power of ten if
there is one. -/
def finishWhole (negative : Bool) (significand : Nat) (text : Text) :
    Except Fault (Json × Text) :=
  match text with
  | '.' :: rest => readFraction negative 0 significand 0 rest
  | c :: rest =>
    if c = 'e' ∨ c = 'E' then readExponent negative significand 0 rest
    else finishInteger negative significand text
  | [] => finishInteger negative significand []

/-- Reads on the whole part of a number. -/
def readWhole (negative : Bool) : (significand : Nat) → Text → Except Fault (Json × Text)
  | significand, c :: rest =>
    if Number.isDigit c then
      let grown := significand * 10 + (c.toNat - '0'.toNat)
      if significandBound ≤ grown then readLong negative significand 0 (c :: rest)
      else readWhole negative grown rest
    else finishWhole negative significand (c :: rest)
  | significand, [] => finishWhole negative significand []

/-- Reads a number whose sign has been taken. -/
def readNumber (negative : Bool) (text : Text) : Except Fault (Json × Text) :=
  match text with
  | [] => faultAt .endInValue []
  | '0' :: rest =>
    if (rest.head?.map Number.isDigit).getD false then faultBefore .invalidNumber rest
    else finishWhole negative 0 rest
  | c :: rest =>
    if Number.isDigit c then readWhole negative (c.toNat - '0'.toNat) rest
    else faultBefore .invalidNumber (c :: rest)

/-! ## Values -/

/-- Takes the colon between a key and its value. -/
def readColon (text : Text) : Except Fault Text :=
  match skipSpace text with
  | ':' :: rest => .ok rest
  | [] => faultAt .endInObject []
  | rest => faultBefore .expectedColon rest

mutual

/-- Reads a value inside of brackets that leave room for `depth` more. `fuel` bounds
the number of steps; every step takes a character or follows one that does. -/
def readValue : (fuel depth : Nat) → Text → Except Fault (Json × Text)
  | 0, _, text => faultAt .endInValue text
  | fuel + 1, depth, text =>
    match skipSpace text with
    | [] => faultAt .endInValue []
    | 'n' :: rest => readWord .null "ull".toList rest
    | 't' :: rest => readWord (.boolean true) "rue".toList rest
    | 'f' :: rest => readWord (.boolean false) "alse".toList rest
    | '-' :: rest => readNumber true rest
    | '"' :: rest =>
      (readString (rest.length + 1) rest).map fun (text, rest) => (.string text, rest)
    | '[' :: rest =>
      match depth with
      | 0 => faultBefore .tooDeep ('[' :: rest)
      | depth + 1 =>
        match skipSpace rest with
        | [] => faultAt .endInList []
        | ']' :: rest => .ok (.array [], rest)
        | rest =>
          (readItems fuel depth rest).map fun (items, rest) => (.array items, rest)
    | '\x7b' :: rest =>
      match depth with
      | 0 => faultBefore .tooDeep ('\x7b' :: rest)
      | depth + 1 =>
        match skipSpace rest with
        | [] => faultAt .endInObject []
        | '\x7d' :: rest => .ok (.object [], rest)
        | '"' :: rest =>
          (readMembers fuel depth [] rest).map fun (members, rest) => (.object members, rest)
        | rest => faultBefore .keyMustBeString rest
    | c :: rest =>
      if Number.isDigit c then readNumber false (c :: rest)
      else faultBefore .expectedValue (c :: rest)

/-- Reads the items of an array from one of them to the closing bracket. -/
def readItems : (fuel depth : Nat) → Text → Except Fault (List Json × Text)
  | 0, _, text => faultAt .endInList text
  | fuel + 1, depth, text =>
    match readValue fuel depth text with
    | .error fault => .error fault
    | .ok (item, rest) =>
      match skipSpace rest with
      | [] => faultAt .endInList []
      | ']' :: rest => .ok ([item], rest)
      | ',' :: rest =>
        match skipSpace rest with
        | [] => faultAt .endInValue []
        | ']' :: rest => faultBefore .trailingComma (']' :: rest)
        | rest => (readItems fuel depth rest).map fun (items, rest) => (item :: items, rest)
      | rest => faultBefore .expectedListSeparator rest

/-- Reads the members of an object from a key whose quote has been taken to the
closing brace, and puts them in their places among `members`. -/
def readMembers : (fuel depth : Nat) → List (Text × Json) → Text →
    Except Fault (List (Text × Json) × Text)
  | 0, _, _, text => faultAt .endInObject text
  | fuel + 1, depth, members, text =>
    match readString (text.length + 1) text with
    | .error fault => .error fault
    | .ok (key, rest) =>
      match readColon rest with
      | .error fault => .error fault
      | .ok rest =>
        match readValue fuel depth rest with
        | .error fault => .error fault
        | .ok (value, rest) =>
          let members := insertMember key value members
          match skipSpace rest with
          | [] => faultAt .endInObject []
          | '\x7d' :: rest => .ok (members, rest)
          | ',' :: rest =>
            match skipSpace rest with
            | [] => faultAt .endInValue []
            | '"' :: rest => readMembers fuel depth members rest
            | '\x7d' :: rest => faultBefore .trailingComma ('\x7d' :: rest)
            | rest => faultBefore .keyMustBeString rest
          | rest => faultBefore .expectedObjectSeparator rest

end

/-! ## Whole texts -/

/-- How many arrays and objects may be nested. -/
def maxNesting : Nat := 127

/-- Reads a text that is one value. -/
def readWithin (text : Text) : Except Fault Json := do
  let (value, rest) ← readValue (2 * text.length + 2) maxNesting text
  match skipSpace rest with
  | [] => .ok value
  | rest => faultBefore .trailingCharacters rest

/-- The line, and the byte in that line, at which a count of bytes ends. -/
def position : (consumed line column : Nat) → Text → Nat × Nat
  | 0, line, column, _ => (line, column)
  | _ + 1, line, column, [] => (line, column)
  | consumed + 1, line, column, c :: rest =>
    if c = '\n' then position consumed (line + 1) 0 rest
    else
      position (consumed + 1 - c.utf8Size) line (column + min (consumed + 1) c.utf8Size) rest

/-- The message of a fault in a text. -/
def Fault.message (fault : Fault) (text : Text) : Text :=
  let (line, column) := position (text.byteSize - fault.left) 1 0 text
  fault.reason.message ++ " at line ".toList ++ Text.ofNat line ++ " column ".toList ++
    Text.ofNat column

/-- **The value that a text writes,** or the message of its first fault. -/
def read (text : Text) : Except Text Json :=
  match readWithin text with
  | .ok value => .ok value
  | .error fault => .error (fault.message text)

end MapScript.Json
