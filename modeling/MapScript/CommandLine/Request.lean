/-
What a command line asks for.

Options are words that begin with two hyphens, or the short form of the format. Their
value is attached with an equals sign or is the next word. After a lone double hyphen
every word is an operand, and a lone hyphen is one anywhere. All but one of the options
may be given only once, and there is at most one operand, the file to read.
-/
import MapScript.Text.Basic

set_option autoImplicit false

namespace MapScript.CommandLine

/-- The forms in which resolved blocks are printed. -/
inductive Format where
  | text
  | json
deriving Repr, DecidableEq

/-- **What a command line asks for.** -/
structure Request where
  /-- The file to read; without one, standard input is read. -/
  input : Option Text
  lenient : Bool
  maxPasses : Option Nat
  maxDepth : Option Nat
  format : Option Format
  /-- The variables whose values are printed after the run. -/
  showVariables : List Text
deriving Repr, DecidableEq

namespace Request

/-- The request of the empty command line. -/
def empty : Request := ⟨none, false, none, none, none, []⟩

/-! ## Options with a value -/

/-- The options that take a value. -/
inductive Setting where
  | maxPasses
  | maxDepth
  | format
  | showVariable
deriving Repr, DecidableEq

/-- The option of a long name. -/
def Setting.ofName? (name : Text) : Option Setting :=
  if name = "max-passes".toList then some .maxPasses
  else if name = "max-depth".toList then some .maxDepth
  else if name = "format".toList then some .format
  else if name = "show-var".toList then some .showVariable
  else none

/-- The format of a name. -/
def Format.ofName? (name : Text) : Option Format :=
  if name = "text".toList then some .text
  else if name = "json".toList then some .json
  else none

/-- Puts a value where there is none yet. -/
def fill {α : Type} (old new : Option α) : Option α :=
  match old with
  | none => new
  | some _ => none

/-- The request with one more option, unless its value is wrong or it has one. -/
def set (request : Request) (setting : Setting) (value : Text) : Option Request :=
  match setting with
  | .maxPasses =>
    (fill request.maxPasses (Text.natBelow? (Nat.pow 2 64) value)).map fun n =>
      { request with maxPasses := some n }
  | .maxDepth =>
    (fill request.maxDepth (Text.natBelow? (Nat.pow 2 64) value)).map fun n =>
      { request with maxDepth := some n }
  | .format =>
    (fill request.format (Format.ofName? value)).map fun f => { request with format := some f }
  | .showVariable => some { request with showVariables := request.showVariables ++ [value] }

/-- The request with the flag for lenient resolution. -/
def setLenient (request : Request) : Option Request :=
  if request.lenient then none else some { request with lenient := true }

/-- The request with the file to read; an empty name is none. -/
def setInput (request : Request) (name : Text) : Option Request :=
  if name = [] then none
  else (fill request.input (some name)).map fun n => { request with input := some n }

/-! ## Words -/

/-- Whether a word is an option, and so is no value of the one before it. -/
def isOption : Text → Bool
  | '-' :: _ :: _ => true
  | _ => false

/-- Reads words that are all operands. -/
def readOperands (request : Request) : List Text → Option Request
  | [] => some request
  | word :: rest =>
    match request.setInput word with
    | some request => request.readOperands rest
    | none => none

/-- What a word of the command line means. -/
inductive Word where
  | endOfOptions
  | lenient
  | setting (setting : Setting) (value : Text)
  /-- An option whose value is the next word. -/
  | awaiting (setting : Setting)
  | operand (name : Text)
deriving Repr, DecidableEq

/-- The meaning of a word; an option that does not exist has none. -/
def Word.ofText? : Text → Option Word
  | ['-', '-'] => some .endOfOptions
  | '-' :: '-' :: long =>
    match Text.cutFirst '=' long with
    | some (name, value) => (Setting.ofName? name).map (.setting · value)
    | none =>
      if long = "lenient".toList then some .lenient
      else (Setting.ofName? long).map .awaiting
  | ['-', 'f'] => some (.awaiting .format)
  | '-' :: 'f' :: '=' :: value => some (.setting .format value)
  | '-' :: 'f' :: value => some (.setting .format value)
  | '-' :: _ :: _ => none
  | word => some (.operand word)

/-- Reads the words of a command line. -/
def readWords (request : Request) : List Text → Option Request
  | [] => some request
  | word :: rest =>
    match Word.ofText? word with
    | none => none
    | some .endOfOptions => request.readOperands rest
    | some .lenient => request.setLenient.bind (readWords · rest)
    | some (.setting setting value) => (request.set setting value).bind (readWords · rest)
    | some (.operand name) => (request.setInput name).bind (readWords · rest)
    | some (.awaiting setting) =>
      match rest with
      | [] => none
      | value :: rest =>
        if isOption value then none
        else (request.set setting value).bind (readWords · rest)

/-- **The request of a command line,** if it is one. -/
def ofWords (words : List Text) : Option Request := empty.readWords words

end Request

end MapScript.CommandLine
