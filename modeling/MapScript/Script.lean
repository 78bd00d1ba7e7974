/-
Scripts: lines grouped to blocks.

A block is a header line and the parameter lines under it. Blank lines and lines that
begin with a hash are no part of a script, but they are counted.
-/
import MapScript.Directive

set_option autoImplicit false

namespace MapScript

/-! ## Blocks -/

/-- **A header line and the parameters under it.** -/
structure Block where
  header : Directive
  params : List Directive
deriving Repr, DecidableEq

namespace Block

/-- The kind of the header. -/
def kind (block : Block) : DirectiveKind := block.header.kind

/-- The first parameter of a name in normal form. -/
def param? (block : Block) (name : Text) : Option Directive :=
  block.params.find? (·.name = name)

/-- Appends a parameter. -/
def push (block : Block) (param : Directive) : Block :=
  { block with params := block.params ++ [param] }

/-- Marks every parameter as unread. -/
def resetUsage (block : Block) : Block :=
  { block with params := block.params.map Directive.markUnused }

/-- Marks the header as read. -/
def useHeader (block : Block) : Block := { block with header := block.header.markUsed }

/-- Marks the first directive of a name as read. -/
def useFirst (name : Text) : List Directive → List Directive
  | [] => []
  | param :: rest =>
    if param.name = name then param.markUsed :: rest else param :: useFirst name rest

/-- Marks the first parameter of a name as read. -/
def useParam (block : Block) (name : Text) : Block :=
  { block with params := useFirst name block.params }

/-- The parameters that have not been read. -/
def unused (block : Block) : List UnusedDirective := unusedDirectives block.params

end Block

/-! ## Scripts -/

/-- **A script.** -/
structure Script where
  blocks : List Block
deriving Repr, DecidableEq

namespace Script

/-- The script without blocks. -/
def empty : Script := ⟨[]⟩

/-- Whether a line is blank or a comment. -/
def isSkipped (line : Text) : Bool :=
  match Text.trim line with
  | [] => true
  | c :: _ => c == '#'

/-- Numbers lines from `index` on. -/
def numberFrom (index : Nat) : List Text → List (Nat × Text)
  | [] => []
  | line :: rest => (index, line) :: numberFrom (index + 1) rest

/-- The lines of a text that belong to a script, with their numbers. -/
def numberedLines (source : Text) : List (Nat × Text) :=
  (numberFrom 1 source.lines).filter fun (_, line) => !isSkipped line

/-- The blocks of the lines after those of the `unfinished` block, which takes parameters.
Blocks are complete when the next header comes. -/
def blocksFrom (unfinished : Option Block) :
    List (Nat × Text) → Except ScriptError (List Block)
  | [] => .ok unfinished.toList
  | (index, line) :: rest =>
    match Directive.ofLine line index with
    | .error error => .error error
    | .ok directive =>
      if directive.kind.isHeader then
        (blocksFrom (some ⟨directive, []⟩) rest).map (unfinished.toList ++ ·)
      else
        match unfinished with
        | some block => blocksFrom (some (block.push directive)) rest
        | none =>
          .error (.malformedLine index line
            "parameter appears before any workspace, function or var".toList)

/-- **The script of a text.** -/
def ofSource (source : Text) : Except ScriptError Script :=
  (blocksFrom none (numberedLines source)).map Script.mk

end Script

end MapScript
