/-
The run of a command line, up to its effects.

What a command line does is to read one text, to run it as a script and to print. The
reading is done outside; everything else is decided here, and the result says what is
written to the two streams and how the program ends. What has been written before an
error stays written.
-/
import MapScript.Builtin.Table
import MapScript.CommandLine.Print
import MapScript.CommandLine.Request

set_option autoImplicit false

namespace MapScript.CommandLine

/-- **What a run writes, and how it ends.** -/
structure Report where
  exit : Nat
  output : Text
  errors : Text
deriving Repr, DecidableEq

namespace Report

/-- The report of a command line that cannot be understood. -/
def misuse : Report := ⟨2, [], []⟩

/-- The end of a run by an error, after some output. -/
def failure (output : Text) (error : ScriptError) : Report :=
  ⟨1, output, errorReport error.message (error.causes.map ScriptError.message)⟩

/-- The end of a run whose text cannot be read. -/
def unreadable (reading cause : Text) : Report :=
  ⟨1, [], errorReport reading [cause]⟩

end Report

/-- The limits that a request sets. -/
def Request.config (request : Request) : Config :=
  { Config.standard with
    maxPasses := request.maxPasses.getD Config.standard.maxPasses
    maxDepth := request.maxDepth.getD Config.standard.maxDepth
    lenient := request.lenient }

/-- What the reading of a file is called in an error. -/
def readingLabel (name : Text) : Text := "reading '".toList ++ name ++ "'".toList

/-- The resolved blocks as they are printed. -/
def blocksText (format : Format) (blocks : List ResolvedBlock) : Text :=
  match format with
  | .text => blocks.flatMap blockLines
  | .json => line (Json.array (blocks.map blockJson)).pretty

section

variable {m : Type → Type} [Monad m]

/-- Prints the values of variables after some output. -/
def showVariables (session : Session m) (output : Text) : List Text → m Report
  | [] => pure ⟨0, output, []⟩
  | name :: rest => do
    match ← session.valueOf name with
    | .ok value =>
      showVariables session (output ++ line (name ++ " = ".toList ++ value)) rest
    | .error error => pure (.failure output error)

/-- **Runs a script** with the built-in functions and prints what a request asks for. -/
def report [Draws m] (request : Request) (source : Text) : m Report := do
  match Script.ofSource source with
  | .error error => pure (.failure [] error)
  | .ok script =>
    let resolver : Resolver m := .of .builtins request.config
    let outcome ← (Session.start resolver).run script
    match outcome.result with
    | .error error => pure (.failure [] error)
    | .ok blocks =>
      showVariables outcome.state.1 (blocksText (request.format.getD .text) blocks)
        request.showVariables

end

end MapScript.CommandLine
