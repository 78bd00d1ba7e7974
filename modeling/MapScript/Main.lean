/-
The command line program: it reads the text that is asked for, has it run, and writes
what the run has written.
-/
import MapScript.CommandLine.Report

set_option autoImplicit false

namespace MapScript.CommandLine

/-- Numbers are drawn from the random numbers of the system. -/
instance : Draws IO where
  draw n := do
    let x ← IO.rand 0 n
    pure (Fin.ofNat (n + 1) x)

/-- What the system says about a file that cannot be read. -/
def readFailure : IO.Error → Text
  | .noFileOrDirectory _ _ _ => "No such file or directory (os error 2)".toList
  | .permissionDenied _ _ _ => "Permission denied (os error 13)".toList
  | .inappropriateType _ _ _ => "Is a directory (os error 21)".toList
  | _ => "stream did not contain valid UTF-8".toList

/-- Reads a stream to its end. -/
partial def readAll (stream : IO.FS.Stream) (read : ByteArray) : IO ByteArray := do
  let more ← stream.read 65536
  if more.isEmpty then pure read else readAll stream (read ++ more)

/-- The text that a request asks to be read, or the report of the failure. -/
def readSource (request : Request) : IO (Except Report Text) := do
  match request.input with
  | some name =>
    try
      let text ← IO.FS.readFile (String.ofList name)
      pure (.ok text.toList)
    catch error => pure (.error (.unreadable (readingLabel name) (readFailure error)))
  | none =>
    let bytes ← readAll (← IO.getStdin) ByteArray.empty
    match String.fromUTF8? bytes with
    | some text => pure (.ok text.toList)
    | none =>
      pure (.error (.unreadable "reading stdin".toList
        "stream did not contain valid UTF-8".toList))

/-- The report of a command line. -/
def runWords (words : List String) : IO Report := do
  match Request.ofWords (words.map String.toList) with
  | none => pure .misuse
  | some request =>
    match ← readSource request with
    | .error report => pure report
    | .ok source => report request source

end MapScript.CommandLine

/-- Runs the program; the result is its exit code. -/
def main (words : List String) : IO UInt32 := do
  let report ← MapScript.CommandLine.runWords words
  (← IO.getStdout).putStr (String.ofList report.output)
  (← IO.getStderr).putStr (String.ofList report.errors)
  pure (UInt32.ofNat report.exit)
