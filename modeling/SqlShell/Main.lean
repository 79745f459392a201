import SqlShell.CommandLine.Program
import SqlShell.Session.LineEditor

/-!
# Entry point

Reads the arguments, the file or the input that the plan calls for, and writes what the program
leaves. On a terminal the conversation goes line by line, so that prompts and answers alternate.
-/

namespace SqlShell.CommandLine

/-- The content of a file, or why it cannot be read. -/
def readScriptFile (path : String) : IO (Except FileError String) := do
  try
    match String.fromUTF8? (← IO.FS.readBinFile path) with
    | some text => return .ok text
    | none => return .error .invalidUtf8
  catch error =>
    match error with
    | .noFileOrDirectory .. => return .error .notFound
    | .inappropriateType _ 20 _ => return .error .notDirectory
    | .inappropriateType _ 21 _ => return .error .isDirectory
    | _ => return .error (.other (toString error))

/-- Write what a program leaves, and give its exit code. -/
def leave (ended : Exit) : IO UInt32 := do
  let output ← IO.getStdout
  output.putStr ended.output
  output.flush
  (← IO.getStderr).putStr ended.errors
  return ended.code

/-- Converse with a terminal: show the prompt, hand in a line, show the answer. -/
partial def converseOnTerminal (settings : Settings) (pending : String) (session : Session) :
    IO UInt32 := do
  let output ← IO.getStdout
  output.putStr (Shell.promptText settings pending)
  output.flush
  match InputLine.ofTyped (← (← IO.getStdin).getLine) with
  | .text line :: _ =>
    match EStateM.run (Shell.takeLine settings pending line) { session with output := {} } with
    | .ok turn session =>
      output.putStr session.output.offered
      match turn with
      | .quit => return 0
      | .proceed pending => converseOnTerminal settings pending session
    | .error error session => leave (.ofError settings error session)
  | _ =>
    output.putStr "\n"
    return 0

end SqlShell.CommandLine

open SqlShell SqlShell.CommandLine in
/-- The program. -/
def main (arguments : List String) : IO UInt32 := do
  let terminal ← (← IO.getStdout).isTty
  match Plan.ofArguments terminal arguments with
  | .exit ended => leave ended
  | .script settings text => leave (.ofScript settings text)
  | .file settings path => leave (.ofFile settings path (← readScriptFile path))
  | .converse settings =>
    if ← (← IO.getStdin).isTty then
      IO.print Shell.welcomeText
      converseOnTerminal settings "" {}
    else
      leave (.ofInput settings (← (← IO.getStdin).readBinToEnd))
