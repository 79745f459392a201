import SqlShell.Session.Basic
import SqlShell.Text.Blank

/-!
# Conversations

A conversation reads lines until a statement is complete, runs it, and goes on. Lines are collected
in a pending text, which is run as a script once it ends with a semicolon, white space aside. A quit
word counts only as the first line of a pending text, and blank lines before a statement are dropped.

A failing script is reported and the conversation goes on; it ends at a quit word, at the end of the
input, and when the input or the output fails. A prompt asks for each line, and the one that meets the
end of the input is ended by a line feed.
-/

namespace SqlShell

/-! ## Input -/

/-- A line of input, which may turn out not to be text. -/
inductive InputLine where
  | text (line : String)
  | invalidUtf8
  deriving Repr, DecidableEq

namespace InputLine

/-- The lines of a text. -/
def ofText (input : String) : List InputLine :=
  (Text.textLines input.toList).map fun line => .text (String.ofList line)

/-- The line that some bytes spell. -/
def ofLineBytes (bytes : List UInt8) : InputLine :=
  match String.fromUTF8? ⟨bytes.toArray⟩ with
  | some spelled => .text spelled
  | none => .invalidUtf8

/-- The lines of some bytes. Bytes that spell a text have the lines of that text; otherwise each
line is decoded by itself. -/
def ofBytes (input : ByteArray) : List InputLine :=
  match String.fromUTF8? input with
  | some whole => ofText whole
  | none => (Text.lines '\n'.toUInt8 '\r'.toUInt8 input.data.toList).map ofLineBytes

end InputLine

/-! ## One line -/

/-- The words that end a conversation. -/
def quitWords : List String :=
  ["\\q", "quit", "exit"]

/-- Whether a line, white space aside, is a quit word. -/
def isQuit (line : String) : Bool :=
  quitWords.contains (String.ofList (Text.trim line.toList))

/-- Whether a text ends with a semicolon, white space aside. -/
def isComplete (text : String) : Bool :=
  (Text.trimEnd text.toList).getLast? == some ';'

/-- How a conversation goes on after a line. -/
inductive Turn where
  /-- With a text that is still pending, if it is not empty. -/
  | proceed (pending : String)
  | quit
  deriving Repr, DecidableEq

namespace Shell

/-- Run a complete text and report its failure, unless what failed is the output. -/
def submit (settings : Settings) (text : String) : Shell Unit :=
  tryCatch (runScript settings text) fun
    | .channel error => throw (.channel error)
    | error => do
      observe [.statementFailed (error.text settings.color)]
      say (Text.paint settings.color .red (error.text settings.color) ++ "\n")

/-- Take a line behind the pending text. -/
def takeLine (settings : Settings) (pending line : String) : Shell Turn := do
  let text := pending ++ line ++ "\n"
  if pending.isEmpty && isQuit line then
    return .quit
  else if Text.isBlankText text.toList then
    return .proceed ""
  else if isComplete text then
    submit settings text
    return .proceed ""
  else
    return .proceed text

/-! ## Whole conversations -/

/-- What asks for the next line. -/
def promptText (settings : Settings) (pending : String) : String :=
  if pending.isEmpty then settings.prompt else "... "

/-- Converse about the lines of an input, behind a pending text. -/
def converse (settings : Settings) (pending : String) : List InputLine → Shell Unit
  | [] => do
    say (promptText settings pending)
    say "\n"
  | line :: rest => do
    say (promptText settings pending)
    match line with
    | .invalidUtf8 => throw (.channel .invalidUtf8)
    | .text line =>
      match ← takeLine settings pending line with
      | .quit => return
      | .proceed pending => converse settings pending rest

/-- What a conversation opens with. -/
def welcomeText : String :=
  "Welcome to minisql.\n"

/-- The conversation over a piped input. -/
def runPiped (settings : Settings) (input : List InputLine) : Shell Unit := do
  say welcomeText
  converse settings "" input

end Shell

end SqlShell
