import SqlShell.Session.Conversation

/-!
# Interactive conversations

An interactive conversation asks a line editor for its lines. The editor shows the prompt, if it
shows prompts at all, and is told to remember each line that is not blank. An interrupt drops the
pending text, or ends the conversation when there is none. At the end of the input the conversation
ends and says nothing more.
-/

namespace SqlShell

/-- What a line editor answers when it is asked for a line. -/
inductive Reading where
  | line (text : String)
  /-- The user has interrupted the line. -/
  | interrupted
  /-- The editor could not read a line. -/
  | failed (error : ChannelError)
  deriving Repr, DecidableEq

/-- What comes of reading a line of an input that is no terminal. -/
def InputLine.reading : InputLine → Reading
  | text line => .line line
  | invalidUtf8 => .failed .invalidUtf8

/-- A line editor in front of its input. -/
structure LineEditor where
  /-- Whether the prompts it is given are shown. -/
  prompts : Bool
  /-- Its answers, one request after the other, up to the end of the input. -/
  readings : List Reading
  /-- How adding a line to the history turns out. -/
  remember : String → Except ChannelError Unit

/-- A line editor whose input is no terminal. -/
def LineEditor.piped (input : List InputLine) : LineEditor where
  prompts := false
  readings := input.map (·.reading)
  remember _ := .ok ()

namespace Shell

/-- Have a line added to the history. -/
def remember (editor : LineEditor) (line : String) : Shell Unit :=
  match editor.remember line with
  | .ok () => return
  | .error error => throw (.channel error)

/-- Ask the editor for a line. -/
def ask (editor : LineEditor) (prompt : String) : Shell Unit := do
  if editor.prompts then
    say prompt

/-- Converse about what the editor answers, behind a pending text. -/
def converseWith (settings : Settings) (editor : LineEditor) (pending : String) :
    List Reading → Shell Unit
  | [] => ask editor (promptText settings pending)
  | reading :: rest => do
    ask editor (promptText settings pending)
    match reading with
    | .failed error => throw (.channel error)
    | .interrupted =>
      if pending.isEmpty then return else converseWith settings editor "" rest
    | .line line =>
      unless Text.isBlankText line.toList do
        remember editor line
      match ← takeLine settings pending line with
      | .quit => return
      | .proceed pending => converseWith settings editor pending rest

/-- The conversation over the lines that an editor hands in. -/
def runEditor (settings : Settings) (editor : LineEditor) : Shell Unit := do
  say welcomeText
  converseWith settings editor "" editor.readings

/-- The interactive conversation over an input that is no terminal. -/
def runInteractive (settings : Settings) (input : List InputLine) : Shell Unit :=
  runEditor settings (.piped input)

end Shell

end SqlShell
