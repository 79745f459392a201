import SqlShell.CommandLine.LogFilter
import SqlShell.CommandLine.Options
import SqlShell.Session.Conversation

/-!
# The program

What the program does with its arguments, as far as it can be said without touching the outside:

* `Plan.ofArguments` decides what to do;
* `Exit` is what a finished program leaves: an exit code and two outputs;
* `Exit.ofScript`, `Exit.ofFile` and `Exit.ofInput` carry out the three kinds of work.

An error that ends the program is reported with its causes, each indented under the one before.
-/

namespace SqlShell.CommandLine

/-! ## Reports -/

/-- A text with `indent` spaces in front of each line after the first. -/
def indentLines (indent : Nat) (text : String) : String :=
  String.ofList (text.toList.flatMap fun c =>
    if c = '\n' then c :: List.replicate indent ' ' else [c])

/-- A number in front of a numbered cause, right-aligned in five columns. -/
def causeNumber (number : Nat) : String :=
  let digits := toString number
  String.ofList (List.replicate (5 - digits.length) ' ') ++ digits ++ ": "

/-- The causes, numbered when there is more than one. -/
def causeTexts : List String → List String
  | [cause] => ["    " ++ indentLines 4 cause]
  | causes => causes.zipIdx.map fun (cause, number) => causeNumber number ++ indentLines 7 cause

/-- An error with its causes, the nearest first. -/
def errorReport (message : String) (causes : List String) : String :=
  "Error: " ++ message ++
    (if causes.isEmpty then ""
      else "\n\nCaused by:" ++ String.join ((causeTexts causes).map ("\n" ++ ·))) ++
    "\n"

/-! ## Errors and their causes -/

/-- Why a file cannot be read. -/
inductive FileError where
  | notFound
  | notDirectory
  | isDirectory
  | invalidUtf8
  | other (message : String)
  deriving Repr, DecidableEq

/-- The error in words. -/
def FileError.message : FileError → String
  | notFound => "No such file or directory (os error 2)"
  | notDirectory => "Not a directory (os error 20)"
  | isDirectory => "Is a directory (os error 21)"
  | invalidUtf8 => "stream did not contain valid UTF-8"
  | other message => message

/-- The causes of a session's error. -/
def causesOf (color : Bool) : ShellError → List String
  | .parse error =>
    error.text color ::
      match error.fault with
      | .lex error => [error.message]
      | _ => []
  | .execution error => [error.message]
  | .channel _ => []

/-! ## Ends -/

/-- What a finished program leaves. -/
structure Exit where
  code : UInt32
  output : String := ""
  errors : String := ""

namespace Exit

/-- The end of a program that fails with an error. -/
def failure (output message : String) (causes : List String) : Exit :=
  { code := 1, output, errors := errorReport message causes }

/-- The end of a program whose session failed. -/
def ofError (settings : Settings) (error : ShellError) (session : Session) : Exit :=
  .failure session.output.offered (error.text settings.color) (causesOf settings.color error)

/-- The end of a program that ran an action on a new session. -/
def ofAction (settings : Settings) (action : Shell Unit) : Exit :=
  match EStateM.run action {} with
  | .ok _ session => { code := 0, output := session.output.offered }
  | .error error session => .ofError settings error session

/-- Run a script. -/
def ofScript (settings : Settings) (text : String) : Exit :=
  .ofAction settings (Shell.runScript settings text)

/-- Run the script in a file that was found to hold some text, or to be unreadable. -/
def ofFile (settings : Settings) (path : String) (content : Except FileError String) : Exit :=
  match content with
  | .ok text => .ofScript settings text
  | .error error => .failure "" ("failed to read " ++ path) [error.message]

/-- Converse over an input. -/
def ofInput (settings : Settings) (input : ByteArray) : Exit :=
  .ofAction settings (Shell.runPiped settings (InputLine.ofBytes input))

end Exit

/-! ## Plans -/

/-- The name and version of the program. -/
def versionLine : String :=
  "minisql 0.1.0\n"

/-- How the program is called. -/
def usage : String :=
  String.intercalate "\n" [
    "Usage: minisql [OPTIONS]",
    "",
    "Options:",
    "  -e, --execute <EXECUTE>      Run the given SQL and exit",
    "  -f, --file <FILE>            Run a SQL script file and exit",
    "      --prompt <PROMPT>        Prompt shown before each new statement",
    "      --no-color               Disable colored output",
    "      --show-ast               Print each parsed statement before executing it",
    "      --log-level <LOG_LEVEL>  Log filter",
    "  -h, --help                   Print help",
    "  -V, --version                Print version",
    ""]

/-- A refusal in words. -/
def Refusal.message : Refusal → String
  | unknownArgument => "error: unexpected argument found\n\n"
  | invalidValue => "error: a value is missing or invalid\n\n"
  | argumentConflict => "error: an argument cannot be used with another or more than once\n\n"
  | tooManyValues => "error: unexpected value for a flag\n\n"
  | help | version => ""

/-- The end of a program whose arguments do not start it. -/
def Exit.ofRefusal : Refusal → Exit
  | .help => { code := 0, output := usage }
  | .version => { code := 0, output := versionLine }
  | refusal => { code := 2, errors := refusal.message ++ usage }

/-- What to do. -/
inductive Plan where
  | exit (ended : Exit)
  | script (settings : Settings) (text : String)
  | file (settings : Settings) (path : String)
  | converse (settings : Settings)

/-- The settings that options make. Styles are for terminals. -/
def Options.settings (options : Options) (terminal : Bool) : Settings :=
  { prompt := options.prompt.getD "# "
    echo := options.showAst
    color := terminal && !options.noColor }

/-- What options ask for. -/
def Plan.ofOptions (terminal : Bool) (options : Options) : Plan :=
  match options.logLevel.bind filterFault? with
  | some fault => .exit (.failure "" "invalid --log-level" fault.messages)
  | none =>
    let settings := options.settings terminal
    match options.execute, options.file with
    | some text, _ => .script settings text
    | none, some path => .file settings path
    | none, none => .converse settings

/-- What the arguments of the program ask for, given whether the output is a terminal. -/
def Plan.ofArguments (terminal : Bool) (arguments : List String) : Plan :=
  match Options.parse arguments with
  | .ok options => .ofOptions terminal options
  | .error refusal => .exit (.ofRefusal refusal)

/-- Carry out a plan, given the content of files and the input. -/
def Plan.carryOut (readFile : String → Except FileError String) (input : ByteArray) : Plan → Exit
  | .exit ended => ended
  | script settings text => .ofScript settings text
  | file settings path => .ofFile settings path (readFile path)
  | converse settings => .ofInput settings input

end SqlShell.CommandLine
