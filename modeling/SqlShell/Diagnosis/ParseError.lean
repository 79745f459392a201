import SqlShell.Diagnosis.Suggestion
import SqlShell.Text.Lines
import SqlShell.Text.Style
import SqlShell.Token.Scan

/-!
# Errors in a source text

* `ParseFault` is what is wrong, `ParseFault.summary` and `ParseFault.message` say it in few and in
  full words;
* `SourceLine` is the line where it is wrong, shown with a caret under the place;
* `ParseError` puts both together with the place and a suggestion, and `ParseError.text` is the
  report a reader gets.
-/

namespace SqlShell

/-! ## Causes -/

/-- What is wrong with a source text. -/
inductive ParseFault where
  /-- No token starts at some character. -/
  | lex (error : LexError)
  /-- No statement starts with the token `found`. -/
  | statement (found : String)
  /-- A statement is not followed by a semicolon but by the token `found`, or by nothing. -/
  | delimiter (found : Option String)
  /-- `expected` was called for where the token `found`, or nothing, stands. -/
  | token (expected : String) (found : Option String)
  /-- No reason is known. -/
  | unexplained
  deriving Repr, DecidableEq

namespace ParseFault

/-- The fault in few words. -/
def summary : ParseFault → String
  | lex error => error.message
  | statement _ | unexplained => "expected statement"
  | delimiter _ => "expected semicolon delimiter between statements"
  | token expected _ => "expected " ++ expected

/-- The fault in full. -/
def message : ParseFault → String
  | lex error => error.message
  | statement found => "Expected statement, found '" ++ found ++ "'"
  | delimiter (some found) =>
    "Expected ';' delimiter between statements, found '" ++ found ++ "'"
  | delimiter none => "Expected ';' delimiter after statement, reached end of input"
  | token expected (some found) => "Expected " ++ expected ++ ", found '" ++ found ++ "'"
  | token expected none => "Expected " ++ expected ++ ", reached end of input"
  | unexplained => "Unexpected error"

end ParseFault

/-! ## The place -/

/-- A line of the source text, its zero-based number, and a column in it. -/
structure SourceLine where
  line : String
  location : Location
  deriving Repr, DecidableEq

namespace SourceLine

/-- The line of a text that holds a location. -/
def find? (text : String) (location : Location) : Option SourceLine :=
  (Text.textLines text.toList)[location.line]?.map fun line => ⟨String.ofList line, location⟩

/-- So many spaces. -/
def spaces (count : Nat) : String :=
  String.ofList (List.replicate count ' ')

/-- The numbered line, and a caret under the column in the next row. -/
def display (color : Bool) (source : SourceLine) : String :=
  let number := toString (source.location.line + 1)
  "  " ++ number ++ " | " ++ source.line ++ "\n" ++
    "  " ++ spaces number.length ++ " | " ++ spaces source.location.column ++
    Text.paint color .red "^"

end SourceLine

/-! ## Errors -/

/-- What is wrong, where, what may have been meant, and the line that shows it. -/
structure ParseError where
  fault : ParseFault
  location : Location
  suggestion : Option Keyword := none
  context : Option SourceLine
  deriving Repr, DecidableEq

namespace ParseError

/-- An error at a location of a text, without a suggestion. -/
def located (text : String) (location : Location) (fault : ParseFault) : ParseError :=
  { fault, location, context := SourceLine.find? text location }

/-- The error of a text that could not be scanned. -/
def ofLex (text : String) (error : LexError) : ParseError :=
  .located text error.location (.lex error)

/-- The report: a title with the one-based place, the message, the suggestion and the line. -/
def text (color : Bool) (error : ParseError) : String :=
  Text.paint color .boldRed "Parse error" ++ " at line " ++ toString (error.location.line + 1) ++
    ":" ++ toString (error.location.column + 1) ++ "\n" ++
    "  " ++ error.fault.message ++ "\n" ++
    (match error.suggestion with
      | none => ""
      | some keyword =>
        "  " ++ Text.paint color .yellow "Did you mean:" ++ " " ++
          Text.paint color .green keyword.display ++ "\n") ++
    (match error.context with
      | none => ""
      | some line => "\n" ++ line.display color ++ "\n")

end ParseError

end SqlShell
