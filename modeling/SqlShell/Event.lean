import SqlShell.Diagnosis.Tracker
import SqlShell.Statement.Printer

/-!
# Events

What the program tells an observer while it works. An event has a `level`, a `message` and named
`fields`, each a number or a text.
-/

namespace SqlShell

/-- How much an event matters. -/
inductive Level where
  | trace
  | debug
  | info
  | warn
  deriving Repr, DecidableEq

/-- The name of a level. -/
def Level.name : Level → String
  | .trace => "TRACE"
  | .debug => "DEBUG"
  | .info => "INFO"
  | .warn => "WARN"

/-- The value of a field. -/
inductive FieldValue where
  | number (n : Nat)
  | text (s : String)
  deriving Repr, DecidableEq

/-- Something that happened. -/
inductive Event where
  | lexedToken (token : Token)
  | lexingFailed (lexed : Nat) (error : LexError)
  | expectationFailed (failure : Failure)
  | parsedStatement (statement : Statement)
  | missingDelimiter (location : Location)
  | createdTable (table : String) (columns : Nat)
  | insertedRow (table : String) (rows : Nat)
  | executedStatement (statement : Statement)
  | statementFailed (error : String)
  deriving Repr, DecidableEq

namespace Event

/-- The level of an event. -/
def level : Event → Level
  | lexedToken _ => .trace
  | lexingFailed .. | expectationFailed _ | parsedStatement _ | missingDelimiter _
  | createdTable .. | insertedRow .. => .debug
  | executedStatement _ => .info
  | statementFailed _ => .warn

/-- What happened, in words. -/
def message : Event → String
  | lexedToken _ => "lexed token"
  | lexingFailed .. => "lexing failed"
  | expectationFailed _ => "expectation failed"
  | parsedStatement _ => "parsed statement"
  | missingDelimiter _ => "missing statement delimiter"
  | createdTable .. => "created table"
  | insertedRow .. => "inserted row"
  | executedStatement _ => "executed statement"
  | statementFailed _ => "statement failed"

/-- The details. -/
def fields : Event → List (String × FieldValue)
  | lexedToken token =>
    [("token", .text token.display), ("location", .text token.location.text)]
  | lexingFailed lexed error => [("lexed", .number lexed), ("hint", .text error.hint)]
  | expectationFailed failure =>
    [("line", .number failure.location.line), ("column", .number failure.location.column),
      ("expected", .text failure.expected),
      ("found", .text (failure.found.getD "end of input"))]
  | parsedStatement statement =>
    [("kind", .text statement.name), ("statement", .text statement.toSql)]
  | missingDelimiter location =>
    [("line", .number location.line), ("column", .number location.column)]
  | createdTable table columns => [("table", .text table), ("columns", .number columns)]
  | insertedRow table rows => [("table", .text table), ("rows", .number rows)]
  | executedStatement statement => [("kind", .text statement.name)]
  | statementFailed error => [("error", .text error)]

end Event

/-- What an observer hears of a scan: each token, and the failure if there was one. -/
def Scan.events (scan : Scan) : List Event :=
  scan.tokens.map .lexedToken ++
    match scan.error with
    | none => []
    | some error => [.lexingFailed scan.tokens.length error]

end SqlShell
