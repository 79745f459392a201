import SqlShell.Event
import SqlShell.Grammar.Statement

/-!
# Reading with a record

A `Source` is a text with its tokens. Its grammars are those of `SqlShell.Grammar.Statement`, run at
a position, with a `Journal` that is written as they run: the furthest failure so far and the events.
A grammar that fails leaves one failure in the journal, one that succeeds leaves none. What a grammar
reads never depends on the journal; only the choice of an error does.
-/

namespace SqlShell

/-- A text and the tokens of it. -/
structure Source where
  text : String
  tokens : List Token

/-- The record of a reading. -/
structure Journal where
  tracker : Tracker := {}
  events : Array Event := #[]

/-- The journal with one more event. -/
def Journal.log (journal : Journal) (event : Event) : Journal :=
  { journal with events := journal.events.push event }

namespace Source

/-- The cursor at a token position. -/
def cursorAt (source : Source) (position : Nat) : Cursor :=
  .ofTokens source.tokens position

/-- Where the last token stands. -/
def endLocation (source : Source) : Location :=
  (source.tokens.getLast?.map (·.location)).getD {}

/-! ## Failures -/

/-- The failure to find `expected` at a position where `found` stands. At the end of the tokens it
is placed at the last one. -/
def failure (source : Source) (position : Nat) (expected : String) (found : Option Token) :
    Failure :=
  { position
    location := (found.map (·.location)).getD source.endLocation
    expected
    found := found.map (·.value) }

/-- Write a failure into the journal. -/
def note (source : Source) (position : Nat) (expected : String) (found : Option Token)
    (journal : Journal) : Journal :=
  let failure := source.failure position expected found
  { journal with tracker := journal.tracker.track failure }.log (.expectationFailed failure)

/-- Write a mismatch into the journal. -/
def noteMismatch (source : Source) (journal : Journal) (mismatch : Mismatch) : Journal :=
  source.note mismatch.position mismatch.expected.text mismatch.found journal

/-- The result of a grammar, with its failure written into the journal. -/
def noted {α : Type} (source : Source) (result : Except Mismatch (α × Cursor)) (journal : Journal) :
    Option (α × Cursor) × Journal :=
  match result with
  | .ok parsed => (some parsed, journal)
  | .error mismatch => (none, source.noteMismatch journal mismatch)

/-! ## Grammars at a position -/

/-- An expectation of the caller's own that fails at a position. -/
def expectAt (source : Source) (position : Nat) (expected : String) (journal : Journal) : Journal :=
  source.note position expected (source.cursorAt position).current? journal

/-- Expressions up to one of some closing tokens. -/
def literals (source : Source) (position : Nat) (stops : List Token) (journal : Journal) :
    Option (List Token × Cursor) × Journal :=
  source.noted ((source.cursorAt position).literals stops) journal

/-- A `SELECT`, whose expressions `stop` ends. -/
def select (source : Source) (position : Nat) (stop : Token) (journal : Journal) :
    Option (Statement × Cursor) × Journal :=
  source.noted ((source.cursorAt position).select stop) journal

/-- An `INSERT`. -/
def insert (source : Source) (position : Nat) (journal : Journal) :
    Option (Statement × Cursor) × Journal :=
  source.noted (source.cursorAt position).insert journal

/-- A `CREATE TABLE`. -/
def createTable (source : Source) (position : Nat) (journal : Journal) :
    Option (Statement × Cursor) × Journal :=
  source.noted (source.cursorAt position).createTable journal

/-- Any statement, at a cursor. -/
def statementAt (source : Source) (cursor : Cursor) (journal : Journal) :
    Option (Statement × Cursor) × Journal :=
  (cursor.statement.parsed, cursor.statement.mismatches.foldl source.noteMismatch journal)

/-- Any statement. -/
def statement (source : Source) (position : Nat) (journal : Journal) :
    Option (Statement × Cursor) × Journal :=
  source.statementAt (source.cursorAt position) journal

/-! ## Whole scripts -/

/-- Why no statement starts at a cursor, given the failures there. When a grammar got past its
first word, the furthest failure tells; otherwise the token at the cursor starts no statement. -/
def statementError (source : Source) (cursor : Cursor) (tracker : Tracker) : ParseError :=
  let furthest := tracker.error source.text
  let startedOne := tracker.position.any (cursor.position < ·)
  match cursor.current? with
  | some token =>
    if startedOne then furthest
    else
      { ParseError.located source.text token.location (.statement token.value) with
        suggestion := furthest.suggestion }
  | none => furthest

/-- Where a semicolon is missing: at the token that stands there, or at the last one. -/
def delimiterLocation (source : Source) (cursor : Cursor) : Location :=
  (cursor.current?.map (·.location)).getD source.endLocation

/-- The error of a statement without a semicolon. -/
def delimiterError (source : Source) (cursor : Cursor) : ParseError :=
  .located source.text (source.delimiterLocation cursor) (.delimiter (cursor.current?.map (·.value)))

/-- Read statements from a cursor to the end of the tokens, each with at least one semicolon behind
it. The first fault ends the reading. -/
def scriptFrom (source : Source) (cursor : Cursor) (journal : Journal) :
    Except ParseError Script × Journal :=
  if cursor.rest.isEmpty then
    (.ok [], journal)
  else
    match _found : source.statementAt cursor { journal with tracker := {} } with
    | (none, journal) => (.error (source.statementError cursor journal.tracker), journal)
    | (some (statement, behind), journal) =>
      let journal := journal.log (.parsedStatement statement)
      match _run : behind.semicolons? with
      | none =>
        (.error (source.delimiterError behind),
          journal.log (.missingDelimiter (source.delimiterLocation behind)))
      | some next =>
        let (script, journal) := source.scriptFrom next journal
        (script.map (statement :: ·), journal)
termination_by cursor.rest.length
decreasing_by
  exact Nat.lt_of_lt_of_le (Cursor.reaches_of_semicolons? _run).2
    (Cursor.reaches_of_statement (congrArg Prod.fst _found)).length_le

/-- Read all the tokens. -/
def script (source : Source) (journal : Journal) : Except ParseError Script × Journal :=
  source.scriptFrom (source.cursorAt 0) journal

end Source

namespace Script

/-- The script that a text holds, and the events of reading it. The first fault in the text, be it
in its characters or in its tokens, makes the whole text unreadable. -/
def read (text : String) : Except ParseError Script × List Event :=
  let scan := Scan.ofText text
  match scan.error with
  | some error => (.error (.ofLex text error), scan.events)
  | none =>
    let (result, journal) := Source.script ⟨text, scan.tokens⟩ {}
    (result, scan.events ++ journal.events.toList)

/-- The script that a text holds. -/
def parse (text : String) : Except ParseError Script :=
  (read text).1

end Script

end SqlShell
