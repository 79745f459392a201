import SqlShell.Grammar.Source
import SqlShell.Session.Report

/-!
# Sessions

A `Session` is a store, an output and a record of events. A `Shell` action works on a session and
may fail with a `ShellError`; what it did to the session before stays done.

The output is a `Sink` that may have room for a limited number of bytes. It remembers all the text
that was offered to it, and `Sink.bytes` is the part that it had room for. An action that offers
text beyond the room fails.
-/

namespace SqlShell

/-! ## Output -/

/-- The text offered to an output, and the bytes it has room for, if that is limited. -/
structure Sink where
  capacity : Option Nat := none
  offered : String := ""
  deriving DecidableEq

namespace Sink

/-- Whether all that was offered has room. -/
def Fits (sink : Sink) : Prop :=
  ∀ capacity ∈ sink.capacity, sink.offered.utf8ByteSize ≤ capacity

instance (sink : Sink) : Decidable sink.Fits :=
  inferInstanceAs (Decidable (∀ capacity ∈ sink.capacity, _))

/-- The bytes that were taken: of the text offered, as much as there is room for. -/
def bytes (sink : Sink) : ByteArray :=
  match sink.capacity with
  | none => sink.offered.toUTF8
  | some capacity => sink.offered.toUTF8.extract 0 capacity

end Sink

/-! ## Errors -/

/-- Why a session cannot go on. -/
inductive ChannelError where
  /-- The output has no room left. -/
  | outputFull
  /-- A line of the input is not UTF-8. -/
  | invalidUtf8
  deriving Repr, DecidableEq

/-- The error in words. -/
def ChannelError.message : ChannelError → String
  | outputFull => "output is full"
  | invalidUtf8 => "stream did not contain valid UTF-8"

/-- Why an action fails. -/
inductive ShellError where
  | parse (error : ParseError)
  | execution (error : ExecutionError)
  | channel (error : ChannelError)
  deriving Repr, DecidableEq

/-- The report of an error. -/
def ShellError.text (color : Bool) : ShellError → String
  | parse error => error.text color
  | execution error => "Execution error: " ++ error.message
  | channel error => error.message

/-! ## Actions -/

/-- How a session talks. -/
structure Settings where
  /-- What asks for a new statement. -/
  prompt : String := "# "
  /-- Whether each statement is repeated in canonical form before it is executed. -/
  echo : Bool := false
  /-- Whether texts are styled. -/
  color : Bool := false
  deriving Repr, DecidableEq

/-- Where a session stands. -/
structure Session where
  store : Store := .empty
  output : Sink := {}
  events : Array Event := #[]

/-- An action on a session. -/
abbrev Shell := EStateM ShellError Session

namespace Shell

/-- Offer a text to the output. -/
def say (text : String) : Shell Unit := do
  modify fun session =>
    { session with output.offered := session.output.offered ++ text }
  unless (← get).output.Fits do
    throw (.channel .outputFull)

/-- Let an observer hear of events. -/
def observe (events : List Event) : Shell Unit :=
  modify fun session => { session with events := session.events ++ events.toArray }

/-- Execute a statement on the store. -/
def perform (statement : Statement) : Shell Outcome := do
  match (← get).store.execute statement with
  | .error error store =>
    modify fun session => { session with store }
    throw (.execution error)
  | .ok outcome store =>
    modify fun session => { session with store }
    observe outcome.events
    return outcome

/-- Execute a statement and print what it yields, after the statement itself if that is asked for. -/
def runStatement (settings : Settings) (statement : Statement) : Shell Unit := do
  if settings.echo then
    say (Text.paint settings.color .dimmed (statement.toSql ++ ";") ++ "\n")
  let outcome ← perform statement
  say outcome.report
  observe [.executedStatement statement]

/-- Run statements in order up to the first that fails. -/
def runStatements (settings : Settings) : Script → Shell Unit
  | [] => return
  | statement :: script => do
    runStatement settings statement
    runStatements settings script

/-- Run a text. Nothing of it is executed when it cannot be read as a whole. -/
def runScript (settings : Settings) (text : String) : Shell Unit := do
  let (result, events) := Script.read text
  observe events
  match result with
  | .error error => throw (.parse error)
  | .ok script => runStatements settings script

end Shell

end SqlShell
