import SqlShell.CommandLine.LogFilter
import SqlShell.CommandLine.Options
import SqlShell.CommandLine.Program
import SqlShell.Diagnosis.ParseError
import SqlShell.Diagnosis.Suggestion
import SqlShell.Diagnosis.Tracker
import SqlShell.Event
import SqlShell.Grammar.Cursor
import SqlShell.Grammar.Listing
import SqlShell.Grammar.Source
import SqlShell.Grammar.Statement
import SqlShell.Location
import SqlShell.Main
import SqlShell.Pattern.Bracket
import SqlShell.Pattern.Check
import SqlShell.Pattern.Escape
import SqlShell.Pattern.Fault
import SqlShell.Pattern.Nesting
import SqlShell.Pattern.Reader
import SqlShell.Session.Basic
import SqlShell.Session.Conversation
import SqlShell.Session.Interactive
import SqlShell.Session.LineEditor
import SqlShell.Session.Report
import SqlShell.Statement.Basic
import SqlShell.Statement.Printer
import SqlShell.Store.Basic
import SqlShell.Store.Cell
import SqlShell.Store.Execute
import SqlShell.Text.Alphanumeric
import SqlShell.Text.Blank
import SqlShell.Text.Bytes
import SqlShell.Text.CharWidth
import SqlShell.Text.Cluster
import SqlShell.Text.ClusterClass
import SqlShell.Text.CodePoints
import SqlShell.Text.Decimal
import SqlShell.Text.Emoji
import SqlShell.Text.Grid
import SqlShell.Text.Lines
import SqlShell.Text.Similarity
import SqlShell.Text.Style
import SqlShell.Text.Upper
import SqlShell.Text.Width
import SqlShell.Token.Basic
import SqlShell.Token.Delimited
import SqlShell.Token.Numeral
import SqlShell.Token.Printer
import SqlShell.Token.Scan
import SqlShell.Token.Word
import SqlShell.Proofs.Grammar.Derivation
import SqlShell.Proofs.Grammar.Unambiguity
import SqlShell.Proofs.Grammar.Contract
import SqlShell.Proofs.Grammar.Series
import SqlShell.Proofs.Grammar.Statements
import SqlShell.Proofs.Diagnosis.Furthest
import SqlShell.Proofs.Grammar.Alternatives
import SqlShell.Proofs.Grammar.Acceptance
import SqlShell.Proofs.Grammar.FailingStatement
import SqlShell.Proofs.Grammar.CorrectPrefix
import SqlShell.Proofs.Diagnosis.Classification
import SqlShell.Proofs.Lexing.Lexemes
import SqlShell.Proofs.Lexing.Tiling
import SqlShell.Proofs.Lexing.ReadBack
import SqlShell.Proofs.Printing.Layout
import SqlShell.Proofs.Grammar.Relocation
import SqlShell.Proofs.Printing.RoundTrip
import SqlShell.Proofs.Printing.SpacedTokens
import SqlShell.Proofs.Store.Replay
import SqlShell.Proofs.Store.Spelled
import SqlShell.Proofs.Store.Isolation
import SqlShell.Proofs.Store.Selection
import SqlShell.Proofs.Store.Integers
import SqlShell.Proofs.Session.Effects
import SqlShell.Proofs.Session.Scripts
import SqlShell.Proofs.Session.Division
import SqlShell.Proofs.Session.Piped
import SqlShell.Proofs.Lexing.Settled
import SqlShell.Proofs.Grammar.Fragments
import SqlShell.Proofs.Session.Progress
import SqlShell.Proofs.Session.Batch
import SqlShell.Proofs.Session.Echoes
import SqlShell.Proofs.Store.Rebuild
import SqlShell.Proofs.Grammar.Shift
import SqlShell.Proofs.Lexing.Shift
import SqlShell.Proofs.Lexing.Gaps
import SqlShell.Proofs.Lexing.BareNames
import SqlShell.Proofs.Lexing.LongestNumeral
import SqlShell.Proofs.Lexing.NumeralBytes
import SqlShell.Proofs.Grammar.Concatenation
import SqlShell.Proofs.Lexing.LetterCase
import SqlShell.Proofs.Session.Accounts
import SqlShell.Proofs.Session.Capacity
import SqlShell.Proofs.Session.Lockstep
import SqlShell.Proofs.Diagnosis.Caret
import SqlShell.Proofs.Diagnosis.History
import SqlShell.Proofs.Grammar.Events
import SqlShell.Proofs.Session.Tables
import SqlShell.Proofs.Store.Provenance
import SqlShell.Proofs.Text.Styled
import SqlShell.Proofs.Session.Legible
import SqlShell.Proofs.Session.Colors
import SqlShell.Proofs.Lexing.Elimination
import SqlShell.Proofs.Lexing.DelimitedLiterals
import SqlShell.Proofs.Grammar.ExpressionLists
import SqlShell.Proofs.Grammar.Recording
import SqlShell.Proofs.Grammar.RecordedStatements
import SqlShell.Proofs.Grammar.Independence
