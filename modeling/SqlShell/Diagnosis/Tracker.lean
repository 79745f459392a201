import SqlShell.Diagnosis.ParseError

/-!
# The furthest failure

Several grammars are tried on the same tokens, and each that fails says what it expected where. The
`Tracker` keeps the failures at the furthest position: the place and the token of the first of them,
and what each of them expected, once each, in the order of arrival. `Tracker.error` turns them into
the error to report.
-/

namespace SqlShell

/-- `expected` was called for at the token position `position`, where `found` stands. -/
structure Failure where
  position : Nat
  location : Location
  expected : String
  found : Option String
  deriving Repr, DecidableEq

/-- The failures at one position. -/
structure Furthest where
  position : Nat
  location : Location
  expected : List String
  found : Option String
  deriving Repr, DecidableEq

/-- A failure on its own. -/
def Furthest.ofFailure (failure : Failure) : Furthest :=
  ⟨failure.position, failure.location, [failure.expected], failure.found⟩

/-- One more expectation at the same position. -/
def Furthest.also (furthest : Furthest) (expected : String) : Furthest :=
  if expected ∈ furthest.expected then furthest
  else { furthest with expected := furthest.expected ++ [expected] }

/-- The expectations in words. -/
def Furthest.wanted (furthest : Furthest) : String :=
  match furthest.expected with
  | [expected] => expected
  | several => "one of: " ++ String.intercalate ", " several

/-- The failures at the furthest position so far, if there are any. -/
structure Tracker where
  furthest : Option Furthest := none
  deriving Repr, DecidableEq

namespace Tracker

/-- Take note of a failure. -/
def track (tracker : Tracker) (failure : Failure) : Tracker :=
  match tracker.furthest with
  | none => ⟨some (.ofFailure failure)⟩
  | some furthest =>
    if failure.position < furthest.position then tracker
    else if failure.position = furthest.position then ⟨some (furthest.also failure.expected)⟩
    else ⟨some (.ofFailure failure)⟩

/-- The furthest position so far. -/
def position (tracker : Tracker) : Option Nat :=
  tracker.furthest.map (·.position)

/-- The error that the furthest failures amount to, for a given source text. -/
def error (tracker : Tracker) (text : String) : ParseError :=
  match tracker.furthest with
  | none => .located text {} .unexplained
  | some furthest =>
    { ParseError.located text furthest.location (.token furthest.wanted furthest.found) with
      suggestion := furthest.found.bind Keyword.suggest }

end Tracker

end SqlShell
