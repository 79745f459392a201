import SqlShell.Pattern.Fault
import SqlShell.Text.Blank

/-!
# Reading a pattern

A `Reading` action reads on in a pattern, or fails with a fault. A fault of form ends the reading; a
fault of meaning is only noted, since any fault of form behind it counts more, and the first that is
noted is the one that counts among its kind.

In the extended style white space and comments may stand between the parts of a pattern.
-/

namespace SqlShell.Pattern

/-! ## The state of a reader -/

/-- The flags that change what a pattern means. -/
structure Flags where
  ignoreCase : Bool := false
  unicode : Bool := true
  extended : Bool := false
  deriving Repr, DecidableEq

/-- How far a pattern has been read. -/
structure Reader where
  rest : List Char
  place : Location := {}
  flags : Flags := {}
  /-- The names of groups and where they stand. -/
  names : List (String × Span) := []
  /-- The first fault of meaning. -/
  noted : Option Fault := none
  /-- Whether a boundary between words of any language has been read. -/
  wordBoundary : Bool := false

/-- An action that reads on in a pattern. -/
abbrev Reading := EStateM Fault Reader

/-- What a step of a loop comes to. -/
inductive Step (σ β : Type) where
  | again (state : σ)
  | finish (result : β)

/-- Repeat a step until it finishes, at most some number of times. -/
def repeatStep {σ β : Type} (fallback : β) (step : σ → Reading (Step σ β)) :
    Nat → σ → Reading β
  | 0, _ => return fallback
  | turns + 1, state => do
    match ← step state with
    | .again state => repeatStep fallback step turns state
    | .finish result => return result

namespace Reading

/-- Repeat a step until it finishes. Every step but the last reads a character. -/
def loop {σ β : Type} (fallback : β) (step : σ → Reading (Step σ β)) (state : σ) :
    Reading β := do
  repeatStep fallback step ((← get).rest.length + 1) state

/-- Fail at a stretch of the pattern. -/
def fail {α : Type} (problem : Problem) (span : Span) : Reading α :=
  throw { problem, span }

/-- Note a fault of meaning, unless one has been noted before. -/
def note (problem : Problem) (span : Span) : Reading Unit :=
  modify fun reader => { reader with noted := reader.noted <|> some { problem, span } }

/-- The next character, unless the pattern ends. -/
def peek? : Reading (Option Char) :=
  return (← get).rest.head?

/-- The place of the next character. -/
def place : Reading Location :=
  return (← get).place

/-- The stretch from a place up to the next character. -/
def spanFrom (start : Location) : Reading Span :=
  return ⟨start, ← place⟩

/-- The stretch of no character in front of the next. -/
def emptySpan : Reading Span :=
  return .at (← place)

/-- The stretch of the next character. -/
def charSpan : Reading Span := do
  let reader ← get
  return ⟨reader.place, reader.place.advance (reader.rest.take 1)⟩

/-- Read some number of characters. -/
def skip (count : Nat) : Reading Unit :=
  modify fun reader =>
    { reader with
      rest := reader.rest.drop count
      place := reader.place.advance (reader.rest.take count) }

/-- Read a character. -/
def bump : Reading Unit :=
  skip 1

/-- Read a text if it comes next. -/
def bumpText? (text : String) : Reading Bool := do
  if text.toList.isPrefixOf (← get).rest then
    skip text.length
    return true
  else
    return false

end Reading

/-! ## White space -/

/-- The number of characters of white space and comments in front of a pattern, given whether a
comment has been begun. -/
def blankLength (comment : Bool) : List Char → Nat
  | [] => 0
  | c :: rest =>
    if comment then blankLength (c ≠ '\n') rest + 1
    else if Text.isBlank c then blankLength false rest + 1
    else if c = '#' then blankLength true rest + 1
    else 0

namespace Reading

/-- Read the white space and the comments that the extended style allows. -/
def skipBlanks : Reading Unit := do
  let reader ← get
  if reader.flags.extended then
    skip (blankLength false reader.rest)

/-- Read a character and what white space follows it. -/
def bumpBlanks : Reading Unit := do
  bump
  skipBlanks

/-- Whether the pattern ends here. -/
def atEnd : Reading Bool :=
  return (← get).rest.isEmpty

/-- The character behind the next one. -/
def peekSecond? : Reading (Option Char) :=
  return (← get).rest.tail.head?

/-- The character behind the next one, where in the extended style the white space between them and
the start of a comment are passed over if something follows them. -/
def peekSecondPastBlanks? : Reading (Option Char) := do
  let reader ← get
  let behind := reader.rest.tail
  if reader.flags.extended then
    let found := match behind.dropWhile Text.isBlank with
      | '#' :: more => (more.dropWhile Text.isBlank).head?
      | more => more.head?
    return found <|> behind.head?
  else
    return behind.head?

end Reading

end SqlShell.Pattern
