import SqlShell.Pattern.Bracket
import SqlShell.Text.Alphanumeric
import SqlShell.Text.Decimal

/-!
# Checking a pattern

Whether a text is a regular expression that a filter can match with. The texts that are checked are
cut out of a filter where commas, equals signs and closing braces end them, so no repetition with a
count and no name in braces is ever complete.

`refusal?` answers with the first fault of form, else with the first part that is nested too deep,
else with the first fault of meaning; a pattern without any is still refused when it asks for
boundaries between words of any language.
-/

namespace SqlShell.Pattern

/-! ## Flags -/

/-- A sign in front of a group. -/
inductive FlagSign where
  /-- What follows is switched off. -/
  | negation
  | ignoreCase
  | unicode
  | extended
  /-- A flag that a check need not know. -/
  | other (letter : Char)
  deriving Repr, DecidableEq

/-- The sign that a character stands for. -/
def FlagSign.ofChar? (c : Char) : Option FlagSign :=
  if c = '-' then some .negation
  else if c = 'i' then some .ignoreCase
  else if c = 'u' then some .unicode
  else if c = 'x' then some .extended
  else if "msUR".contains c then some (.other c)
  else none

/-- The flags after signs, given whether they switch on. -/
def Flags.apply (on : Bool) (flags : Flags) : List FlagSign → Flags
  | [] => flags
  | .negation :: signs => flags.apply false signs
  | .ignoreCase :: signs => { flags with ignoreCase := on }.apply on signs
  | .unicode :: signs => { flags with unicode := on }.apply on signs
  | .extended :: signs => { flags with extended := on }.apply on signs
  | .other _ :: signs => flags.apply on signs

/-- Read signs up to a colon or a bracket, behind signs that have been read. -/
def flagStep (signs : List (FlagSign × Span)) :
    Reading (Step (List (FlagSign × Span)) (List (FlagSign × Span))) := do
  match ← Reading.peek? with
  | none => Reading.fail .unfinishedFlags (← Reading.emptySpan)
  | some c =>
    if c = ':' ∨ c = ')' then
      match signs.getLast? with
      | some (.negation, span) => Reading.fail .danglingNegation span
      | _ => return .finish signs
    else
      let span ← Reading.charSpan
      match FlagSign.ofChar? c with
      | none => Reading.fail .unknownFlag span
      | some sign =>
        match signs.lookup sign with
        | some earlier =>
          let problem := if sign = .negation then Problem.repeatedNegation else .duplicateFlag
          throw { problem, span, earlier := some earlier }
        | none =>
          Reading.bump
          return .again (signs ++ [(sign, span)])

/-! ## Groups -/

/-- Whether a character may stand in the name of a group. -/
def isNameChar (first : Bool) (c : Char) : Bool :=
  c == '_' ||
    (if first then Text.isAlphabetic c
    else c == '.' || c == '[' || c == ']' || Text.isAlphanumeric c)

/-- Read a name up to its angle bracket, behind some of its characters. -/
def nameStep (name : List Char) : Reading (Step (List Char) (List Char)) := do
  match ← Reading.peek? with
  | none => Reading.fail .unfinishedName (← Reading.emptySpan)
  | some '>' => return .finish name
  | some c =>
    if isNameChar name.isEmpty c then
      Reading.bump
      return .again (name ++ [c])
    else
      Reading.fail .invalidName (← Reading.charSpan)

/-- Read the name of a group. No two groups have the same name. -/
def readName : Reading Unit := do
  let start ← Reading.place
  let name := String.ofList (← Reading.loop [] nameStep [])
  let span ← Reading.spanFrom start
  Reading.bump
  if name.isEmpty then
    Reading.fail .emptyName (.at start)
  match (← get).names.lookup name with
  | some earlier => throw { problem := .duplicateName, span, earlier := some earlier }
  | none => modify fun reader => { reader with names := (name, span) :: reader.names }

/-- A group that has not been closed: its bracket, and the flags around it. -/
structure OpenGroup where
  opening : Span
  outside : Flags

/-- What an opening bracket begins. -/
inductive Opening where
  | group (group : OpenGroup)
  /-- Flags for what follows. -/
  | directive

/-- Set flags by signs. -/
def applyFlags (signs : List (FlagSign × Span)) : Reading Unit :=
  modify fun reader => { reader with flags := reader.flags.apply true (signs.map (·.1)) }

/-- Read flags behind a question mark, and the colon or the bracket behind them. -/
def readFlags (group : OpenGroup) (inside : Span) : Reading Opening := do
  if ← Reading.atEnd then
    Reading.fail .unclosedGroup group.opening
  let signs ← Reading.loop [] flagStep []
  let close := (← Reading.peek?) = some ')'
  Reading.bump
  if close && signs.isEmpty then
    Reading.fail .missingOperand inside
  applyFlags signs
  return if close then .directive else .group group

/-- The signs that would begin a look at what is ahead or behind. -/
def lookAroundSigns : List String :=
  ["?=", "?!", "?<=", "?<!"]

/-- Read the start of a group. -/
def openGroup : Reading Opening := do
  let opening ← Reading.charSpan
  let group : OpenGroup := { opening, outside := (← get).flags }
  Reading.bumpBlanks
  for sign in lookAroundSigns do
    if ← Reading.bumpText? sign then
      Reading.fail .lookAround (← Reading.spanFrom opening.start)
  let inside ← Reading.emptySpan
  if (← Reading.bumpText? "?P<") || (← Reading.bumpText? "?<") then
    readName
    return .group group
  else if ← Reading.bumpText? "?" then
    readFlags group inside
  else
    return .group group

/-! ## Bodies -/

/-- What has been read of the inside of a group, or of the whole pattern: some alternatives, and the
parts of the one that is being read. -/
structure Body where
  start : Location
  /-- The alternatives in front, the last one first. -/
  alternatives : List Nest := []
  /-- Where the alternative that is being read begins. -/
  branch : Location
  /-- Its parts, the last one first. -/
  parts : List Nest := []
  /-- Whether the last part may be repeated. -/
  repeatable : Bool := false

/-- A body in which nothing has been read. -/
def Body.at (place : Location) : Body where
  start := place
  branch := place

namespace Body

/-- The body with one more part. -/
def push (body : Body) (part : Nest) (repeatable : Bool) : Body :=
  { body with parts := part :: body.parts, repeatable }

/-- The part that a repetition repeats. -/
def operand? (body : Body) : Option Nest :=
  if body.repeatable then body.parts.head? else none

/-- The body with its last part repeated, up to a place. -/
def repeated (body : Body) (operand : Nest) (stop : Location) : Body :=
  { body with parts := .inner ⟨operand.span.start, stop⟩ [operand] :: body.parts.tail }

/-- The alternative that is being read, up to a place. -/
def lastAlternative (body : Body) (stop : Location) : Nest :=
  .ofList ⟨body.branch, stop⟩ body.parts.reverse

/-- The body in front of another alternative, which begins behind a bar. -/
def alternative (body : Body) (bar : Span) : Body where
  start := body.start
  alternatives := body.lastAlternative bar.start :: body.alternatives
  branch := bar.stop

/-- The whole body, up to a place. -/
def close (body : Body) (stop : Location) : Nest :=
  .ofList ⟨body.start, stop⟩ (body.lastAlternative stop :: body.alternatives).reverse

end Body

/-! ## Repetitions -/

/-- Read a count in braces. No brace closes, so only its fault is to be found. -/
def readCount : Reading Unit := do
  let start ← Reading.place
  Reading.bumpBlanks
  let unclosed : Reading Unit := do Reading.fail .unclosedCount (← Reading.spanFrom start)
  if ← Reading.atEnd then
    unclosed
  Reading.skip (((← get).rest.takeWhile Text.isBlank).length)
  let first ← Reading.place
  let digits ← Reading.loop [] (fun digits => do
    match ← Reading.peek? with
    | some c =>
      if c.isDigit then
        Reading.bumpBlanks
        return .again (digits ++ [c])
      else
        return .finish digits
    | none => return .finish digits) []
  let span ← Reading.spanFrom first
  Reading.loop () (fun (_ : Unit) => do
    match ← Reading.peek? with
    | some c =>
      if Text.isBlank c then
        Reading.bumpBlanks
        return .again ()
      else
        return .finish ()
    | none => return .finish ()) ()
  if ← Reading.atEnd then
    unclosed
  match Text.digits? digits with
  | none => Reading.fail .emptyCount span
  | some count => if count < 4294967296 then unclosed else Reading.fail .decimalTooLarge span

/-- Read the sign of a repetition, and the question mark that makes it prefer few turns. -/
def readRepetition (body : Body) (sign : Char) : Reading Body := do
  match body.operand? with
  | none => Reading.fail .missingOperand (← Reading.emptySpan)
  | some operand =>
    if sign = '\x7b' then
      readCount
    else
      Reading.bump
      if (← Reading.peek?) = some '?' then
        Reading.bump
    return body.repeated operand (← Reading.place)

/-! ## Whole patterns -/

/-- How far a pattern has been read: the body that is being read, and the groups around it, each with
the body that it stands in. -/
structure Progress where
  body : Body
  groups : List (OpenGroup × Body) := []

/-- Read on in a pattern. -/
def patternStep (progress : Progress) : Reading (Step Progress Nest) := do
  let ⟨body, groups⟩ := progress
  Reading.skipBlanks
  let start ← Reading.place
  match ← Reading.peek? with
  | none =>
    match groups with
    | [] => return .finish (body.close start)
    | (group, _) :: _ => Reading.fail .unclosedGroup group.opening
  | some '(' =>
    match ← openGroup with
    | .group group => return .again ⟨.at (← Reading.place), (group, body) :: groups⟩
    | .directive => return .again ⟨body.push (.leaf (← Reading.spanFrom start)) false, groups⟩
  | some ')' =>
    match groups with
    | [] => Reading.fail .unopenedGroup (← Reading.charSpan)
    | (group, outer) :: groups =>
      Reading.bump
      modify fun reader => { reader with flags := group.outside }
      let span ← Reading.spanFrom group.opening.start
      return .again ⟨outer.push (.inner span [body.close start]) true, groups⟩
  | some '|' =>
    let bar ← Reading.charSpan
    Reading.bump
    return .again ⟨body.alternative bar, groups⟩
  | some '[' => return .again ⟨body.push (← readClass) true, groups⟩
  | some c =>
    if c = '?' ∨ c = '*' ∨ c = '+' ∨ c = '\x7b' then
      return .again ⟨← readRepetition body c, groups⟩
    else
      let part ← readPart c
      checkPart part
      return .again ⟨body.push (.leaf part.span) true, groups⟩

/-- Read a whole pattern. -/
def readPattern : Reading Nest := do
  let start ← Reading.place
  Reading.loop (.leaf (.at start)) patternStep ⟨.at start, []⟩

/-- Why a pattern is refused. -/
inductive Refusal where
  | fault (fault : Fault)
  /-- It asks for boundaries between words of any language. -/
  | wordBoundary
  deriving Repr, DecidableEq

/-- Why a pattern is refused, if it is. -/
def refusal? (pattern : List Char) : Option Refusal :=
  match readPattern.run { rest := pattern } with
  | .error fault _ => some (.fault fault)
  | .ok nest reader =>
    match nest.excess? nestLimit with
    | some span => some (.fault { problem := .nestedTooDeep, span })
    | none =>
      match reader.noted with
      | some fault => some (.fault fault)
      | none => if reader.wordBoundary then some .wordBoundary else none

end SqlShell.Pattern
