import SqlShell.Pattern.Escape
import SqlShell.Pattern.Nesting

/-!
# Classes in brackets

A class lists characters, ranges, named classes and further classes in brackets, and `&&`, `--` and
`~~` combine lists. Brackets nest, so the reader keeps the classes around the one it is in.

What a class means is checked as far as it can be wrong: letters cannot be taken in either case, a
class of bytes must not hold a byte that is no text, and only ASCII is written in it.
-/

namespace SqlShell.Pattern

/-! ## Lists of characters -/

/-- What has been read of a list of characters. -/
structure CharList where
  /-- From its first item to its last, or where it begins if it has none. -/
  span : Span
  /-- Its items, the last one first. -/
  items : List Nest := []
  /-- Whether it holds letters of one case that have to be taken in either case. -/
  cased : Bool := false

/-- A list without items. -/
def CharList.at (place : Location) : CharList where
  span := .at place

/-- The list with one more item. -/
def CharList.push (list : CharList) (item : Nest) (cased : Bool) : CharList where
  span := ⟨if list.items.isEmpty then item.span.start else list.span.start, item.span.stop⟩
  items := item :: list.items
  cased := list.cased || cased

/-- What a class holds, or a side of a combination: a list, or a combination itself. -/
structure CharSet where
  nest : Nest
  /-- Whether it holds letters of one case that have to be taken in either case. -/
  cased : Bool

/-- A whole list. -/
def CharList.toSet (list : CharList) : CharSet where
  nest := .ofList list.span list.items.reverse
  cased := list.cased

/-- A class in brackets that has not been closed. -/
structure OpenClass where
  start : Location
  /-- From the bracket to the first item that is not taken literally for its place. -/
  opening : Span
  negated : Bool
  /-- The left side of a combination whose right side is being read. -/
  left : Option CharSet := none
  list : CharList

/-- The names of classes of ASCII. -/
def asciiClassNames : List String :=
  ["alnum", "alpha", "ascii", "blank", "cntrl", "digit", "graph", "lower", "print", "punct", "space",
    "upper", "word", "xdigit"]

/-- The length of a named class, such as `[:alpha:]`, in front of a text, and whether it is
negated. -/
def asciiClass? : List Char → Option (Nat × Bool)
  | '[' :: ':' :: text =>
    let negated := text.head? = some '^'
    let body := if negated then text.tail else text
    let name := body.takeWhile (· ≠ ':')
    if [':', ']'].isPrefixOf (body.drop name.length) && asciiClassNames.contains (String.ofList name)
    then some (name.length + (if negated then 5 else 4), negated)
    else none
  | _ => none

/-! ## Meaning -/

/-- Check that letters need not be taken in either case. -/
def checkCase (cased : Bool) (span : Span) : Reading Unit := do
  let flags := (← get).flags
  if flags.unicode && flags.ignoreCase && cased then
    Reading.note .unavailableCase span

/-- Check that a class does not hold bytes that are no text. -/
def checkNegation (negated : Bool) (span : Span) : Reading Unit := do
  if negated && !(← get).flags.unicode then
    Reading.note .invalidUtf8 span

/-- Check a character in brackets. -/
def checkMember (c : Char) (byte : Bool) (span : Span) : Reading Unit := do
  unless (← get).flags.unicode do
    if isLoneByte c byte then
      Reading.note .invalidUtf8 span
    else if 0x80 ≤ c.toNat then
      Reading.note .unicodeNotAllowed span

/-- Combine a left side, if there is one, with a right side. The right one is checked first. -/
def combine (left : Option CharSet) (right : CharSet) : Reading CharSet := do
  match left with
  | none => return right
  | some left =>
    checkCase right.cased right.nest.span
    checkCase left.cased left.nest.span
    let span : Span := ⟨left.nest.span.start, right.nest.span.stop⟩
    return { nest := .inner span [left.nest, right.nest], cased := false }

/-! ## Items -/

/-- Fail since a class does not end. -/
def failUnclosed {α : Type} (open? : OpenClass) : Reading α :=
  Reading.fail .unclosedClass open?.opening

/-- Read hyphens at the start of a class, which stand for themselves. -/
def readHyphens (start : Location) : Reading CharList := do
  let empty := CharList.at (← Reading.place)
  Reading.loop empty (fun list => do
    if (← Reading.peek?) = some '-' then
      let span ← Reading.charSpan
      Reading.bumpBlanks
      if ← Reading.atEnd then
        Reading.fail .unclosedClass (.at start)
      return .again (list.push (.leaf span) true)
    else
      return .finish list) empty

/-- Read on behind a bracket: whether the class is negated, and the hyphens and the closing bracket
that stand for themselves where no item is in front of them. -/
def openClass : Reading OpenClass := do
  let start ← Reading.place
  Reading.bumpBlanks
  if ← Reading.atEnd then
    Reading.fail .unclosedClass (← Reading.spanFrom start)
  let negated := (← Reading.peek?) = some '^'
  if negated then
    Reading.bumpBlanks
    if ← Reading.atEnd then
      Reading.fail .unclosedClass (← Reading.spanFrom start)
  let mut list ← readHyphens start
  if list.items.isEmpty && (← Reading.peek?) = some ']' then
    let span ← Reading.charSpan
    list := list.push (.leaf span) true
    Reading.bumpBlanks
    if ← Reading.atEnd then
      Reading.fail .unclosedClass (← Reading.spanFrom start)
  return { start, opening := ← Reading.spanFrom start, negated, list }

/-- Read a part of a class that stands for one character or for several. -/
def readMember (c : Char) : Reading Part := do
  if c = '\\' then
    readEscape
  else
    let span ← Reading.charSpan
    Reading.bump
    return ⟨.literal c false, span⟩

/-- The character that ends a range. -/
def boundary (part : Part) : Reading (Char × Bool) :=
  match part.kind with
  | .literal c byte => return (c, byte)
  | _ => Reading.fail .rangeOfNoLiteral part.span

/-- Add a part to a class. -/
def addPart (list : CharList) (part : Part) : Reading CharList := do
  match part.kind with
  | .literal c byte =>
    checkMember c byte part.span
    return list.push (.leaf part.span) true
  | .charClass _ | .property =>
    checkClass part.kind part.span
    return list.push (.leaf part.span) false
  | _ => Reading.fail .escapeInClass part.span

/-- Read an item: a part, or two with a hyphen between them. -/
def readItem (around : OpenClass) (c : Char) : Reading CharList := do
  let first ← readMember c
  Reading.skipBlanks
  match ← Reading.peek? with
  | none => failUnclosed around
  | some next =>
    let second := ← Reading.peekSecondPastBlanks?
    if next ≠ '-' ∨ second = some ']' ∨ second = some '-' then
      addPart around.list first
    else
      Reading.bumpBlanks
      match ← Reading.peek? with
      | none => failUnclosed around
      | some c =>
        let last ← readMember c
        let span : Span := ⟨first.span.start, last.span.stop⟩
        let (low, lowByte) ← boundary first
        let (high, highByte) ← boundary last
        if high < low then
          Reading.fail .reversedRange span
        checkMember low lowByte first.span
        checkMember high highByte last.span
        return around.list.push (.leaf span) true

/-! ## Whole classes -/

/-- Read a bracket that closes a class. -/
def closeClass (current : OpenClass) : Reading Nest := do
  let content ← combine current.left current.list.toSet
  Reading.bump
  let span ← Reading.spanFrom current.start
  checkCase content.cased span
  checkNegation current.negated span
  return .inner span [content.nest]

/-- Read on in a class: the class, and the classes around it. -/
def classStep (state : OpenClass × List OpenClass) :
    Reading (Step (OpenClass × List OpenClass) Nest) := do
  let (current, around) := state
  Reading.skipBlanks
  match ← Reading.peek? with
  | none => failUnclosed current
  | some '[' =>
    match asciiClass? (← get).rest with
    | some (length, negated) =>
      let start ← Reading.place
      Reading.skip length
      let span ← Reading.spanFrom start
      checkCase true span
      checkNegation negated span
      return .again ({ current with list := current.list.push (.leaf span) false }, around)
    | none => return .again (← openClass, current :: around)
  | some ']' =>
    let nest ← closeClass current
    match around with
    | [] => return .finish nest
    | outer :: around =>
      return .again ({ outer with list := outer.list.push nest false }, around)
  | some c =>
    if (c = '&' ∨ c = '-' ∨ c = '~') ∧ (← Reading.peekSecond?) = some c then
      Reading.skip 2
      let left ← combine current.left current.list.toSet
      return .again ({ current with left := some left, list := .at (← Reading.place) }, around)
    else
      return .again ({ current with list := ← readItem current c }, around)

/-- Read a class, whose bracket has not been read yet. -/
def readClass : Reading Nest := do
  Reading.loop (.leaf (← Reading.emptySpan)) classStep (← openClass, [])

end SqlShell.Pattern
