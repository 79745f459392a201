import SqlShell.Pattern.Reader

/-!
# Parts of one character

The parts of a pattern that stand for one character, or for a place between two: a letter, a dot, an
anchor, and what a backslash begins. They are read here, and what they mean is checked here as far as
they stand outside of brackets.

Classes of digits, words and white space need a table of all scripts, which only the classes for
ASCII go without; the same holds for properties and for letters without regard to their case.
-/

namespace SqlShell.Pattern

/-- What a part of one character stands for. -/
inductive PartKind where
  /-- A character, and whether it is written as a byte. -/
  | literal (c : Char) (byte : Bool)
  | dot
  | anchor
  /-- A boundary of words. -/
  | boundary
  /-- Digits, words or white space, or all but them. -/
  | charClass (negated : Bool)
  | property
  deriving Repr, DecidableEq

/-- A part of one character, and where it stands. -/
structure Part where
  kind : PartKind
  span : Span
  deriving Repr, DecidableEq

/-! ## Hexadecimal numbers -/

/-- The value of a hexadecimal digit. -/
def hexValue? (c : Char) : Option Nat :=
  if c.isDigit then some (c.toNat - '0'.toNat)
  else if 'a' ≤ c ∧ c ≤ 'f' then some (c.toNat - 'a'.toNat + 10)
  else if 'A' ≤ c ∧ c ≤ 'F' then some (c.toNat - 'A'.toNat + 10)
  else none

/-- Whether a number is a character. -/
def isScalar (n : Nat) : Bool :=
  n < 0xD800 || (0xDFFF < n && n < 0x110000)

/-- Read some number of hexadecimal digits behind the digits that make up a number. -/
def readHexDigits (value : Nat) : Nat → Reading Nat
  | 0 => return value
  | digits + 1 => do
    match ← Reading.peek? with
    | none => Reading.fail .unfinishedEscape (← Reading.emptySpan)
    | some c =>
      match hexValue? c with
      | none => Reading.fail .notHexDigit (← Reading.charSpan)
      | some digit =>
        Reading.bumpBlanks
        readHexDigits (16 * value + digit) digits

/-- Read digits behind an opening brace. No brace closes, so only its fault is to be found. -/
def readHexBrace (brace : Location) : Reading Nat :=
  Reading.loop 0 (fun (_ : Unit) => do
    Reading.bumpBlanks
    match ← Reading.peek? with
    | none => Reading.fail .unfinishedEscape (← Reading.spanFrom brace)
    | some c =>
      if (hexValue? c).isSome then return .again ()
      else Reading.fail .notHexDigit (← Reading.charSpan)) ()

/-- The number of digits of a character's number, by the letter in front of them. -/
def hexLength (letter : Char) : Nat :=
  if letter = 'x' then 2 else if letter = 'u' then 4 else 8

/-- Read a character by its number. The letter has not been read yet. -/
def readHex (start : Location) (letter : Char) : Reading Part := do
  Reading.bumpBlanks
  let digits ← Reading.place
  let value ←
    if (← Reading.peek?) = some '\x7b' then readHexBrace digits
    else readHexDigits 0 (hexLength letter)
  if isScalar value then
    return ⟨.literal (Char.ofNat value) (letter = 'x'), ← Reading.spanFrom start⟩
  else
    Reading.fail .hexOfNoCharacter (← Reading.spanFrom digits)

/-! ## Other escapes -/

/-- Read a property by its letter. The `p` in front has not been read yet, and a name in braces
never ends. -/
def readProperty (start : Location) : Reading Part := do
  Reading.bumpBlanks
  match ← Reading.peek? with
  | none => Reading.fail .unfinishedEscape (← Reading.emptySpan)
  | some '\x7b' =>
    Reading.skip (← get).rest.length
    Reading.fail .unfinishedEscape (← Reading.emptySpan)
  | some '\\' => Reading.fail .invalidProperty (← Reading.charSpan)
  | some _ =>
    Reading.bumpBlanks
    return ⟨.property, ← Reading.spanFrom start⟩

/-- The letters that name a boundary of words in braces. -/
def isBoundaryLetter (c : Char) : Bool :=
  c.isAlpha || c == '-'

/-- Look for the name of a boundary in braces. A brace with anything but a name behind it is left to
whoever reads on. -/
def checkBoundaryName (start : Location) : Reading Unit := do
  let before ← get
  Reading.bumpBlanks
  match ← Reading.peek? with
  | none => Reading.fail .unfinishedBoundary (← Reading.spanFrom start)
  | some c =>
    if isBoundaryLetter c then
      Reading.loop () (fun (_ : Unit) => do
        match ← Reading.peek? with
        | some c =>
          if isBoundaryLetter c then
            Reading.bumpBlanks
            return .again ()
          else
            return .finish ()
        | none => return .finish ()) ()
      Reading.fail .unclosedBoundary (← Reading.spanFrom before.place)
    else
      set before

/-- Characters that mean something by themselves, so that a backslash makes them literal. -/
def isMeta (c : Char) : Bool :=
  "\\.+*?()|[]\x7b\x7d^$#&-~".contains c

/-- Characters that stand for themselves behind a backslash. Letters and digits are kept for other
meanings, and so are the two angle brackets. -/
def isEscapable (c : Char) : Bool :=
  isMeta c || (c.toNat < 0x80 && !c.isAlphanum && c != '<' && c != '>')

/-- The control characters that letters name. -/
def controlNamed? (letter : Char) : Option Char :=
  [('a', '\x07'), ('f', '\x0c'), ('t', '\t'), ('n', '\n'), ('r', '\r'), ('v', '\x0b')].lookup letter

/-- Read the letter of an escape that is complete with it. -/
def readLetterEscape (start : Location) (letter : Char) : Reading Part := do
  Reading.bump
  let span ← Reading.spanFrom start
  if isEscapable letter then
    return ⟨.literal letter false, span⟩
  else
    match controlNamed? letter with
    | some c => return ⟨.literal c false, span⟩
    | none =>
      if letter = 'A' ∨ letter = 'z' then
        return ⟨.anchor, span⟩
      else if letter = 'B' ∨ letter = '<' ∨ letter = '>' then
        return ⟨.boundary, span⟩
      else if letter = 'b' then
        if (← Reading.peek?) = some '\x7b' then
          checkBoundaryName start
        return ⟨.boundary, span⟩
      else
        Reading.fail .unknownEscape span

/-- Read what a backslash begins. -/
def readEscape : Reading Part := do
  let start ← Reading.place
  Reading.bump
  match ← Reading.peek? with
  | none => Reading.fail .unfinishedEscape (← Reading.spanFrom start)
  | some c =>
    if c.isDigit then
      Reading.fail .backreference ⟨start, (← Reading.charSpan).stop⟩
    else if c = 'x' ∨ c = 'u' ∨ c = 'U' then
      readHex start c
    else if c = 'p' ∨ c = 'P' then
      readProperty start
    else if "dswDSW".contains c then
      Reading.bump
      return ⟨.charClass c.isUpper, ← Reading.spanFrom start⟩
    else
      readLetterEscape start c

/-- Read a part of one character. -/
def readPart (c : Char) : Reading Part := do
  if c = '\\' then
    readEscape
  else
    let span ← Reading.charSpan
    Reading.bump
    if c = '.' then return ⟨.dot, span⟩
    else if c = '^' ∨ c = '$' then return ⟨.anchor, span⟩
    else return ⟨.literal c false, span⟩

/-! ## Meaning -/

/-- Check that a class or a property has the tables it needs. -/
def checkClass (kind : PartKind) (span : Span) : Reading Unit := do
  let flags := (← get).flags
  match kind with
  | .charClass negated =>
    if flags.unicode then
      Reading.note .unavailableClass span
    else if negated then
      Reading.note .invalidUtf8 span
  | .property =>
    Reading.note (if flags.unicode then .unknownProperty else .unicodeNotAllowed) span
  | _ => return

/-- Whether a character is written as a byte that is no text. -/
def isLoneByte (c : Char) (byte : Bool) : Bool :=
  byte && 0x80 ≤ c.toNat

/-- Check what a part of one character means outside of brackets. -/
def checkPart (part : Part) : Reading Unit := do
  let flags := (← get).flags
  match part.kind with
  | .literal c byte =>
    if flags.unicode then
      if flags.ignoreCase then
        Reading.note .unavailableCase part.span
    else if isLoneByte c byte then
      Reading.note .invalidUtf8 part.span
  | .dot => unless flags.unicode do Reading.note .invalidUtf8 part.span
  | .anchor => return
  | .boundary =>
    if flags.unicode then
      modify fun reader => { reader with wordBoundary := true }
  | kind => checkClass kind part.span

end SqlShell.Pattern
