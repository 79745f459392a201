import SqlShell.Pattern.Check
import SqlShell.Text.Alphanumeric
import SqlShell.Text.Blank
import SqlShell.Text.Bytes
import SqlShell.Text.Decimal
import SqlShell.Text.Lines

/-!
# Log filters

A log filter is a list of directives with commas between them; empty ones are skipped. A directive
is a level, or a target with a span, a field of the span and a level, each of which may be missing:

    level
    target[span{field=value}]=level

A word that is no level is a target, so three things can be wrong with a filter: a level behind an
equals sign that is none, a value that is neither a number nor a pattern, and a directive of another
shape. What comes first in a directive counts.

White space around a directive does not count for its shape. But levels and fields are cut out of
the directive as it is written, at the bytes where they stand in the directive without that space:
white space in front shifts them, and white space at the end belongs to a level.
-/

namespace SqlShell.CommandLine

/-! ## Faults -/

/-- What is wrong with a log filter. -/
inductive FilterFault where
  | unknownLevel
  | malformed
  /-- The value of a field is refused as a pattern. -/
  | value (pattern : List Char) (refusal : Pattern.Refusal)
  deriving Repr, DecidableEq

namespace FilterFault

/-- An unknown level in words. -/
def unknownLevelMessage : String :=
  "error parsing level filter: expected one of \"off\", \"error\", \"warn\", \"info\", " ++
    "\"debug\", \"trace\", or a number 0-5"

/-- Why a value is refused, in words, the nearest cause first. -/
def valueMessages (pattern : List Char) : Pattern.Refusal → List String
  | .fault fault => ["error building NFA", "error parsing regex", fault.report pattern]
  | .wordBoundary =>
    ["unsupported regex feature for DFAs: cannot build DFAs for regexes with Unicode word " ++
      "boundaries; switch to ASCII word boundaries, or heuristically enable Unicode word " ++
      "boundaries or use a different regex engine"]

/-- The fault in words, with its causes behind it. -/
def messages : FilterFault → List String
  | unknownLevel => [unknownLevelMessage, unknownLevelMessage]
  | malformed => ["invalid filter directive"]
  | value pattern refusal =>
    let causes := valueMessages pattern refusal
    ("invalid field filter: " ++ causes.headD "") :: causes

end FilterFault

/-! ## Levels and values -/

/-- Whether a text is a level: its name in any case, or a number up to five. -/
def isLevel (text : List Char) : Bool :=
  let unsigned := match text with
    | '+' :: digits => digits
    | digits => digits
  let names := ["error", "warn", "info", "debug", "trace", "off"]
  (Text.digits? unsigned).any (· ≤ 5) || names.contains (String.ofList (text.map Char.toLower))

/-- A text without the sign in front of it. -/
def dropSign : List Char → List Char
  | '+' :: text | '-' :: text => text
  | text => text

/-- Whether a text is empty or an exponent. -/
def isExponent : List Char → Bool
  | [] => true
  | 'e' :: text | 'E' :: text => (Text.digits? (dropSign text)).isSome
  | _ => false

/-- Whether a text is a number: digits with a point and an exponent, or the name of a value that
such numbers run into. -/
def isNumber (text : List Char) : Bool :=
  let unsigned := dropSign text
  let whole := unsigned.takeWhile Char.isDigit
  let (fraction, rest) := match unsigned.dropWhile Char.isDigit with
    | '.' :: more => (more.takeWhile Char.isDigit, more.dropWhile Char.isDigit)
    | more => ([], more)
  ["inf", "infinity", "nan"].contains (String.ofList (unsigned.map Char.toLower)) ||
    (!(whole ++ fraction).isEmpty && isExponent rest)

/-- What is wrong with a field. Its value is what stands between its first two equals signs; a truth
value is a pattern as well. -/
def fieldFault? (field : List Char) : Option FilterFault :=
  match Text.pieces '=' field with
  | _ :: value :: _ =>
    if isNumber value then none else (Pattern.refusal? value).map (.value value)
  | _ => none

/-! ## Directives -/

/-- How far a directive has been read. -/
inductive DirectivePart where
  | start
  /-- In a level or a target. -/
  | word
  /-- In the name of a span. -/
  | span
  /-- In a field, from a byte on. -/
  | field (start : Nat)
  /-- Behind the field. -/
  | fields
  /-- Behind the span. -/
  | target
  deriving Repr, DecidableEq

/-- Whether a directive may start with a character, a bracket aside. -/
def startsTarget (c : Char) : Bool :=
  Text.isAlphanumeric c || c == '-' || c == ':' || c == '_'

/-- Read on in a directive, some bytes behind the white space in front of it. What is read has no
white space around it; `directive` has. -/
def checkDirective (directive : List Char) (part : DirectivePart) (bytes : Nat) :
    List Char → Option FilterFault
  | [] =>
    match part with
    | .word | .target => none
    | _ => some .malformed
  | c :: rest =>
    let after := bytes + c.utf8Size
    match part, c with
    | .start, '[' => checkDirective directive .span after rest
    | .start, c =>
      if startsTarget c then checkDirective directive .word after rest else some .malformed
    | .word, '=' | .target, '=' =>
      let level := Text.dropBytes after directive
      if level.isEmpty || isLevel level then none else some .unknownLevel
    | .word, '[' => checkDirective directive .span after rest
    | .word, _ => checkDirective directive .word after rest
    | .span, ']' => checkDirective directive .target after rest
    | .span, '\x7b' => checkDirective directive (.field after) after rest
    | .span, _ => checkDirective directive .span after rest
    | .field start, '\x7d' =>
      if start = bytes then some .malformed
      else
        match fieldFault? (Text.takeBytes (bytes - start) (Text.dropBytes start directive)) with
        | some fault => some fault
        | none => checkDirective directive .fields after rest
    | .field start, _ => checkDirective directive (.field start) after rest
    | .fields, ']' => checkDirective directive .target after rest
    | .fields, _ | .target, _ => some .malformed

/-- What is wrong with a log filter, if anything is. -/
def filterFault? (filter : String) : Option FilterFault :=
  ((Text.pieces ',' filter.toList).filter (!·.isEmpty)).findSome? fun directive =>
    checkDirective directive .start 0 (Text.trim directive)

end SqlShell.CommandLine
