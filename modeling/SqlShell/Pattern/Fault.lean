import SqlShell.Location
import SqlShell.Text.Lines

/-!
# Faults of patterns

What can be wrong with a regular expression, where, and the report of it:

* `Problem` is what is wrong, and `Problem.message` says so in words;
* `Fault` adds the place, and the earlier place that it collides with, if there is one;
* `Fault.report` shows the pattern with carets under those places. A pattern of several lines is
  shown between two rules with its lines numbered, and a place that spans lines is named below.
-/

namespace SqlShell.Pattern

/-- How deep the parts of a pattern may stand inside one another. -/
def nestLimit : Nat := 250

/-- What is wrong with a pattern. -/
inductive Problem where
  | escapeInClass
  | reversedRange
  | rangeOfNoLiteral
  | unclosedClass
  | decimalTooLarge
  | hexOfNoCharacter
  | notHexDigit
  | unfinishedEscape
  | unknownEscape
  | danglingNegation
  | duplicateFlag
  | repeatedNegation
  | unfinishedFlags
  | unknownFlag
  | duplicateName
  | emptyName
  | invalidName
  | unfinishedName
  | unclosedGroup
  | unopenedGroup
  | emptyCount
  | unclosedCount
  | missingOperand
  | unclosedBoundary
  | unfinishedBoundary
  | invalidProperty
  | backreference
  | lookAround
  | nestedTooDeep
  | unicodeNotAllowed
  | invalidUtf8
  | unknownProperty
  | unavailableClass
  | unavailableCase
  deriving Repr, DecidableEq

/-- The problem in words. -/
def Problem.message : Problem → String
  | escapeInClass => "invalid escape sequence found in character class"
  | reversedRange => "invalid character class range, the start must be <= the end"
  | rangeOfNoLiteral => "invalid range boundary, must be a literal"
  | unclosedClass => "unclosed character class"
  | decimalTooLarge => "decimal literal invalid"
  | hexOfNoCharacter => "hexadecimal literal is not a Unicode scalar value"
  | notHexDigit => "invalid hexadecimal digit"
  | unfinishedEscape => "incomplete escape sequence, reached end of pattern prematurely"
  | unknownEscape => "unrecognized escape sequence"
  | danglingNegation => "dangling flag negation operator"
  | duplicateFlag => "duplicate flag"
  | repeatedNegation => "flag negation operator repeated"
  | unfinishedFlags => "expected flag but got end of regex"
  | unknownFlag => "unrecognized flag"
  | duplicateName => "duplicate capture group name"
  | emptyName => "empty capture group name"
  | invalidName => "invalid capture group character"
  | unfinishedName => "unclosed capture group name"
  | unclosedGroup => "unclosed group"
  | unopenedGroup => "unopened group"
  | emptyCount => "repetition quantifier expects a valid decimal"
  | unclosedCount => "unclosed counted repetition"
  | missingOperand => "repetition operator missing expression"
  | unclosedBoundary =>
    "special word boundary assertion is either unclosed or contains an invalid character"
  | unfinishedBoundary =>
    "found either the beginning of a special word boundary or a bounded repetition on a \\b " ++
      "with an opening brace, but no closing brace"
  | invalidProperty => "invalid Unicode character class"
  | backreference => "backreferences are not supported"
  | lookAround => "look-around, including look-ahead and look-behind, is not supported"
  | nestedTooDeep =>
    "exceed the maximum number of nested parentheses/brackets (" ++ toString nestLimit ++ ")"
  | unicodeNotAllowed => "Unicode not allowed here"
  | invalidUtf8 => "pattern can match invalid UTF-8"
  | unknownProperty => "Unicode property not found"
  | unavailableClass =>
    "Unicode-aware Perl class not found (make sure the unicode-perl feature is enabled)"
  | unavailableCase =>
    "Unicode-aware case insensitivity matching is not available " ++
      "(make sure the unicode-case feature is enabled)"

/-- A stretch of a pattern, from a place up to another. -/
structure Span where
  start : Location
  stop : Location
  deriving Repr, DecidableEq

/-- The stretch of no character at a place. -/
def Span.at (place : Location) : Span :=
  ⟨place, place⟩

/-- What is wrong with a pattern, and where. -/
structure Fault where
  problem : Problem
  span : Span
  /-- What the fault collides with. -/
  earlier : Option Span := none
  deriving Repr, DecidableEq

/-! ## Reports -/

namespace Span

/-- Whether a stretch begins and ends on one line. -/
def isOneLine (span : Span) : Bool :=
  span.start.line == span.stop.line

/-- Carets under stretches of one line, from a column on. -/
def carets (column : Nat) : List Span → List Char
  | [] => []
  | span :: spans =>
    let gap := span.start.column - column
    let length := max 1 (span.stop.column - span.start.column)
    List.replicate gap ' ' ++ List.replicate length '^' ++ carets (column + gap + length) spans

/-- A stretch of several lines in words. Its last column is the last one in it. -/
def text (span : Span) : String :=
  "on line " ++ toString (span.start.line + 1) ++
    " (column " ++ toString (span.start.column + 1) ++ ") through line " ++
    toString (span.stop.line + 1) ++ " (column " ++ toString span.stop.column ++ ")"

end Span

namespace Fault

/-- The places of a fault, in the order of the pattern. -/
def spans (fault : Fault) : List Span :=
  match fault.earlier with
  | none => [fault.span]
  | some earlier => [earlier, fault.span]

/-- A line of the pattern behind its margin, and the carets under it. -/
def reportLine (fault : Fault) (margin : Nat → List Char) (line : List Char) (index : Nat) :
    List Char :=
  let marked := fault.spans.filter fun span => span.isOneLine && span.start.line == index
  let notes :=
    if marked.isEmpty then []
    else List.replicate (margin index).length ' ' ++ Span.carets 0 marked ++ ['\n']
  margin index ++ line ++ '\n' :: notes

/-- What stands in front of a line: its number, right-aligned, when there are several lines. -/
def lineMargin (lineCount index : Nat) : List Char :=
  if lineCount ≤ 1 then List.replicate 4 ' '
  else
    let number := (toString (index + 1)).toList
    List.replicate ((toString lineCount).length - number.length) ' ' ++ number ++ [':', ' ']

/-- The report of a fault in a pattern. A line feed at the end of a pattern begins another line. -/
def report (pattern : List Char) (fault : Fault) : String :=
  let lines := Text.textLines pattern
  let lineCount := lines.length + (if pattern.getLast? = some '\n' then 1 else 0)
  let shown := String.ofList ((lines.zipIdx.map fun (line, index) =>
    fault.reportLine (lineMargin lineCount) line index).flatten)
  let error := "error: " ++ fault.problem.message
  if '\n' ∈ pattern then
    let rule := String.ofList (List.replicate 79 '~') ++ "\n"
    let notes := (fault.spans.filter (!·.isOneLine)).map Span.text
    "regex parse error:\n" ++ rule ++ shown ++ rule ++
      (if notes.isEmpty then "" else "\n".intercalate notes ++ "\n") ++ error
  else
    "regex parse error:\n" ++ shown ++ error

end Fault

end SqlShell.Pattern
