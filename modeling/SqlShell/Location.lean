/-!
# Locations

A place in a source text, as a zero-based line and a zero-based column. Columns count characters
since the last line feed. Locations are ordered by line, then by column.
-/

namespace SqlShell

/-- A zero-based line and column. -/
structure Location where
  line : Nat := 0
  column : Nat := 0
  deriving Repr, DecidableEq, Inhabited

namespace Location

/-- The location as `line:column`, both still zero-based. -/
def text (location : Location) : String :=
  toString location.line ++ ":" ++ toString location.column

/-- The location after one more character. -/
def step (location : Location) (c : Char) : Location :=
  if c = '\n' then ⟨location.line + 1, 0⟩ else ⟨location.line, location.column + 1⟩

/-- The location after a run of characters. -/
def advance (location : Location) (cs : List Char) : Location :=
  cs.foldl step location

/-- The order of reading: by line, then by column. -/
def order (a b : Location) : Ordering :=
  (compare a.line b.line).then (compare a.column b.column)

/-- Strictly earlier in the text. -/
def Before (a b : Location) : Prop :=
  a.line < b.line ∨ (a.line = b.line ∧ a.column < b.column)

end Location

end SqlShell
