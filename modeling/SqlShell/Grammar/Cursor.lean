import SqlShell.Token.Printer

/-!
# Places in a list of tokens

A `Cursor` is a position together with the tokens from there on. A step of the grammar either moves
the cursor over tokens it accepts, or fails with a single `Mismatch`: the position, what was
expected there, and the token that stands there instead.

`Cursor.Reaches` is the relation between a cursor and a later one: the tokens in between are passed
in order and counted.
-/

namespace SqlShell

/-! ## Expectations -/

/-- What the grammar may call for. -/
inductive Expectation where
  /-- This keyword or symbol. -/
  | token (pattern : Token)
  /-- One of several tokens that may close a list. -/
  | closing (stops : List Token)
  | tableName
  | columnName
  | columnType
  | expression
  deriving Repr, DecidableEq

/-- The expectation in words. -/
def Expectation.text : Expectation → String
  | token pattern => pattern.describe
  | closing stops => String.intercalate " or " (stops.map (·.describe))
  | tableName => "table name"
  | columnName => "column name"
  | columnType => "column type"
  | expression => "expression"

/-- What was expected at the token position `position`, and the token there, if the tokens did not
end before. -/
structure Mismatch where
  position : Nat
  expected : Expectation
  found : Option Token
  deriving Repr, DecidableEq

/-! ## Cursors -/

/-- The tokens from a position on. -/
structure Cursor where
  position : Nat
  rest : List Token
  deriving Repr, DecidableEq

/-- The result of a grammar: what it read and where it stopped, or why it failed. -/
abbrev Parse (α : Type) := Except Mismatch (α × Cursor)

namespace Cursor

/-- The cursor at a position of a list of tokens. -/
def ofTokens (tokens : List Token) (position : Nat) : Cursor :=
  ⟨position, tokens.drop position⟩

/-- The token at the cursor. -/
def current? (cursor : Cursor) : Option Token :=
  cursor.rest.head?

/-- The failure to find something at the cursor. -/
def mismatch (cursor : Cursor) (expected : Expectation) : Mismatch :=
  ⟨cursor.position, expected, cursor.current?⟩

/-- The cursor behind the token at the cursor. -/
def next (cursor : Cursor) : Cursor :=
  ⟨cursor.position + 1, cursor.rest.tail⟩

/-- The token at the cursor if it has some property, and the cursor behind it. -/
def take? (accepts : Token → Bool) (cursor : Cursor) : Option (Token × Cursor) :=
  match cursor.current? with
  | some token => if accepts token then some (token, cursor.next) else none
  | none => none

/-- A token with some property, which a failure calls `expected`. -/
def take (accepts : Token → Bool) (expected : Expectation) (cursor : Cursor) : Parse Token :=
  match cursor.take? accepts with
  | some taken => .ok taken
  | none => .error (cursor.mismatch expected)

/-- A token that agrees with a pattern. -/
def expect (pattern : Token) (cursor : Cursor) : Except Mismatch Cursor :=
  (cursor.take (·.Agrees pattern) (.token pattern)).map (·.2)

/-- An identifier, which a failure calls `expected`. -/
def identifier (expected : Expectation) (cursor : Cursor) : Parse Token :=
  cursor.take (·.kind = .identifier) expected

/-- A token of a given kind. -/
def ofKind? (kind : Kind) (cursor : Cursor) : Option (Token × Cursor) :=
  cursor.take? (·.kind = kind)

/-- An expression, which is one token. -/
def expression? (cursor : Cursor) : Option (Token × Cursor) :=
  cursor.take? (·.IsLiteral)

/-! ## Moving forward -/

/-- `later` is behind `cursor`, with the passed tokens counted. -/
def Reaches (cursor later : Cursor) : Prop :=
  ∃ passed, cursor.rest = passed ++ later.rest ∧ later.position = cursor.position + passed.length

theorem Reaches.refl (cursor : Cursor) : cursor.Reaches cursor :=
  ⟨[], rfl, rfl⟩

theorem Reaches.trans {a b c : Cursor} (h : a.Reaches b) (h' : b.Reaches c) : a.Reaches c := by
  obtain ⟨p, hp, hi⟩ := h
  obtain ⟨q, hq, hj⟩ := h'
  exact ⟨p ++ q, by simp [hp, hq], by simp [hi, hj, Nat.add_assoc]⟩

theorem Reaches.length_le {a b : Cursor} (h : a.Reaches b) : b.rest.length ≤ a.rest.length := by
  obtain ⟨p, hp, -⟩ := h
  simp [hp]

theorem reaches_of_cons {position : Nat} {token : Token} {rest : List Token} {later : Cursor}
    (h : Reaches ⟨position + 1, rest⟩ later) : Reaches ⟨position, token :: rest⟩ later :=
  Reaches.trans ⟨[token], rfl, rfl⟩ h

theorem reaches_of_take? {accepts : Token → Bool} {cursor later : Cursor} {token : Token}
    (h : cursor.take? accepts = some (token, later)) : cursor.Reaches later := by
  obtain ⟨position, rest⟩ := cursor
  cases rest with
  | nil => cases h
  | cons first rest =>
    simp only [take?, current?, List.head?_cons] at h
    split at h
    · cases h
      exact ⟨[_], rfl, rfl⟩
    · cases h

theorem reaches_of_take {accepts : Token → Bool} {expected : Expectation} {cursor later : Cursor}
    {token : Token} (h : cursor.take accepts expected = .ok (token, later)) :
    cursor.Reaches later := by
  simp only [take] at h
  split at h
  · next taken =>
    cases h
    exact reaches_of_take? taken
  · cases h

theorem reaches_of_expect {pattern : Token} {cursor later : Cursor}
    (h : cursor.expect pattern = .ok later) : cursor.Reaches later := by
  simp only [expect] at h
  cases taken : cursor.take (·.Agrees pattern) (.token pattern) with
  | error => simp [taken, Except.map] at h
  | ok result =>
    simp only [taken, Except.map, Except.ok.injEq] at h
    subst h
    exact reaches_of_take taken

theorem reaches_of_identifier {expected : Expectation} {cursor later : Cursor} {token : Token}
    (h : cursor.identifier expected = .ok (token, later)) : cursor.Reaches later :=
  reaches_of_take h

end Cursor

end SqlShell
