import SqlShell.Grammar.Listing

/-!
# The three statement grammars

    SELECT [expressions] [FROM table]
    INSERT INTO table VALUES ( [expressions] )
    CREATE TABLE table ( [columns] )

Each grammar starts at a cursor and reads one statement, without the semicolon behind it. They are
alternatives: `Cursor.statement` tries them in this order and keeps the mismatch of each one that
failed, because together they tell what could have stood there.
-/

namespace SqlShell

namespace Cursor

/-- `SELECT [expressions] [FROM table]`, where `stop` ends the expressions besides `FROM`. -/
def select (stop : Token) (cursor : Cursor) : Except Mismatch (Statement × Cursor) := do
  let cursor ← cursor.expect (.keyword .select)
  let (items, cursor) ← cursor.literals [.keyword .from, stop]
  match cursor.take? (·.IsKeyword .from) with
  | none => return (.select items none, cursor)
  | some (_, cursor) =>
    let (table, cursor) ← cursor.identifier .tableName
    return (.select items (some table), cursor)

/-- `INSERT INTO table VALUES ( [expressions] )` -/
def insert (cursor : Cursor) : Except Mismatch (Statement × Cursor) := do
  let cursor ← cursor.expect (.keyword .insert)
  let cursor ← cursor.expect (.keyword .into)
  let (table, cursor) ← cursor.identifier .tableName
  let cursor ← cursor.expect (.keyword .values)
  let cursor ← cursor.expect (.symbol .leftParen)
  let (values, cursor) ← cursor.literals [.symbol .rightParen]
  let cursor ← cursor.expect (.symbol .rightParen)
  return (.insert table values, cursor)

/-- `CREATE TABLE table ( [columns] )` -/
def createTable (cursor : Cursor) : Except Mismatch (Statement × Cursor) := do
  let cursor ← cursor.expect (.keyword .create)
  let cursor ← cursor.expect (.keyword .table)
  let (name, cursor) ← cursor.identifier .tableName
  let cursor ← cursor.expect (.symbol .leftParen)
  let (columns, cursor) ← cursor.columns (.symbol .rightParen)
  let cursor ← cursor.expect (.symbol .rightParen)
  return (.createTable name columns, cursor)

end Cursor

/-- What came of trying the grammars: the mismatches of those that failed, and the statement. -/
structure Attempt where
  mismatches : List Mismatch
  parsed : Option (Statement × Cursor)
  deriving Repr, DecidableEq

/-- Try a further grammar when none has matched so far. -/
def Attempt.orTry (attempt : Attempt) (grammar : Parse Statement) : Attempt :=
  match attempt.parsed, grammar with
  | some _, _ => attempt
  | none, .ok parsed => { attempt with parsed := some parsed }
  | none, .error mismatch => { attempt with mismatches := attempt.mismatches ++ [mismatch] }

namespace Cursor

/-- Try the statement grammars in order. -/
def statement (cursor : Cursor) : Attempt :=
  (((⟨[], none⟩ : Attempt).orTry (cursor.select (.symbol .semicolon))).orTry cursor.insert).orTry
    cursor.createTable

/-- The cursor behind a run of semicolons, unless the run is empty. -/
def semicolons? (cursor : Cursor) : Option Cursor :=
  let run := cursor.rest.takeWhile (·.IsSymbol .semicolon)
  if run.isEmpty then none
  else some ⟨cursor.position + run.length, cursor.rest.dropWhile (·.IsSymbol .semicolon)⟩

/-! ## Moving forward -/

theorem ok_of_bind_eq_ok {ε α β : Type} {first : Except ε α} {next : α → Except ε β} {b : β}
    (h : (first >>= next) = .ok b) : ∃ a, first = .ok a ∧ next a = .ok b := by
  cases first with
  | error => cases h
  | ok a => exact ⟨a, rfl, h⟩

theorem reaches_of_select {stop : Token} {cursor later : Cursor} {statement : Statement}
    (h : cursor.select stop = .ok (statement, later)) : cursor.Reaches later := by
  obtain ⟨c₁, h₁, h⟩ := ok_of_bind_eq_ok h
  obtain ⟨⟨items, c₂⟩, h₂, h⟩ := ok_of_bind_eq_ok h
  have start := (reaches_of_expect h₁).trans (reaches_of_literals h₂)
  dsimp only at h
  split at h
  · cases h; exact start
  · next found =>
    obtain ⟨⟨table, c₃⟩, h₃, h⟩ := ok_of_bind_eq_ok h
    cases h
    exact (start.trans (reaches_of_take? found)).trans (reaches_of_identifier h₃)

theorem reaches_of_insert {cursor later : Cursor} {statement : Statement}
    (h : cursor.insert = .ok (statement, later)) : cursor.Reaches later := by
  obtain ⟨c₁, h₁, h⟩ := ok_of_bind_eq_ok h
  obtain ⟨c₂, h₂, h⟩ := ok_of_bind_eq_ok h
  obtain ⟨⟨table, c₃⟩, h₃, h⟩ := ok_of_bind_eq_ok h
  obtain ⟨c₄, h₄, h⟩ := ok_of_bind_eq_ok h
  obtain ⟨c₅, h₅, h⟩ := ok_of_bind_eq_ok h
  obtain ⟨⟨values, c₆⟩, h₆, h⟩ := ok_of_bind_eq_ok h
  obtain ⟨c₇, h₇, h⟩ := ok_of_bind_eq_ok h
  cases h
  exact (reaches_of_expect h₁).trans <| (reaches_of_expect h₂).trans <|
    (reaches_of_identifier h₃).trans <| (reaches_of_expect h₄).trans <|
    (reaches_of_expect h₅).trans <| (reaches_of_literals h₆).trans (reaches_of_expect h₇)

theorem reaches_of_createTable {cursor later : Cursor} {statement : Statement}
    (h : cursor.createTable = .ok (statement, later)) : cursor.Reaches later := by
  obtain ⟨c₁, h₁, h⟩ := ok_of_bind_eq_ok h
  obtain ⟨c₂, h₂, h⟩ := ok_of_bind_eq_ok h
  obtain ⟨⟨name, c₃⟩, h₃, h⟩ := ok_of_bind_eq_ok h
  obtain ⟨c₄, h₄, h⟩ := ok_of_bind_eq_ok h
  obtain ⟨⟨columns, c₅⟩, h₅, h⟩ := ok_of_bind_eq_ok h
  obtain ⟨c₆, h₆, h⟩ := ok_of_bind_eq_ok h
  cases h
  exact (reaches_of_expect h₁).trans <| (reaches_of_expect h₂).trans <|
    (reaches_of_identifier h₃).trans <| (reaches_of_expect h₄).trans <|
    (reaches_of_columns h₅).trans (reaches_of_expect h₆)

theorem parsed_of_orTry {attempt : Attempt} {grammar : Parse Statement}
    {parsed : Statement × Cursor} (h : (attempt.orTry grammar).parsed = some parsed) :
    attempt.parsed = some parsed ∨ grammar = .ok parsed := by
  simp only [Attempt.orTry] at h
  split at h
  · exact .inl h
  · cases h; exact .inr rfl
  · next unparsed => simp [unparsed] at h

/-- A parsed statement was parsed by one of the grammars. -/
theorem grammar_of_statement {cursor : Cursor} {parsed : Statement × Cursor}
    (h : cursor.statement.parsed = some parsed) :
    cursor.select (.symbol .semicolon) = .ok parsed ∨ cursor.insert = .ok parsed ∨
      cursor.createTable = .ok parsed := by
  rcases parsed_of_orTry h with h | h
  · rcases parsed_of_orTry h with h | h
    · rcases parsed_of_orTry h with h | h
      · cases h
      · exact .inl h
    · exact .inr (.inl h)
  · exact .inr (.inr h)

theorem reaches_of_statement {cursor later : Cursor} {statement : Statement}
    (h : cursor.statement.parsed = some (statement, later)) : cursor.Reaches later := by
  rcases grammar_of_statement h with h | h | h
  · exact reaches_of_select h
  · exact reaches_of_insert h
  · exact reaches_of_createTable h

theorem reaches_of_semicolons? {cursor later : Cursor} (h : cursor.semicolons? = some later) :
    cursor.Reaches later ∧ later.rest.length < cursor.rest.length := by
  simp only [semicolons?] at h
  split at h
  · cases h
  · next nonempty =>
    cases h
    have parts := List.takeWhile_append_dropWhile
      (p := fun token : Token => decide (token.IsSymbol .semicolon)) (l := cursor.rest)
    have passed := List.length_pos_iff.2 (mt List.isEmpty_iff.2 nonempty)
    refine ⟨⟨_, parts.symm, rfl⟩, ?_⟩
    have total := congrArg List.length parts
    rw [List.length_append] at total
    dsimp only
    omega

end Cursor

end SqlShell
