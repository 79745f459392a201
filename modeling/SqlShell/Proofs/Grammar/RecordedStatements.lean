import SqlShell.Proofs.Grammar.Acceptance
import SqlShell.Proofs.Grammar.Recording

/-!
# Recording statements

A statement grammar is one step behind another, so it does what `Cursor.select`, `Cursor.insert` and
`Cursor.createTable` say. Two readers go on where a grammar has given up or is done. A row of
alternatives starts the next one with what the one before has left in the journal
(`statementSteps_eq`), and a script starts each statement with what the statements in front of it
have (`scriptSteps_eq`).
-/

namespace SqlShell

namespace Source

variable (source : Source)

/-! ## Statements -/

/-- `SELECT [expressions] [FROM table]`, where `stop` ends the expressions besides `FROM`. -/
def selectSteps (stop : Token) (position : Nat) : Recorder (Statement × Nat) := do
  let position ← source.stepOver (.keyword .select) position
  let (items, position) ← source.literalSteps [.keyword .from, stop] [] position
  match source.tokenIf? (·.IsKeyword .from) position with
  | none => return (.select items none, position)
  | some (_, position) =>
    let (table, position) ← source.nameAt "table name" position
    return (.select items (some table), position)

/-- `INSERT INTO table VALUES ( [expressions] )` -/
def insertSteps (position : Nat) : Recorder (Statement × Nat) := do
  let position ← source.stepOver (.keyword .insert) position
  let position ← source.stepOver (.keyword .into) position
  let (table, position) ← source.nameAt "table name" position
  let position ← source.stepOver (.keyword .values) position
  let position ← source.stepOver (.symbol .leftParen) position
  let (values, position) ← source.literalSteps [.symbol .rightParen] [] position
  let position ← source.stepOver (.symbol .rightParen) position
  return (.insert table values, position)

/-- `CREATE TABLE table ( [columns] )` -/
def createTableSteps (position : Nat) : Recorder (Statement × Nat) := do
  let position ← source.stepOver (.keyword .create) position
  let position ← source.stepOver (.keyword .table) position
  let (name, position) ← source.nameAt "table name" position
  let position ← source.stepOver (.symbol .leftParen) position
  let (columns, position) ← source.columnSteps (.symbol .rightParen) [] position
  let position ← source.stepOver (.symbol .rightParen) position
  return (.createTable name columns, position)

/-- The statement grammars in order. -/
def statementSteps (position : Nat) : Recorder (Statement × Nat) :=
  ((source.selectSteps (.symbol .semicolon) position).orElse (source.insertSteps position)).orElse
    (source.createTableSteps position)

section

variable {source} {position : Nat}

section

variable {α β γ : Type} {view : α → β} {more : Cursor → Except Mismatch α}

theorem does_stepOver_bind {pattern : Token} {next : Nat → Recorder β}
    (h : ∀ position, source.Does (next position) (more (source.cursorAt position)) view) :
    source.Does (source.stepOver pattern position >>= next)
      ((source.cursorAt position).expect pattern >>= more) view := by
  refine (does_stepOver pattern position).bind fun later read => ?_
  rw [eq_cursorAt_of_reaches (Cursor.reaches_of_expect read)]
  exact h later.position

theorem Does.bind_parsed {first : Recorder (γ × Nat)} {result : Parse γ}
    {next : γ × Nat → Recorder β} {more : γ × Cursor → Except Mismatch α}
    (h : source.Does first result parsedAt)
    (reaches : ∀ {c later}, result = .ok (c, later) → (source.cursorAt position).Reaches later)
    (h' : ∀ c position, source.Does (next (c, position)) (more (c, source.cursorAt position)) view) :
    source.Does (first >>= next) (result >>= more) view := by
  refine h.bind fun (c, later) read => ?_
  rw [eq_cursorAt_of_reaches (reaches read)]
  exact h' c later.position

end

theorem does_selectSteps (stop : Token) (position : Nat) :
    source.Does (source.selectSteps stop position) ((source.cursorAt position).select stop)
      parsedAt := by
  refine does_stepOver_bind fun next => ?_
  refine (does_literalSteps _ next).bind_parsed Cursor.reaches_of_literals fun items next => ?_
  simp only [take?_cursorAt]
  cases source.tokenIf? (·.IsKeyword .from) next with
  | none => exact does_pure (Statement.select items none, source.cursorAt next) parsedAt
  | some found =>
    exact (does_nameAt .tableName found.2).bind fun (table, later) _ =>
      does_pure (Statement.select items (some table), later) parsedAt

theorem does_insertSteps (position : Nat) :
    source.Does (source.insertSteps position) (source.cursorAt position).insert parsedAt := by
  refine does_stepOver_bind fun _ => does_stepOver_bind fun next => ?_
  refine (does_nameAt .tableName next).bind_parsed Cursor.reaches_of_identifier fun table next => ?_
  refine does_stepOver_bind fun _ => does_stepOver_bind fun next => ?_
  refine (does_literalSteps _ next).bind_parsed Cursor.reaches_of_literals fun values next => ?_
  exact does_stepOver_bind fun next =>
    does_pure (Statement.insert table values, source.cursorAt next) parsedAt

theorem does_createTableSteps (position : Nat) :
    source.Does (source.createTableSteps position) (source.cursorAt position).createTable
      parsedAt := by
  refine does_stepOver_bind fun _ => does_stepOver_bind fun next => ?_
  refine (does_nameAt .tableName next).bind_parsed Cursor.reaches_of_identifier fun name next => ?_
  refine does_stepOver_bind fun next => ?_
  refine (does_columnSteps _ next).bind_parsed Cursor.reaches_of_columns fun columns next => ?_
  exact does_stepOver_bind fun next =>
    does_pure (Statement.createTable name columns, source.cursorAt next) parsedAt

/-! ## Alternatives -/

/-- Steps do what an attempt tells: each grammar that failed has left its mismatch behind. -/
def Tries (source : Source) (steps : Recorder (Statement × Nat)) (attempt : Attempt) : Prop :=
  ∀ journal, steps journal =
    (attempt.parsed.map parsedAt, attempt.mismatches.foldl source.noteMismatch journal)

theorem Does.tries {steps : Recorder (Statement × Nat)} {grammar : Parse Statement}
    (h : source.Does steps grammar parsedAt) :
    source.Tries steps ((⟨[], none⟩ : Attempt).orTry grammar) := by
  intro journal
  rw [h journal]
  cases grammar <;> rfl

theorem Tries.orElse {steps other : Recorder (Statement × Nat)} {attempt : Attempt}
    {grammar : Parse Statement} (h : source.Tries steps attempt)
    (h' : source.Does other grammar parsedAt) :
    source.Tries (steps.orElse other) (attempt.orTry grammar) := by
  intro journal
  obtain ⟨mismatches, _ | parsed⟩ := attempt
  · simp only [Recorder.orElse, h journal, Option.map_none, h' _]
    cases grammar with
    | ok parsed => rfl
    | error mismatch => simp only [Attempt.orTry, Option.map_none, List.foldl_append]; rfl
  · simp only [Recorder.orElse, h journal]
    rfl

theorem statementSteps_eq (source : Source) (position : Nat) (journal : Journal) :
    source.statementSteps position journal =
      ((source.statement position journal).1.map parsedAt, (source.statement position journal).2) :=
  ((does_selectSteps _ position).tries.orElse (does_insertSteps position)).orElse
    (does_createTableSteps position) journal

theorem le_of_statementSteps {statement : Statement} {next : Nat} {journal journal' : Journal}
    (h : source.statementSteps position journal = (some (statement, next), journal')) :
    position ≤ next := by
  rw [statementSteps_eq] at h
  obtain ⟨⟨_, behind⟩, parsed, same⟩ := Option.map_eq_some_iff.1 (congrArg Prod.fst h)
  cases same
  obtain ⟨passed, -, moved⟩ := Cursor.reaches_of_statement parsed
  rw [position_cursorAt] at moved
  exact moved ▸ Nat.le_add_right _ _

end

/-! ## Scripts -/

/-- The position behind the semicolons at a position. -/
def behindSemicolons (position : Nat) : Nat :=
  match _there : source.tokens[position]? with
  | none => position
  | some token =>
    if token.IsSymbol .semicolon then behindSemicolons (position + 1) else position
termination_by source.tokens.length - position
decreasing_by
  have := (List.getElem?_eq_some_iff.1 _there).1
  omega

theorem behindSemicolons_eq (position : Nat) :
    source.behindSemicolons position = position +
      ((source.cursorAt position).rest.takeWhile (·.IsSymbol .semicolon)).length := by
  rw [behindSemicolons, show (source.cursorAt position).rest = source.tokens.drop position from rfl]
  split
  · next ended =>
    rw [List.drop_eq_nil_iff.2 (List.getElem?_eq_none_iff.1 ended)]
    rfl
  · next token there =>
    have inside := (List.getElem?_eq_some_iff.1 there).1
    rw [drop_of_getElem? there, List.takeWhile_cons]
    by_cases semicolon : token.IsSymbol .semicolon
    · rw [if_pos semicolon, behindSemicolons_eq, if_pos (decide_eq_true semicolon), List.length_cons,
        Nat.add_assoc, Nat.add_comm 1]
      rfl
    · rw [if_neg semicolon, if_neg (by simpa using semicolon)]
      rfl
termination_by source.tokens.length - position

theorem semicolons?_cursorAt (position : Nat) :
    (source.cursorAt position).semicolons? =
      if source.behindSemicolons position = position then none
      else some (source.cursorAt (source.behindSemicolons position)) := by
  have place := source.behindSemicolons_eq position
  cases run : (source.cursorAt position).semicolons? with
  | none =>
    simp only [Cursor.semicolons?] at run
    split at run
    · next empty =>
      rw [List.isEmpty_iff.1 empty] at place
      exact (if_pos place).symm
    · cases run
  | some later =>
    obtain ⟨reaches, shorter⟩ := Cursor.reaches_of_semicolons? run
    have moved : later.position = source.behindSemicolons position := by
      simp only [Cursor.semicolons?] at run
      split at run
      · cases run
      · cases run
        exact place.symm
    rw [← moved, ← eq_cursorAt_of_reaches reaches, if_neg]
    -- a cursor at the same position would have as many tokens in front of it
    obtain ⟨passed, split, moved⟩ := reaches
    intro stays
    rw [position_cursorAt, stays] at moved
    rw [List.length_eq_zero_iff.1 (by omega : passed.length = 0), List.nil_append] at split
    rw [split] at shorter
    exact absurd shorter (Nat.lt_irrefl _)

/-- Statements with their semicolons up to the end, behind those that have been read. The tracker
starts anew with each of them. -/
def scriptSteps (script : Script) (position : Nat) (journal : Journal) :
    Except ParseError Script × Journal :=
  if position < source.tokens.length then
    match _found : source.statementSteps position { journal with tracker := {} } with
    | (none, journal) =>
      (.error (source.statementError (source.cursorAt position) journal.tracker), journal)
    | (some (statement, behind), journal) =>
      let journal := journal.log (.parsedStatement statement)
      if source.behindSemicolons behind = behind then
        (.error (source.delimiterError (source.cursorAt behind)),
          journal.log (.missingDelimiter (source.delimiterLocation (source.cursorAt behind))))
      else
        scriptSteps (script ++ [statement]) (source.behindSemicolons behind) journal
  else
    (.ok script, journal)
termination_by source.tokens.length - position
decreasing_by
  have onward := le_of_statementSteps _found
  have further := source.behindSemicolons_eq behind
  omega

theorem scriptSteps_eq (script : Script) (position : Nat) (journal : Journal) :
    source.scriptSteps script position journal =
      ((source.scriptFrom (source.cursorAt position) journal).1.map (script ++ ·),
        (source.scriptFrom (source.cursorAt position) journal).2) := by
  rw [scriptSteps]
  by_cases inside : position < source.tokens.length
  · have nonempty : (source.cursorAt position).rest ≠ [] := by
      simpa [cursorAt, Cursor.ofTokens, List.drop_eq_nil_iff] using inside
    rw [if_pos inside]
    -- the statement is read with a new tracker on either side
    have read := source.statementSteps_eq position { journal with tracker := {} }
    simp only [statement, statementAt] at read
    cases parsed : (source.cursorAt position).statement.parsed with
    | none =>
      rw [parsed] at read
      rw [Grammar.scriptFrom_eq_of_unparsed source nonempty parsed journal]
      split
      · next found =>
        cases found.symm.trans read
        rfl
      · next found => cases found.symm.trans read
    | some taken =>
      rw [parsed] at read
      obtain ⟨statement, behind⟩ := taken
      obtain ⟨unclosed, closed⟩ := Grammar.scriptFrom_eq_of_parsed source parsed journal
      have place := eq_cursorAt_of_reaches (Cursor.reaches_of_statement parsed)
      rw [place, semicolons?_cursorAt] at unclosed closed
      split
      · next found => cases found.symm.trans read
      · next found =>
        cases found.symm.trans read
        dsimp only [parsedAt]
        split
        · next alone =>
          rw [unclosed (if_pos alone), ← place]
          rfl
        · next more =>
          -- as much as one semicolon further, so less is left to read
          have onward : position ≤ behind.position := le_of_statementSteps found
          have further := source.behindSemicolons_eq behind.position
          rw [closed _ (if_neg more), scriptSteps_eq]
          cases (source.scriptFrom (source.cursorAt (source.behindSemicolons behind.position)) _).1
          · rfl
          · simp [Except.map]
  · have empty : source.cursorAt position = ⟨position, []⟩ := by
      rw [cursorAt, Cursor.ofTokens, List.drop_eq_nil_iff.2 (Nat.le_of_not_lt inside)]
    rw [if_neg inside, empty, Grammar.scriptFrom_nil]
    simp [Except.map]
termination_by source.tokens.length - position
decreasing_by omega

end Source

end SqlShell
