import SqlShell.Proofs.Grammar.CorrectPrefix
import SqlShell.Proofs.Lexing.Shift

/-!
# Reading behind other text

The grammars look at the kinds and the values of tokens only. So where a text stands behind another,
and its tokens are moved along, what is read and where it fails is moved along with them.

`Shifts` says so of a parser, and it passes from the parts of a sequence to the whole. The tracker
compares positions with each other only, so the choice of an error does not change either
(`scriptFrom_behind`).
-/

namespace SqlShell

/-! ## What is moved -/

def ColumnDefinition.behind (start : Location) (column : ColumnDefinition) : ColumnDefinition :=
  ⟨column.name.behind start, column.datatype.behind start⟩

def Statement.behind (start : Location) : Statement → Statement
  | .createTable name columns => .createTable (name.behind start) (columns.map (·.behind start))
  | .insert table values => .insert (table.behind start) (values.map (·.behind start))
  | .select items source => .select (items.map (·.behind start)) (source.map (·.behind start))

-- The text in front ends at `start`, and it has `passed` tokens.
section

variable (start : Location) (passed : Nat)

def Cursor.behind (cursor : Cursor) : Cursor :=
  ⟨passed + cursor.position, cursor.rest.map (·.behind start)⟩

def Mismatch.behind (mismatch : Mismatch) : Mismatch :=
  ⟨passed + mismatch.position, mismatch.expected, mismatch.found.map (·.behind start)⟩

def Attempt.behind (attempt : Attempt) : Attempt :=
  ⟨attempt.mismatches.map (·.behind start passed),
    attempt.parsed.map fun (statement, cursor) =>
      (statement.behind start, cursor.behind start passed)⟩

def Failure.behind (failure : Failure) : Failure :=
  ⟨passed + failure.position, start.behind failure.location, failure.expected, failure.found⟩

def Furthest.behind (furthest : Furthest) : Furthest :=
  ⟨passed + furthest.position, start.behind furthest.location, furthest.expected, furthest.found⟩

def Tracker.behind (tracker : Tracker) : Tracker :=
  ⟨tracker.furthest.map (·.behind start passed)⟩

end

/-- The same fault and suggestion, further on in a longer text. -/
def ParseError.behind (text : String) (start : Location) (error : ParseError) : ParseError :=
  { ParseError.located text (start.behind error.location) error.fault with
    suggestion := error.suggestion }

namespace Grammar

/-! ## Parsers -/

variable (start : Location) (passed : Nat)

def moved {α : Type} (move : α → α) : Parse α → Parse α
  | .ok (a, cursor) => .ok (move a, cursor.behind start passed)
  | .error mismatch => .error (mismatch.behind start passed)

/-- Further on, `parser'` does what `parser` does here. -/
def Shifts {α : Type} (move : α → α) (parser parser' : Cursor → Parse α) : Prop :=
  ∀ cursor, parser' (cursor.behind start passed) = moved start passed move (parser cursor)

variable {start passed} {α β : Type} {move : α → α} {move' : β → β}

theorem Shifts.andThen {first first' : Cursor → Parse α} {second second' : α → Cursor → Parse β}
    (h : Shifts start passed move first first')
    (h' : ∀ a, Shifts start passed move' (second a) (second' (move a))) :
    Shifts start passed move' (Grammar.andThen first second) (Grammar.andThen first' second') := by
  intro cursor
  have begins := h cursor
  cases read : first cursor with
  | error mismatch =>
    rw [read] at begins
    rw [andThen_of_error read, andThen_of_error begins]
    rfl
  | ok parsed =>
    rw [read] at begins
    rw [andThen_of_ok read, andThen_of_ok begins]
    exact h' parsed.1 parsed.2

theorem shifts_ok (a : α) :
    Shifts start passed move (fun cursor => .ok (a, cursor)) fun cursor => .ok (move a, cursor) :=
  fun _ => rfl

/-- A parser of one token that tells by the kind and the value. -/
theorem shifts_take {accepts : Token → Bool} (expected : Expectation)
    (blind : ∀ token, accepts (token.behind start) = accepts token) :
    Shifts start passed (·.behind start) (Cursor.take accepts expected)
      (Cursor.take accepts expected) := by
  rintro ⟨position, rest⟩
  cases rest with
  | nil => rfl
  | cons token rest =>
    simp only [Cursor.behind, List.map_cons, take_cons, blind]
    split <;> rfl

theorem shifts_word (w : Keyword) : Shifts start passed (·.behind start) (word w) (word w) :=
  shifts_take _ fun _ => rfl

theorem shifts_mark (m : Symbol) : Shifts start passed (·.behind start) (mark m) (mark m) :=
  shifts_take _ fun _ => rfl

theorem shifts_name (expected : Expectation) :
    Shifts start passed (·.behind start) (name expected) (name expected) :=
  shifts_take _ fun _ => rfl

/-! ## Lists -/

theorem moved_cons (move : α → α) (item : α) (result : Parse (List α)) :
    (moved start passed (List.map move) result).map
        (fun parsed => (move item :: parsed.1, parsed.2)) =
      moved start passed (List.map move)
        (result.map fun parsed => (item :: parsed.1, parsed.2)) := by
  rcases result with mismatch | ⟨items, cursor⟩ <;> rfl

mutual

theorem literalItem_behind (start : Location) (passed : Nat) (stops : List Token) (position : Nat) :
    ∀ tokens : List Token, literalItem stops (passed + position) (tokens.map (·.behind start)) =
      moved start passed (List.map (·.behind start)) (literalItem stops position tokens)
  | [] => rfl
  | token :: rest => by
    by_cases literal : token.IsLiteral
    · simp only [List.map_cons, literalItem, Token.isLiteral_behind, literal, if_true,
        Nat.add_assoc, moreLiterals_behind]
      exact moved_cons (Token.behind start) token _
    · simp only [List.map_cons, literalItem, Token.isLiteral_behind, literal, if_false]
      rfl

theorem moreLiterals_behind (start : Location) (passed : Nat) (stops : List Token)
    (position : Nat) : ∀ tokens : List Token,
    moreLiterals stops (passed + position) (tokens.map (·.behind start)) =
      moved start passed (List.map (·.behind start)) (moreLiterals stops position tokens)
  | [] => by
    simp only [List.map_nil, moreLiterals, literalsAtEnd]
    split <;> rfl
  | token :: rest => by
    simp only [List.map_cons, moreLiterals, Token.any_agrees_behind, Token.isSymbol_behind]
    by_cases closes : stops.any token.Agrees
    · simp only [closes, if_true]
      rfl
    · by_cases comma : token.IsSymbol .comma
      · simp only [closes, comma, if_true, Bool.false_eq_true, if_false, Nat.add_assoc,
          literalItem_behind]
      · simp only [closes, comma, Bool.false_eq_true, if_false]
        rfl

end

theorem shifts_literals (stops : List Token) :
    Shifts start passed (List.map (·.behind start)) (Cursor.literals stops)
      (Cursor.literals stops) := by
  rintro ⟨position, tokens⟩
  cases tokens with
  | nil => exact moreLiterals_behind start passed stops position []
  | cons token rest =>
    have item := literalItem_behind start passed stops position (token :: rest)
    simp only [List.map_cons] at item
    simp only [Cursor.behind, Cursor.literals, List.map_cons, Token.any_agrees_behind, item]
    split <;> rfl

mutual

theorem columnItem_behind (start : Location) (passed : Nat) (stop : Token) (position : Nat) :
    ∀ tokens : List Token, columnItem stop (passed + position) (tokens.map (·.behind start)) =
      moved start passed (List.map (·.behind start)) (columnItem stop position tokens)
  | [] => rfl
  | [name] => by
    simp only [List.map_cons, List.map_nil, columnItem, Token.kind_behind]
    by_cases named : name.kind = .identifier
    · simp only [named, if_true]
      rfl
    · simp only [named, if_false]
      rfl
  | name :: datatype :: rest => by
    simp only [List.map_cons, columnItem, Token.kind_behind]
    by_cases named : name.kind = .identifier
    · by_cases typed : datatype.kind = .keyword
      · simp only [named, typed, if_true, Nat.add_assoc, moreColumns_behind]
        exact moved_cons (ColumnDefinition.behind start) ⟨name, datatype⟩ _
      · simp only [named, typed, if_true, if_false]
        rfl
    · simp only [named, if_false]
      rfl

theorem moreColumns_behind (start : Location) (passed : Nat) (stop : Token) (position : Nat) :
    ∀ tokens : List Token, moreColumns stop (passed + position) (tokens.map (·.behind start)) =
      moved start passed (List.map (·.behind start)) (moreColumns stop position tokens)
  | [] => rfl
  | token :: rest => by
    simp only [List.map_cons, moreColumns, Token.agrees_behind, Token.isSymbol_behind]
    by_cases closes : token.Agrees stop
    · simp only [closes, if_true]
      rfl
    · by_cases comma : token.IsSymbol .comma
      · simp only [closes, comma, if_true, if_false, Nat.add_assoc, columnItem_behind]
      · simp only [closes, comma, if_false]
        rfl

end

theorem shifts_columns (stop : Token) :
    Shifts start passed (List.map (·.behind start)) (Cursor.columns stop)
      (Cursor.columns stop) := by
  rintro ⟨position, tokens⟩
  cases tokens with
  | nil => rfl
  | cons token rest =>
    have item := columnItem_behind start passed stop position (token :: rest)
    simp only [List.map_cons] at item
    simp only [Cursor.behind, Cursor.columns, List.map_cons, Token.agrees_behind, item]
    by_cases closes : token.Agrees stop
    · simp only [closes, if_true]
      rfl
    · simp only [closes, if_false]

/-! ## Statements -/

theorem shifts_sourceOf (items : List Token) :
    Shifts start passed (Statement.behind start) (sourceOf items)
      (sourceOf (items.map (·.behind start))) := by
  rintro ⟨position, tokens⟩
  cases tokens with
  | nil => rfl
  | cons token rest =>
    by_cases «from» : token.IsKeyword .from
    · have from' : (token.behind start).IsKeyword .from := «from»
      rw [sourceOf_from «from»]
      exact (sourceOf_from from').trans (((shifts_word _).andThen fun _ =>
        (shifts_name _).andThen fun table =>
          shifts_ok (Statement.select items (some table))) ⟨position, token :: rest⟩)
    · have plain : ∀ first ∈ (token :: rest).head?, ¬ first.IsKeyword .from := by
        rintro _ ⟨⟩
        exact «from»
      have plain' : ∀ first ∈ ((token :: rest).map (·.behind start)).head?,
          ¬ first.IsKeyword .from := by
        rintro _ ⟨⟩
        exact «from»
      rw [sourceOf_other plain]
      exact sourceOf_other plain'

theorem Form.shifts (form : Form) :
    Shifts start passed (Statement.behind start) form.parser form.parser := by
  cases form with
  | select =>
    rw [Form.parser, select_eq]
    exact (shifts_word _).andThen fun _ => (shifts_literals _).andThen shifts_sourceOf
  | insert =>
    rw [Form.parser, insert_eq]
    exact (shifts_word _).andThen fun _ => (shifts_word _).andThen fun _ =>
      (shifts_name _).andThen fun table => (shifts_word _).andThen fun _ =>
      (shifts_mark _).andThen fun _ => (shifts_literals _).andThen fun values =>
      (shifts_mark _).andThen fun _ => shifts_ok (Statement.insert table values)
  | createTable =>
    rw [Form.parser, createTable_eq]
    exact (shifts_word _).andThen fun _ => (shifts_word _).andThen fun _ =>
      (shifts_name _).andThen fun name => (shifts_mark _).andThen fun _ =>
      (shifts_columns _).andThen fun columns => (shifts_mark _).andThen fun _ =>
      shifts_ok (Statement.createTable name columns)

theorem orTry_behind (attempt : Attempt) (result : Parse Statement) :
    (attempt.behind start passed).orTry (moved start passed (Statement.behind start) result) =
      (attempt.orTry result).behind start passed := by
  obtain ⟨mismatches, _ | parsed⟩ := attempt
  · rcases result with mismatch | parsed
    · simp [Attempt.orTry, Attempt.behind, moved]
    · rfl
  · rfl

theorem foldl_orTry_behind (results : List (Parse Statement)) (attempt : Attempt) :
    (results.map (moved start passed (Statement.behind start))).foldl Attempt.orTry
        (attempt.behind start passed) =
      (results.foldl Attempt.orTry attempt).behind start passed := by
  rw [List.foldl_map]
  exact List.foldl_hom (Attempt.behind start passed) orTry_behind

theorem statement_behind (cursor : Cursor) :
    (cursor.behind start passed).statement = cursor.statement.behind start passed := by
  have shifted : Form.all.map (·.parser (cursor.behind start passed)) =
      (Form.all.map (·.parser cursor)).map (moved start passed (Statement.behind start)) := by
    rw [List.map_map]
    exact List.map_congr_left fun form _ => form.shifts cursor
  rw [statement_eq, statement_eq, shifted, ← foldl_orTry_behind]
  rfl

theorem semicolons?_behind (cursor : Cursor) :
    (cursor.behind start passed).semicolons? =
      cursor.semicolons?.map (·.behind start passed) := by
  have blind : (fun token : Token => decide (token.IsSymbol .semicolon)) ∘ Token.behind start =
      fun token => decide (token.IsSymbol .semicolon) := rfl
  obtain ⟨position, rest⟩ := cursor
  simp only [Cursor.semicolons?, Cursor.behind, List.takeWhile_map, List.dropWhile_map, blind,
    List.isEmpty_map, List.length_map, Nat.add_assoc]
  split <;> rfl

/-! ## Errors -/

theorem track_behind (tracker : Tracker) (failure : Failure) :
    (tracker.behind start passed).track (failure.behind start passed) =
      (tracker.track failure).behind start passed := by
  obtain ⟨_ | furthest⟩ := tracker
  · rfl
  · -- Two positions that are moved by the same number compare as before.
    have before : passed + failure.position < passed + furthest.position ↔
        failure.position < furthest.position := by omega
    have same : passed + failure.position = passed + furthest.position ↔
        failure.position = furthest.position := by omega
    simp only [Tracker.track, Tracker.behind, Option.map_some, Failure.behind, Furthest.behind,
      before, same]
    split
    · rfl
    · split
      · simp only [Furthest.also, Option.map_some]
        split <;> rfl
      · rfl

theorem foldl_track_behind (failures : List Failure) (tracker : Tracker) :
    (failures.map (·.behind start passed)).foldl Tracker.track (tracker.behind start passed) =
      (failures.foldl Tracker.track tracker).behind start passed := by
  rw [List.foldl_map]
  exact List.foldl_hom (Tracker.behind start passed) track_behind

variable {source source' : Source}

theorem statementError_behind {cursor : Cursor} (nonempty : cursor.rest ≠ []) (tracker : Tracker) :
    source'.statementError (cursor.behind start passed) (tracker.behind start passed) =
      (source.statementError cursor tracker).behind source'.text start := by
  obtain ⟨position, _ | ⟨token, rest⟩⟩ := cursor
  · exact absurd rfl nonempty
  · obtain ⟨_ | furthest⟩ := tracker
    · rfl
    · have place : passed + position < passed + furthest.position ↔
          position < furthest.position := by omega
      simp only [Source.statementError, Cursor.current?, Cursor.behind, Tracker.behind,
        Tracker.position, Furthest.behind, Option.map_some, Option.any_some, List.map_cons,
        List.head?_cons, place]
      by_cases started : position < furthest.position
      · simp only [started, decide_true, if_true]
        rfl
      · simp only [started, decide_false, Bool.false_eq_true, if_false]
        rfl

section

variable (ends : source'.endLocation = start.behind source.endLocation)

include ends

-- At the end of the tokens a failure stands at the last of them, so that one has to be moved too.
theorem failureOf_behind (mismatch : Mismatch) :
    failureOf source' (mismatch.behind start passed) =
      (failureOf source mismatch).behind start passed := by
  obtain ⟨position, expected, _ | token⟩ := mismatch
  · simp [failureOf, Source.failure, Mismatch.behind, Failure.behind, ends]
  · rfl

theorem delimiterError_behind (cursor : Cursor) :
    source'.delimiterError (cursor.behind start passed) =
      (source.delimiterError cursor).behind source'.text start := by
  obtain ⟨position, _ | ⟨token, rest⟩⟩ := cursor
  · simp [Source.delimiterError, Source.delimiterLocation, Cursor.behind, Cursor.current?,
      ParseError.behind, ParseError.located, ends]
  · rfl

/-! ## Scripts -/

/-- Where a text stands behind `start`, its tokens are read as they are on their own: the statements
and the error are moved along. -/
theorem scriptFrom_behind (cursor : Cursor) (journal journal' : Journal) :
    (source'.scriptFrom (cursor.behind start passed) journal').1 =
      ((source.scriptFrom cursor journal).1.map (List.map (·.behind start))).mapError
        (·.behind source'.text start) := by
  by_cases nonempty : cursor.rest = []
  · obtain ⟨position, rest⟩ := cursor
    cases nonempty
    rw [scriptFrom_nil, Cursor.behind, List.map_nil, scriptFrom_nil]
    rfl
  have nonempty' : (cursor.behind start passed).rest ≠ [] := by
    simpa [Cursor.behind] using nonempty
  cases parsed : cursor.statement.parsed with
  | none =>
    have parsed' : (cursor.behind start passed).statement.parsed = none := by
      simp [statement_behind, Attempt.behind, parsed]
    rw [scriptFrom_of_unparsed source nonempty parsed,
      scriptFrom_of_unparsed source' nonempty' parsed',
      tracker_foldl_noteMismatch, tracker_foldl_noteMismatch, statement_behind]
    have record : ((cursor.statement.behind start passed).mismatches.map
        (failureOf source')).foldl Tracker.track {} =
          ((cursor.statement.mismatches.map (failureOf source)).foldl Tracker.track {}).behind
            start passed := by
      rw [← foldl_track_behind]
      simp only [Attempt.behind, List.map_map, Function.comp_def, failureOf_behind ends]
      rfl
    rw [record, statementError_behind nonempty]
    rfl
  | some found =>
    obtain ⟨statement, behind⟩ := found
    have parsed' : (cursor.behind start passed).statement.parsed =
        some (statement.behind start, behind.behind start passed) := by
      simp [statement_behind, Attempt.behind, parsed]
    -- Both readings are behind the same statement now, and look for semicolons.
    have step := scriptFrom_of_parsed source parsed journal
    have step' := scriptFrom_of_parsed source' parsed' journal'
    cases run : behind.semicolons? with
    | none =>
      rw [step.1 run, step'.1 (by simp [semicolons?_behind, run]), delimiterError_behind ends]
      rfl
    | some next =>
      obtain ⟨later, whole⟩ := step.2 next run
      obtain ⟨later', whole'⟩ := step'.2 (next.behind start passed) (by
        simp [semicolons?_behind, run])
      rw [whole, whole', scriptFrom_behind next later later']
      cases (source.scriptFrom next later).1 <;> rfl
termination_by cursor.rest.length
decreasing_by
  exact Nat.lt_of_lt_of_le (Cursor.reaches_of_semicolons? run).2
    (Cursor.reaches_of_statement parsed).length_le

end

end Grammar

/-! ## The same tokens in another text -/

theorem Location.behind_start (location : Location) : Location.behind {} location = location := by
  obtain ⟨line, column⟩ := location
  simp [behind]

theorem Token.behind_start (token : Token) : token.behind {} = token := by
  rw [behind, Location.behind_start]

theorem Token.map_behind_start (tokens : List Token) : tokens.map (·.behind {}) = tokens :=
  List.map_id'' Token.behind_start tokens

theorem Statement.behind_start (statement : Statement) : statement.behind {} = statement := by
  cases statement with
  | createTable name columns =>
    have same (column : ColumnDefinition) : column.behind {} = column := by
      simp only [ColumnDefinition.behind, Token.behind_start]
    rw [behind, List.map_id'' same, Token.behind_start]
  | insert table values => rw [behind, Token.map_behind_start, Token.behind_start]
  | select items source =>
    rw [behind, Token.map_behind_start]
    cases source with
    | none => rfl
    | some table => rw [Option.map_some, Token.behind_start]

/-- The same error, with the line of another text that shows it. -/
def ParseError.shownIn (text : String) (error : ParseError) : ParseError :=
  { error with context := SourceLine.find? text error.location }

/-- Two texts with the same tokens have the same script, or errors that differ in the line of the
text only. -/
theorem parse_eq_of_tokens_eq {text other : String} {tokens : List Token}
    (lexed : lex text = .ok tokens) (lexed' : lex other = .ok tokens) :
    Script.parse other = (Script.parse text).mapError (·.shownIn other) := by
  have ends : (Source.mk other tokens).endLocation =
      Location.behind {} (Source.mk text tokens).endLocation := (Location.behind_start _).symm
  have here : Cursor.behind {} 0 ⟨0, tokens⟩ = ⟨0, tokens⟩ := by
    rw [Cursor.behind, Token.map_behind_start, Nat.zero_add]
  have read : (Source.scriptFrom ⟨other, tokens⟩ (Cursor.behind {} 0 ⟨0, tokens⟩) {}).1 = _ :=
    Grammar.scriptFrom_behind ends ⟨0, tokens⟩ {} {}
  rw [here] at read
  rw [Grammar.parse_eq_of_lex_eq lexed', read, Grammar.parse_eq_of_lex_eq lexed]
  cases (Source.scriptFrom ⟨text, tokens⟩ ⟨0, tokens⟩ {}).1 with
  | ok script =>
    exact congrArg Except.ok (List.map_id'' Statement.behind_start script)
  | error error =>
    simp only [Except.map, Except.mapError, ParseError.behind, ParseError.located,
      Location.behind_start, ParseError.shownIn]

end SqlShell
