import SqlShell.Grammar.Statement
import SqlShell.Proofs.Grammar.Series

/-!
# The statement grammars keep their contracts

Each statement grammar is a sequence of parsers with known contracts, so its own contract follows
part by part: `recognizes_select`, `recognizes_insert` and `recognizes_createTable` say that it
reads the texts of its form of statement, and fails at the first token that cannot be right.

A `SELECT` that names no source is the only statement with a condition on what follows it
(`Follows`): a semicolon or the end of the tokens.
-/

namespace SqlShell.Grammar

/-! ## Parts -/

/-- The tokens of the trees that denote a value. -/
def Denotes {Tree α : Type} (value : Tree → α) (tokensOf : Tree → List Token) (a : α)
    (tokens : List Token) : Prop :=
  ∃ tree, value tree = a ∧ tokensOf tree = tokens

def word (word : Keyword) : Cursor → Parse Token :=
  Cursor.take (fun token => decide (token.IsKeyword word)) (.token (.keyword word))

def mark (mark : Symbol) : Cursor → Parse Token :=
  Cursor.take (fun token => decide (token.IsSymbol mark)) (.token (.symbol mark))

/-- An identifier, which a failure calls `expected`. -/
def name (expected : Expectation) : Cursor → Parse Token :=
  Cursor.take (fun token => decide (token.kind = .identifier)) expected

theorem recognizes_word (w : Keyword) : Recognizes (word w) (One (·.IsKeyword w)) Free :=
  recognizes_take (.inl ⟨w, rfl⟩) (fun _ admitted => admitted) ⟨.keyword w, rfl, rfl⟩

theorem recognizes_mark (m : Symbol) : Recognizes (mark m) (One (·.IsSymbol m)) Free :=
  recognizes_take (.inr ⟨m, rfl⟩) (fun _ admitted => admitted) ⟨.symbol m, rfl, rfl⟩

theorem recognizes_name {expected : Expectation} (plain : expected.IsPlain)
    (admits : ∀ token, expected.Admits token → token.kind = .identifier) :
    Recognizes (name expected) (One (·.kind = .identifier)) Free :=
  recognizes_take plain admits ⟨⟨.identifier, "", {}⟩, rfl⟩

theorem expect_bind {α : Type} (pattern : Token) (cursor : Cursor) (next : Cursor → Parse α) :
    (cursor.expect pattern >>= next) =
      Grammar.andThen (Cursor.take (fun token => decide (token.Agrees pattern)) (.token pattern))
        (fun _ => next) cursor := by
  simp only [Cursor.expect, Grammar.andThen]
  cases cursor.take (fun token => decide (token.Agrees pattern)) (.token pattern) <;> rfl

/-- Lists of denoted items are denoted by lists of trees. -/
theorem lists_denotes_iff {Tree β : Type} {value : Tree → β} {tokensOf : Tree → List Token}
    {items : List β} {tokens : List Token} :
    Lists (Denotes value tokensOf) items tokens ↔
      ∃ series : Series Tree, series.toList.map value = items ∧
        series.tokens tokensOf = tokens := by
  have separated {xs : List β} {back : List Token} :
      Separated (Denotes value tokensOf) xs back ↔
        ∃ more : List (Mark .comma × Tree), more.map (value ·.2) = xs ∧
          separatedTokens tokensOf more = back := by
    constructor
    · intro h
      induction h with
      | nil => exact ⟨[], rfl, rfl⟩
      | cons separator first _ ih =>
        obtain ⟨tree, rfl, rfl⟩ := first
        obtain ⟨more, rfl, rfl⟩ := ih
        exact ⟨(⟨_, separator⟩, tree) :: more, rfl, rfl⟩
    · rintro ⟨more, rfl, rfl⟩
      induction more with
      | nil => exact .nil
      | cons part more ih => exact .cons part.1.2 ⟨part.2, rfl, rfl⟩ ih
  constructor
  · rintro (⟨rfl, rfl⟩ | ⟨x, xs, front, back, ⟨tree, rfl, rfl⟩, more, rfl, rfl⟩)
    · exact ⟨.empty, rfl, rfl⟩
    · obtain ⟨parts, rfl, rfl⟩ := separated.1 more
      exact ⟨.items tree parts, by simp [Series.toList], rfl⟩
  · rintro ⟨series, rfl, rfl⟩
    cases series with
    | empty => exact .inl ⟨rfl, rfl⟩
    | items first more =>
      exact .inr ⟨value first, _, tokensOf first, _, ⟨first, rfl, rfl⟩,
        separated.2 ⟨more, rfl, rfl⟩, by simp [Series.toList], rfl⟩

/-! ## Expressions -/

def literal : Cursor → Parse Token :=
  Cursor.take (fun token => decide token.IsLiteral) .expression

/-- The tokens at which a list of expressions ends. -/
def StopsAt (stops : List Token) (token : Token) : Prop :=
  ∃ stop ∈ stops, token.Agrees stop

def missingStop (stops : List Token) : Option Expectation :=
  if stops.any (·.IsSymbol .semicolon) then none else some (.closing stops)

theorem any_agrees_iff {stops : List Token} {token : Token} :
    stops.any token.Agrees = true ↔ StopsAt stops token := by
  simp [StopsAt]

theorem literalsAtEnd_eq (stops : List Token) (position : Nat) :
    literalsAtEnd stops position = atEnd (missingStop stops) position := by
  simp only [literalsAtEnd, missingStop, atEnd]
  split <;> rfl

theorem literalItem_eq (stops : List Token) (position : Nat) (tokens : List Token) :
    literalItem stops position tokens =
      itemThen literal (fun cursor => moreLiterals stops cursor.position cursor.rest)
        ⟨position, tokens⟩ := by
  cases tokens with
  | nil => rfl
  | cons token rest =>
    simp only [literalItem, itemThen, Grammar.andThen, literal, take_cons, decide_eq_true_eq]
    split <;> rfl

theorem goesOn_moreLiterals (stops : List Token) :
    GoesOn literal (StopsAt stops) (missingStop stops)
      (fun cursor => moreLiterals stops cursor.position cursor.rest) where
  nil position := literalsAtEnd_eq stops position
  stop position token rest stop := by simp [moreLiterals, any_agrees_iff.2 stop]
  comma position token rest stop comma := by
    rw [← literalItem_eq]
    simp only [moreLiterals, any_agrees_iff, stop, comma, if_true, if_false]
  other position token rest stop comma := by
    simp only [moreLiterals, any_agrees_iff, stop, comma, if_false]

theorem starts_literals (stops : List Token) :
    Starts literal (StopsAt stops) (missingStop stops)
      (fun cursor => moreLiterals stops cursor.position cursor.rest) (Cursor.literals stops) where
  nil position := literalsAtEnd_eq stops position
  stop position token rest stop := by simp [Cursor.literals, any_agrees_iff.2 stop]
  item position token rest stop := by
    rw [← literalItem_eq]
    simp only [Cursor.literals, any_agrees_iff, stop, if_false]

theorem recognizes_literal : Recognizes literal (Denotes (·.1) Literal.tokens) Free := by
  have taken : Recognizes literal (One Token.IsLiteral) Free :=
    recognizes_take trivial (fun _ admitted => admitted) ⟨⟨.numeric, "", {}⟩, .inr (.inl rfl)⟩
  refine taken.congr fun token tokens => ⟨?_, ?_⟩
  · rintro ⟨inside, rfl⟩
    exact ⟨⟨token, inside⟩, rfl, rfl⟩
  · rintro ⟨tree, rfl, rfl⟩
    exact ⟨tree.2, rfl⟩

def LiteralsText : List Token → List Token → Prop :=
  Denotes (fun series : Series Literal => series.toList.map (·.1)) (Series.tokens Literal.tokens)

/-- Expressions up to a stop, if no stop is a comma or an expression. -/
theorem recognizes_literals {stops : List Token}
    (stopsEnd : ∀ stop ∈ stops, ∀ token, token.Agrees stop → EndsSeries token)
    (closing : ∀ expected ∈ missingStop stops, expected.IsPlain) :
    Recognizes (Cursor.literals stops) LiteralsText
      (Ends (StopsAt stops) (missingStop stops)) := by
  refine ((starts_literals stops).recognizes (goesOn_moreLiterals stops) recognizes_literal
    ⟨?_, ?_, ?_⟩).congr fun items tokens => lists_denotes_iff
  · rintro token comma ⟨stop, inside, agrees⟩
    exact (stopsEnd stop inside token agrees).1 comma
  · rintro token tokens ⟨tree, rfl, rfl⟩
    refine ⟨tree.1, [], rfl, ?_⟩
    rintro ⟨stop, inside, agrees⟩
    exact (stopsEnd stop inside tree.1 agrees).2 tree.2
  · intro expected missing
    refine ⟨closing expected missing, fun token admitted => ?_⟩
    -- a list that something is missing from asks for its stops
    simp only [missingStop] at missing
    split at missing
    · cases missing
    · cases missing
      exact admitted

/-! ## Columns -/

def column : Cursor → Parse ColumnDefinition :=
  Grammar.andThen (name .columnName) fun columnName =>
    Grammar.andThen (Cursor.take (fun token => decide (token.kind = .keyword)) .columnType)
      fun datatype cursor => .ok (⟨columnName, datatype⟩, cursor)

theorem columnItem_eq (stop : Token) (position : Nat) (tokens : List Token) :
    columnItem stop position tokens =
      itemThen column (fun cursor => moreColumns stop cursor.position cursor.rest)
        ⟨position, tokens⟩ := by
  match tokens with
  | [] => rfl
  | [first] =>
    simp only [columnItem, itemThen, column, Grammar.andThen, name, take_cons, decide_eq_true_eq]
    split <;> rfl
  | first :: second :: rest =>
    simp only [columnItem, itemThen, column, Grammar.andThen, name, take_cons, decide_eq_true_eq]
    split
    · simp only [bind, Except.bind, take_cons, decide_eq_true_eq]
      split <;> rfl
    · rfl

theorem goesOn_moreColumns (stop : Token) :
    GoesOn column (·.Agrees stop) (some (.token stop))
      (fun cursor => moreColumns stop cursor.position cursor.rest) where
  nil position := rfl
  stop position token rest agrees := by simp only [moreColumns, agrees, if_true]
  comma position token rest agrees comma := by
    rw [← columnItem_eq]
    simp only [moreColumns, agrees, comma, if_true, if_false]
  other position token rest agrees comma := by
    simp only [moreColumns, agrees, comma, if_false]

theorem starts_columns (stop : Token) :
    Starts column (·.Agrees stop) (some (.token stop))
      (fun cursor => moreColumns stop cursor.position cursor.rest) (Cursor.columns stop) where
  nil position := rfl
  stop position token rest agrees := by simp only [Cursor.columns, agrees, if_true]
  item position token rest agrees := by
    rw [← columnItem_eq]
    simp only [Cursor.columns, agrees, if_false]

theorem recognizes_column :
    Recognizes column (Denotes ColumnTree.column ColumnTree.tokens) Free := by
  have datatype : Recognizes (Cursor.take (fun token => decide (token.kind = .keyword)) .columnType)
      (One (·.kind = .keyword)) Free :=
    recognizes_take trivial (fun _ admitted => admitted) ⟨⟨.keyword, "", {}⟩, rfl⟩
  have columnName : Recognizes (name .columnName) (One (·.kind = .identifier)) Free :=
    recognizes_name trivial fun _ admitted => admitted
  have parts := columnName.andThen_of_free (fun columnName => datatype.andThen_of_free
    (fun datatype => recognizes_ok (⟨columnName, datatype⟩ : ColumnDefinition))
    (fun _ => trivial)) (fun _ => trivial)
  refine parts.congr fun definition tokens => ⟨?_, ?_⟩
  · rintro ⟨columnName, _, _, ⟨identifier, rfl⟩, ⟨datatype, _, _, ⟨keyword, rfl⟩, ⟨rfl, rfl⟩, rfl⟩,
      rfl⟩
    exact ⟨⟨⟨columnName, identifier⟩, ⟨datatype, keyword⟩⟩, rfl, rfl⟩
  · rintro ⟨⟨columnName, datatype⟩, rfl, rfl⟩
    exact ⟨columnName.1, [columnName.1], [datatype.1], ⟨columnName.2, rfl⟩,
      ⟨datatype.1, [datatype.1], [], ⟨datatype.2, rfl⟩, ⟨rfl, rfl⟩, rfl⟩, rfl⟩

def ColumnsText : List ColumnDefinition → List Token → Prop :=
  Denotes (fun series : Series ColumnTree => series.toList.map (·.column))
    (Series.tokens ColumnTree.tokens)

/-- Column definitions up to a stop that is no comma and no identifier. -/
theorem recognizes_columns {mark : Symbol} (other : mark ≠ .comma) :
    Recognizes (Cursor.columns (.symbol mark)) ColumnsText
      (Ends (·.IsSymbol mark) (some (.token (.symbol mark)))) := by
  refine ((starts_columns (.symbol mark)).recognizes (goesOn_moreColumns _) recognizes_column
    ⟨?_, ?_, ?_⟩).congr fun columns tokens => lists_denotes_iff
  · exact fun token comma stop => other (eq_of_isSymbol stop comma)
  · rintro definition tokens ⟨tree, rfl, rfl⟩
    exact ⟨tree.name.1, _, rfl, fun stop =>
      not_isLiteral_of_isSymbol stop (isLiteral_of_identifier tree.name.2)⟩
  · intro expected missing
    cases missing
    exact ⟨.inr ⟨mark, rfl⟩, fun token admitted => admitted⟩

/-! ## Statements -/

/-- The optional last part of a `SELECT` of some expressions. -/
def sourceOf (items : List Token) (cursor : Cursor) : Parse Statement :=
  match cursor.take? (·.IsKeyword .from) with
  | none => .ok (.select items none, cursor)
  | some (_, cursor) =>
    Grammar.andThen (name .tableName)
      (fun table later => .ok (.select items (some table), later)) cursor

theorem select_eq (stop : Token) : Cursor.select stop =
    Grammar.andThen (word .select) fun _ =>
      Grammar.andThen (Cursor.literals [.keyword .from, stop]) sourceOf := by
  funext cursor
  simp only [Cursor.select, expect_bind]
  rfl

theorem insert_eq : Cursor.insert =
    Grammar.andThen (word .insert) fun _ => Grammar.andThen (word .into) fun _ =>
      Grammar.andThen (name .tableName) fun table => Grammar.andThen (word .values) fun _ =>
        Grammar.andThen (mark .leftParen) fun _ =>
          Grammar.andThen (Cursor.literals [.symbol .rightParen]) fun values =>
            Grammar.andThen (mark .rightParen) fun _ cursor =>
              .ok (.insert table values, cursor) := by
  funext cursor
  simp only [Cursor.insert, expect_bind]
  rfl

theorem createTable_eq : Cursor.createTable =
    Grammar.andThen (word .create) fun _ => Grammar.andThen (word .table) fun _ =>
      Grammar.andThen (name .tableName) fun table => Grammar.andThen (mark .leftParen) fun _ =>
        Grammar.andThen (Cursor.columns (.symbol .rightParen)) fun columns =>
          Grammar.andThen (mark .rightParen) fun _ cursor =>
            .ok (.createTable table columns, cursor) := by
  funext cursor
  simp only [Cursor.createTable, expect_bind]
  rfl

def Form.Language (form : Form) (statement : Statement) (tokens : List Token) : Prop :=
  ∃ tree : StatementTree, tree.form = form ∧ tree.statement = statement ∧ tree.tokens = tokens

/-- What a statement asks of the token behind it. -/
def Follows : Statement → Option Token → Prop
  | .select _ none, next => ∀ token ∈ next, token.IsSymbol .semicolon
  | _, _ => True

theorem recognizes_tableName : Recognizes (name .tableName) (One (·.kind = .identifier)) Free :=
  recognizes_name trivial fun _ admitted => admitted

theorem recognizes_closed {α : Type} {list : Cursor → Parse (List α)}
    {List' : List α → List Token → Prop} {missing : Expectation} (build : List α → Statement)
    (h : Recognizes list List' (Ends (·.IsSymbol .rightParen) (some missing))) :
    Recognizes (Grammar.andThen list fun items => Grammar.andThen (mark .rightParen)
        fun _ cursor => .ok (build items, cursor))
      (Sequence List' fun items => Sequence (One (·.IsSymbol .rightParen))
        fun _ statement tokens => statement = build items ∧ tokens = []) Free := by
  have behind (items : List α) := (recognizes_mark .rightParen).andThen_of_free
    (fun _ => recognizes_ok (build items)) (fun _ => trivial)
  refine h.andThen behind ?_ ?_ (fun _ => trivial)
  · intro items statement front back rest _ close
    obtain ⟨token, more, closing, -, rfl⟩ := sequence_one.1 close
    exact ⟨fun _ => ⟨closing, trivial⟩, fun _ => trivial⟩
  · intro items token close _
    exact ⟨build items, [], token, [token], [], ⟨close, rfl⟩, ⟨rfl, rfl⟩, rfl⟩

theorem recognizes_insert : Recognizes Cursor.insert (Form.insert.Language) Follows := by
  have items : Recognizes (Cursor.literals [.symbol .rightParen]) LiteralsText
      (Ends (·.IsSymbol .rightParen) (some (.closing [.symbol .rightParen]))) := by
    have stops : StopsAt [.symbol .rightParen] = (·.IsSymbol .rightParen) := by
      funext token
      simp [StopsAt, Token.IsSymbol]
    rw [← stops]
    refine recognizes_literals ?_ ?_
    · intro stop inside token agrees
      cases List.mem_singleton.1 inside
      exact endsSeries_of_isSymbol agrees (by simp)
    · intro expected missing
      cases missing
      exact ⟨_, rfl⟩
  have parts := (recognizes_word .insert).andThen_of_free (fun _ =>
    (recognizes_word .into).andThen_of_free (fun _ =>
      recognizes_tableName.andThen_of_free (fun table =>
        (recognizes_word .values).andThen_of_free (fun _ =>
          (recognizes_mark .leftParen).andThen_of_free
            (fun _ => recognizes_closed (.insert table) items)
            (fun _ => trivial)) (fun _ => trivial)) (fun _ => trivial)) (fun _ => trivial))
    (fun _ => trivial)
  rw [← insert_eq] at parts
  refine (parts.congr fun statement tokens => ⟨?_, ?_⟩).of_free ?_
  · simp only [sequence_one]
    rintro ⟨verb, _, hverb, ⟨into, _, hinto, ⟨table, _, htable, ⟨values, _, hvalues,
      ⟨opening, _, hopening, ⟨_, _, _, ⟨series, rfl, rfl⟩, close, rfl⟩, rfl⟩, rfl⟩, rfl⟩, rfl⟩,
      rfl⟩
    obtain ⟨closing, _, hclosing, ⟨rfl, rfl⟩, rfl⟩ := sequence_one.1 close
    exact ⟨.insert ⟨verb, hverb⟩ ⟨into, hinto⟩ ⟨table, htable⟩ ⟨values, hvalues⟩
      ⟨opening, hopening⟩ series ⟨closing, hclosing⟩, rfl, rfl, rfl⟩
  · rintro ⟨tree, form, rfl, rfl⟩
    cases tree with
    | insert verb into table values opening series closing =>
      simp only [sequence_one]
      exact ⟨verb.1, _, verb.2, ⟨into.1, _, into.2, ⟨table.1, _, table.2, ⟨values.1, _, values.2,
        ⟨opening.1, _, opening.2, ⟨_, _, _, ⟨series, rfl, rfl⟩,
          sequence_one.2 ⟨closing.1, [], closing.2, ⟨rfl, rfl⟩, rfl⟩, rfl⟩, rfl⟩, rfl⟩, rfl⟩, rfl⟩,
        rfl⟩
    | select | createTable => cases form
  · rintro statement tokens ⟨tree, form, rfl, rfl⟩ next
    cases tree with
    | insert => trivial
    | select | createTable => cases form

theorem recognizes_createTable :
    Recognizes Cursor.createTable (Form.createTable.Language) Follows := by
  have columns : Recognizes (Cursor.columns (.symbol .rightParen)) ColumnsText
      (Ends (·.IsSymbol .rightParen) (some (.token (.symbol .rightParen)))) :=
    recognizes_columns (by simp)
  have parts := (recognizes_word .create).andThen_of_free (fun _ =>
    (recognizes_word .table).andThen_of_free (fun _ =>
      recognizes_tableName.andThen_of_free (fun table =>
        (recognizes_mark .leftParen).andThen_of_free
          (fun _ => recognizes_closed (.createTable table) columns)
          (fun _ => trivial)) (fun _ => trivial)) (fun _ => trivial)) (fun _ => trivial)
  rw [← createTable_eq] at parts
  refine (parts.congr fun statement tokens => ⟨?_, ?_⟩).of_free ?_
  · simp only [sequence_one]
    rintro ⟨verb, _, hverb, ⟨noun, _, hnoun, ⟨table, _, htable, ⟨opening, _, hopening,
      ⟨_, _, _, ⟨series, rfl, rfl⟩, close, rfl⟩, rfl⟩, rfl⟩, rfl⟩, rfl⟩
    obtain ⟨closing, _, hclosing, ⟨rfl, rfl⟩, rfl⟩ := sequence_one.1 close
    exact ⟨.createTable ⟨verb, hverb⟩ ⟨noun, hnoun⟩ ⟨table, htable⟩ ⟨opening, hopening⟩ series
      ⟨closing, hclosing⟩, rfl, rfl, rfl⟩
  · rintro ⟨tree, form, rfl, rfl⟩
    cases tree with
    | createTable verb noun table opening series closing =>
      simp only [sequence_one]
      exact ⟨verb.1, _, verb.2, ⟨noun.1, _, noun.2, ⟨table.1, _, table.2, ⟨opening.1, _, opening.2,
        ⟨_, _, _, ⟨series, rfl, rfl⟩, sequence_one.2 ⟨closing.1, [], closing.2, ⟨rfl, rfl⟩, rfl⟩,
          rfl⟩, rfl⟩, rfl⟩, rfl⟩, rfl⟩
    | select | insert => cases form
  · rintro statement tokens ⟨tree, form, rfl, rfl⟩ next
    cases tree with
    | createTable => trivial
    | select | insert => cases form

/-- What the last part of a `SELECT` asks of the token behind it. -/
def NotFrom : Statement → Option Token → Prop
  | .select _ none, next => ∀ token ∈ next, ¬ token.IsKeyword .from
  | _, _ => True

def SourceText (items : List Token) (statement : Statement) (tokens : List Token) : Prop :=
  ∃ source : Option SourceTree, statement = .select items (source.map (·.table.1)) ∧
    tokens = (source.map (·.tokens)).getD []

theorem sourceOf_from {items : List Token} {position : Nat} {token : Token} {rest : List Token}
    (h : token.IsKeyword .from) : sourceOf items ⟨position, token :: rest⟩ =
      Grammar.andThen (word .from) (fun _ => Grammar.andThen (name .tableName)
        fun table later => .ok (.select items (some table), later)) ⟨position, token :: rest⟩ := by
  simp [sourceOf, Cursor.take?, Cursor.current?, Cursor.next, h, Grammar.andThen, word, bind,
    Except.bind]

theorem sourceOf_other {items rest : List Token} {position : Nat}
    (h : ∀ token ∈ rest.head?, ¬ token.IsKeyword .from) :
    sourceOf items ⟨position, rest⟩ = .ok (.select items none, ⟨position, rest⟩) := by
  cases rest with
  | nil => rfl
  | cons token rest => simp [sourceOf, Cursor.take?, Cursor.current?, h token rfl]

/-- The optional last part of a `SELECT` is there when the word `FROM` is. -/
theorem recognizes_sourceOf (items : List Token) :
    Recognizes (sourceOf items) (SourceText items) NotFrom := by
  have parts := (recognizes_word .from).andThen_of_free (fun _ =>
    recognizes_tableName.andThen_of_free
      (fun table => recognizes_ok (Statement.select items (some table)))
      (fun _ => trivial)) (fun _ => trivial)
  have named := parts.congr fun statement tokens =>
    show _ ↔ ∃ source : SourceTree, statement = .select items (some source.table.1) ∧
      tokens = source.tokens by
    simp only [sequence_one]
    constructor
    · rintro ⟨word, _, hword, ⟨table, _, htable, ⟨rfl, rfl⟩, rfl⟩, rfl⟩
      exact ⟨⟨⟨word, hword⟩, ⟨table, htable⟩⟩, rfl, rfl⟩
    · rintro ⟨source, rfl, rfl⟩
      exact ⟨_, _, source.word.2, ⟨_, _, source.table.2, ⟨rfl, rfl⟩, rfl⟩, rfl⟩
  -- the word `FROM` decides between reading nothing and reading the part in full
  have start (tokens : List Token) (h : ¬ ∀ token ∈ tokens.head?, ¬ token.IsKeyword .from) :
      ∃ token rest, tokens = token :: rest ∧ token.IsKeyword .from := by
    cases tokens with
    | nil => simp at h
    | cons token rest => exact ⟨token, rest, rfl, by simpa using h⟩
  constructor
  case inhabited => exact ⟨_, _, none, rfl, rfl⟩
  case sound =>
    intro position tokens statement later read
    by_cases plain : ∀ token ∈ tokens.head?, ¬ token.IsKeyword .from
    · rw [sourceOf_other plain] at read
      cases read
      exact ⟨[], rfl, rfl, ⟨none, rfl, rfl⟩, plain⟩
    · obtain ⟨token, rest, rfl, opens⟩ := start tokens plain
      rw [sourceOf_from opens] at read
      obtain ⟨passed, split, moved, ⟨source, rfl, rfl⟩, -⟩ := named.sound read
      exact ⟨_, split, moved, ⟨some source, rfl, rfl⟩, trivial⟩
  case complete =>
    rintro position statement passed rest ⟨source, rfl, rfl⟩ follow
    cases source with
    | none => exact sourceOf_other follow
    | some source =>
      exact (sourceOf_from source.word.2).trans (named.complete ⟨source, rfl, rfl⟩ trivial)
  case blame =>
    intro position tokens mismatch failed
    by_cases plain : ∀ token ∈ tokens.head?, ¬ token.IsKeyword .from
    · rw [sourceOf_other plain] at failed
      cases failed
    · obtain ⟨token, rest, rfl, opens⟩ := start tokens plain
      rw [sourceOf_from opens] at failed
      obtain ⟨passed, left, split, blamed⟩ := named.blame failed
      refine ⟨passed, left, split, blamed.position_eq, blamed.found_eq, blamed.plain, ?_, ?_⟩
      · intro next admitted
        rcases blamed.helps next admitted with ⟨_, more, source, rfl, same⟩ | ⟨_, -, -, opened⟩
        · exact .inl ⟨_, more, some source, rfl, same⟩
        · exact absurd trivial opened
      · intro other same
        obtain ⟨tail, shape⟩ := append_eq_cons_of_head?_eq split same
        rw [shape, sourceOf_from opens, ← shape]
        exact blamed.steady other same

/-- What ends the expressions of a `SELECT`: the word `FROM`, a semicolon, or the end of the
tokens. -/
theorem ends_items_iff {items : List Token} {next : Option Token} :
    Ends (StopsAt [.keyword .from, .symbol .semicolon])
        (missingStop [.keyword .from, .symbol .semicolon]) items next ↔
      ∀ token ∈ next, token.IsKeyword .from ∨ token.IsSymbol .semicolon := by
  cases next with
  | none =>
    have closes : missingStop [.keyword .from, .symbol .semicolon] = none := by decide
    simp [Ends, closes]
  | some token => simp [Ends, StopsAt, Token.IsKeyword, Token.IsSymbol]

theorem follows_select_iff {items back : List Token} {source : Option SourceTree}
    {next : Option Token} (h : back = (source.map (·.tokens)).getD []) :
    Follows (.select items (source.map (·.table.1))) next ↔
      (∀ token ∈ back.head?.or next, token.IsKeyword .from ∨ token.IsSymbol .semicolon) ∧
        NotFrom (.select items (source.map (·.table.1))) next := by
  subst h
  cases source with
  | none =>
    simp only [Option.map_none, Option.getD_none, List.head?_nil, Option.none_or, Follows, NotFrom]
    constructor
    · exact fun follows => ⟨fun token h => .inr (follows token h),
        fun token h word => not_isSymbol_of_isKeyword word (follows token h)⟩
    · -- the expressions may end at `FROM` too, but there a source would have been read
      exact fun ⟨stops, other⟩ token h => (stops token h).resolve_left (other token h)
  | some source => simp [Follows, NotFrom, SourceTree.tokens, source.word.2]

theorem recognizes_select :
    Recognizes (Cursor.select (.symbol .semicolon)) (Form.select.Language) Follows := by
  have items : Recognizes (Cursor.literals [.keyword .from, .symbol .semicolon]) LiteralsText
      (Ends (StopsAt [.keyword .from, .symbol .semicolon])
        (missingStop [.keyword .from, .symbol .semicolon])) := by
    refine recognizes_literals ?_ ?_
    · intro stop inside token agrees
      simp only [List.mem_cons, List.not_mem_nil, or_false] at inside
      rcases inside with rfl | rfl
      · exact endsSeries_of_isKeyword agrees
      · exact endsSeries_of_isSymbol agrees (by simp)
    · intro expected missing
      cases missing
  have closed (statement : Statement) : NotFrom statement none ∧ Follows statement none := by
    cases statement with
    | select items source => cases source <;> simp [NotFrom, Follows]
    | _ => exact ⟨trivial, trivial⟩
  have list : Recognizes (Grammar.andThen (Cursor.literals [.keyword .from, .symbol .semicolon])
      sourceOf) (Sequence LiteralsText SourceText) Follows := by
    refine items.andThen recognizes_sourceOf ?_ ?_ fun statement => (closed statement).1
    · rintro _ _ _ back rest ⟨series, rfl, rfl⟩ ⟨source, rfl, shape⟩
      rw [ends_items_iff, List.head?_append]
      exact follows_select_iff shape
    · exact fun _ opened => absurd rfl opened
  have parts := (recognizes_word .select).andThen_of_free (fun _ => list)
    fun statement => (closed statement).2
  rw [← select_eq] at parts
  refine parts.congr fun statement tokens => ⟨?_, ?_⟩
  · simp only [sequence_one]
    rintro ⟨verb, _, hverb, ⟨_, _, _, ⟨series, rfl, rfl⟩, ⟨source, rfl, rfl⟩, rfl⟩, rfl⟩
    exact ⟨.select ⟨verb, hverb⟩ series source, rfl, rfl, rfl⟩
  · rintro ⟨tree, form, rfl, rfl⟩
    cases tree with
    | select verb series source =>
      simp only [sequence_one]
      exact ⟨verb.1, _, verb.2, ⟨_, _, _, ⟨series, rfl, rfl⟩, ⟨source, rfl, rfl⟩, rfl⟩, rfl⟩
    | insert | createTable => cases form

end SqlShell.Grammar
