import SqlShell.Proofs.Grammar.Acceptance
import SqlShell.Proofs.Lexing.ReadBack
import SqlShell.Proofs.Lexing.Tiling

/-!
# Well-formed scripts

A script is well formed if its names are identifiers, its types are words of the language and its
expressions are identifiers, strings or numerals. Every script that a text holds is well formed
(`Script.wellFormed_of_parse`), and the tokens of a well-formed script are ones that some text has
(`Statement.WellFormed.isWritable`).
-/

namespace SqlShell

open Token (Piece IsNumeral IsLexeme)
open Grammar (Derivation StatementTree Literal Series)

/-! ## The property -/

/-- The name of a table or of a column, with any text. -/
def Token.IsName (token : Token) : Prop :=
  token.kind = .identifier

/-- The word for a type: any word of the language in its one spelling. -/
def Token.IsDatatype (token : Token) : Prop :=
  token.kind = .keyword ∧ ∃ word : Keyword, token.value = word.spelling

/-- An identifier or a string with any text, or a numeral. -/
def Token.IsExpression (token : Token) : Prop :=
  token.kind = .identifier ∨ token.kind = .string ∨
    (token.kind = .numeric ∧ IsNumeral token.value.toList)

def ColumnDefinition.WellFormed (column : ColumnDefinition) : Prop :=
  column.name.IsName ∧ column.datatype.IsDatatype

/-- A statement whose tokens are what their places call for. -/
def Statement.WellFormed : Statement → Prop
  | .createTable name columns => name.IsName ∧ ∀ column ∈ columns, column.WellFormed
  | .insert table values => table.IsName ∧ ∀ value ∈ values, value.IsExpression
  | .select items source => (∀ item ∈ items, item.IsExpression) ∧ ∀ table ∈ source, table.IsName

/-- A script of well-formed statements. -/
def Script.WellFormed (script : Script) : Prop :=
  ∀ statement ∈ script, statement.WellFormed

theorem Statement.wellFormed_unplaced (statement : Statement) :
    statement.unplaced.WellFormed ↔ statement.WellFormed := by
  cases statement with
  | createTable name columns =>
    simp [unplaced, WellFormed, Token.IsName, Token.unplaced, ColumnDefinition.WellFormed,
      ColumnDefinition.unplaced, Token.IsDatatype]
  | insert table values =>
    simp [unplaced, WellFormed, Token.IsName, Token.unplaced, Token.IsExpression]
  | select items source =>
    simp [unplaced, WellFormed, Token.IsName, Token.unplaced, Token.IsExpression]

theorem Script.WellFormed.of_agrees {script other : Script} (h : script.WellFormed)
    (same : script.Agrees other) : other.WellFormed := by
  -- whether a script is well formed can be told without the places
  have iff (script : Script) :
      script.WellFormed ↔ ∀ statement ∈ script.map Statement.unplaced, statement.WellFormed := by
    simp [WellFormed, Statement.wellFormed_unplaced]
  rw [iff] at h ⊢
  rwa [← same]

/-! ## What is read is well formed -/

theorem isWritable_of_isLexeme {kind : Kind} {value text : List Char} (h : IsLexeme kind value text)
    (location : Location) :
    Token.IsWritable { kind, value := String.ofList value, location } := by
  cases h with
  | keyword spelled => simpa [Token.IsWritable] using spelled
  | symbol spelled => simpa [Token.IsWritable] using spelled
  | numeric numeral => simpa [Token.IsWritable] using numeral
  | string | quoted | plain => trivial

theorem isWritable_of_mem_tokensOf {pieces : List Piece}
    (wellFormed : ∀ piece ∈ pieces, piece.WellFormed) {before : List Char} {token : Token}
    (h : token ∈ tokensOf before pieces) : token.IsWritable := by
  induction pieces generalizing before with
  | nil => cases h
  | cons piece pieces ih =>
    rcases List.mem_append.1 h with h | h
    · have first := wellFormed piece List.mem_cons_self
      cases piece with
      | separator c => cases h
      | lexeme kind value text =>
        cases List.mem_singleton.1 h
        exact isWritable_of_isLexeme first _
    · exact ih (fun p inside => wellFormed p (List.mem_cons_of_mem _ inside)) h

theorem isWritable_of_lex {text : String} {tokens : List Token} (h : lex text = .ok tokens) :
    ∀ token ∈ tokens, token.IsWritable := by
  obtain ⟨pieces, tiled⟩ := ofChars_tiles none [] text.toList
  simp only [lex, Scan.toExcept] at h
  split at h
  · cases h
    intro token inside
    have same : (Scan.ofText text).tokens = tokensOf [] pieces := tiled.tokens
    rw [same] at inside
    exact isWritable_of_mem_tokensOf tiled.wellFormed inside
  · cases h

theorem isExpression_of_isLiteral {token : Token} (h : token.IsLiteral)
    (writable : token.IsWritable) : token.IsExpression := by
  rcases h with kind | kind | kind
  · exact .inl kind
  · rw [Token.IsWritable, kind] at writable
    exact .inr (.inr ⟨kind, writable⟩)
  · exact .inr (.inl kind)

theorem isDatatype_of_keyword {token : Token} (kind : token.kind = .keyword)
    (writable : token.IsWritable) : token.IsDatatype := by
  rw [Token.IsWritable, kind] at writable
  obtain ⟨word, -, spelled⟩ := List.mem_map.1 writable
  exact ⟨kind, word, (String.toList_injective spelled).symm⟩

theorem statement_wellFormed_of_tree (tree : StatementTree)
    (h : ∀ token ∈ tree.statement.leaves, token.IsWritable) : tree.statement.WellFormed := by
  have expressions {series : Series Literal}
      (h : ∀ token ∈ series.toList.map (·.1), token.IsWritable) :
      ∀ token ∈ series.toList.map (·.1), token.IsExpression := by
    intro token inside
    obtain ⟨literal, -, rfl⟩ := List.mem_map.1 inside
    exact isExpression_of_isLiteral literal.2 (h _ inside)
  cases tree with
  | select verb items source =>
    refine ⟨expressions fun token inside => h token (List.mem_append_left _ inside), ?_⟩
    intro table inside
    obtain ⟨source, -, rfl⟩ := Option.map_eq_some_iff.1 inside
    exact source.table.2
  | insert verb into table values opening items closing =>
    exact ⟨table.2, expressions fun token inside => h token (List.mem_cons_of_mem _ inside)⟩
  | createTable verb noun name opening columns closing =>
    refine ⟨name.2, fun column inside => ?_⟩
    obtain ⟨tree, -, rfl⟩ := List.mem_map.1 inside
    have member : tree.column.datatype ∈
        (StatementTree.createTable verb noun name opening columns closing).statement.leaves :=
      List.mem_cons_of_mem _ (List.mem_flatMap.2 ⟨_, inside, by simp⟩)
    exact ⟨tree.name.2, isDatatype_of_keyword tree.datatype.2 (h _ member)⟩

/-- Every script that a text holds is well formed. -/
theorem Script.wellFormed_of_parse {text : String} {script : Script}
    (h : Script.parse text = .ok script) : script.WellFormed := by
  obtain ⟨tokens, lexed, derivation, rfl, rfl⟩ := Grammar.parse_eq_ok_iff.1 h
  -- the tokens of the script are tokens of the text
  have writable : ∀ token ∈ Script.leaves derivation.script, token.IsWritable := fun token inside =>
    isWritable_of_lex lexed token ((Derivation.keeps derivation).sublist.subset inside)
  intro statement inside
  obtain ⟨clause, -, rfl⟩ := List.mem_map.1 inside
  exact statement_wellFormed_of_tree clause.statement fun token leaf =>
    writable token (List.mem_flatMap.2 ⟨_, inside, leaf⟩)

/-! ## What is printed can be written -/

theorem Token.IsName.isWritable {token : Token} (h : token.IsName) : token.IsWritable := by
  rw [IsWritable, show token.kind = .identifier from h]
  trivial

theorem Token.IsDatatype.isWritable {token : Token} (h : token.IsDatatype) : token.IsWritable := by
  obtain ⟨kind, word, spelled⟩ := h
  rw [IsWritable, kind, spelled]
  cases word <;> decide

theorem Token.IsExpression.isWritable {token : Token} (h : token.IsExpression) :
    token.IsWritable := by
  rcases h with kind | kind | ⟨kind, numeral⟩
  · rw [IsWritable, kind]
    trivial
  · rw [IsWritable, kind]
    trivial
  · rw [IsWritable, kind]
    exact numeral

theorem Statement.WellFormed.isWritable {statement : Statement} (h : statement.WellFormed) :
    ∀ token ∈ statement.leaves, token.IsWritable := by
  intro token inside
  cases statement with
  | createTable name columns =>
    rcases List.mem_cons.1 inside with rfl | inside
    · exact h.1.isWritable
    · obtain ⟨column, member, inside⟩ := List.mem_flatMap.1 inside
      obtain ⟨isName, isDatatype⟩ := h.2 column member
      simp only [List.mem_cons, List.not_mem_nil, or_false] at inside
      rcases inside with rfl | rfl
      · exact isName.isWritable
      · exact isDatatype.isWritable
  | insert table values =>
    rcases List.mem_cons.1 inside with rfl | inside
    · exact h.1.isWritable
    · exact (h.2 token inside).isWritable
  | select items source =>
    rcases List.mem_append.1 inside with inside | inside
    · exact (h.1 token inside).isWritable
    · exact (h.2 token (Option.mem_toList.1 inside)).isWritable

end SqlShell
