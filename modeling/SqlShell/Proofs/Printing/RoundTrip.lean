import SqlShell.Proofs.Grammar.Relocation
import SqlShell.Proofs.Printing.Layout
import SqlShell.Proofs.Printing.WellFormed

/-!
# Parsing undoes printing

Exactly the well-formed scripts are the same after printing and parsing. The pieces of the printed
text yield the tokens of a derivation of the script, in other places (`Script.exists_derivation`),
and the derivation can be moved to the places in the text.
-/

namespace SqlShell

open Token (Piece)
open Grammar (Derivation StatementTree ColumnTree Literal Series Word Mark Echoes)

/-! ## The tokens of a row of pieces -/

/-- Pieces whose tokens, wherever they stand, are those of a list. -/
def Yields (pieces : List Piece) (tokens : List Token) : Prop :=
  ∀ before, Echoes (tokensOf before pieces) tokens

theorem yields_nil : Yields [] [] := fun _ => .nil

theorem yields_append {front back : List Piece} {tokens tokens' : List Token}
    (h : Yields front tokens) (h' : Yields back tokens') :
    Yields (front ++ back) (tokens ++ tokens') := by
  intro before
  rw [tokensOf_append]
  exact List.rel_append (h before) (h' _)

theorem yields_separator (c : Char) {pieces : List Piece} {tokens : List Token}
    (h : Yields pieces tokens) : Yields (.separator c :: pieces) tokens :=
  fun before => h (before ++ [c])

theorem yields_written (token : Token) {pieces : List Piece} {tokens : List Token}
    (h : Yields pieces tokens) : Yields (token.written :: pieces) (token :: tokens) := by
  intro before
  refine .cons ⟨rfl, ?_⟩ (h _)
  exact String.ofList_toList

/-! ## The derivation that is printed -/

/-- A keyword that stands nowhere in particular. -/
def bareWord (word : Keyword) : Word word :=
  ⟨.keyword word, rfl, rfl⟩

def bareMark (mark : Symbol) : Mark mark :=
  ⟨.symbol mark, rfl, rfl⟩

/-- A list of items with bare commas between them. -/
def seriesOf {Item : Type} : List Item → Series Item
  | [] => .empty
  | first :: more => .items first (more.map fun item => (bareMark .comma, item))

@[simp] theorem toList_seriesOf {Item : Type} (items : List Item) :
    (seriesOf items).toList = items := by
  cases items <;> simp [seriesOf, Series.toList, Function.comp_def]

theorem yields_listed {Item : Type} {pieces : Item → List Piece} {tokensOf : Item → List Token}
    (h : ∀ item, Yields (pieces item) (tokensOf item)) (items : List Item) :
    Yields (listed (items.map pieces)) ((seriesOf items).tokens tokensOf) := by
  cases items with
  | nil => exact yields_nil
  | cons first more =>
    refine yields_append (h first) ?_
    induction more with
    | nil => exact yields_nil
    | cons item more ih =>
      exact yields_written _ (yields_separator ' ' (yields_append (h item) ih))

theorem exists_map_eq {Tree α : Type} {value : Tree → α} {items : List α}
    (h : ∀ item ∈ items, ∃ tree, value tree = item) :
    ∃ trees : List Tree, trees.map value = items := by
  have range : items ∈ Set.range (List.map value) := by
    rw [Set.range_list_map]
    exact h
  exact range

theorem isLiteral_of_isExpression {token : Token} (h : token.IsExpression) : token.IsLiteral := by
  rcases h with kind | kind | ⟨kind, -⟩
  · exact .inl kind
  · exact .inr (.inr kind)
  · exact .inr (.inl kind)

theorem exists_literals {items : List Token} (h : ∀ item ∈ items, item.IsExpression) :
    ∃ literals : List Literal, literals.map (·.1) = items ∧
      Yields (listed (items.map fun item => [item.written]))
        ((seriesOf literals).tokens Literal.tokens) := by
  obtain ⟨literals, rfl⟩ : ∃ literals : List Literal, literals.map (·.1) = items :=
    exists_map_eq fun item inside => ⟨⟨item, isLiteral_of_isExpression (h item inside)⟩, rfl⟩
  refine ⟨literals, rfl, ?_⟩
  rw [List.map_map]
  exact yields_listed (fun literal => yields_written literal.1 yields_nil) literals

theorem exists_columns {columns : List ColumnDefinition}
    (h : ∀ column ∈ columns, column.WellFormed) :
    ∃ trees : List ColumnTree, trees.map (·.column) = columns ∧
      Yields (listed (columns.map (·.pieces))) ((seriesOf trees).tokens ColumnTree.tokens) := by
  obtain ⟨trees, rfl⟩ : ∃ trees : List ColumnTree, trees.map (·.column) = columns :=
    exists_map_eq fun column inside =>
      ⟨⟨⟨column.name, (h column inside).1⟩, ⟨column.datatype, (h column inside).2.1⟩⟩, rfl⟩
  refine ⟨trees, rfl, ?_⟩
  rw [List.map_map]
  exact yields_listed (fun tree => yields_written tree.name.1
    (yields_separator ' ' (yields_written tree.datatype.1 yields_nil))) trees

theorem yields_word (word : Keyword) {pieces : List Piece} {tokens : List Token}
    (h : Yields pieces tokens) :
    Yields (printedWord word :: gap :: pieces) ((bareWord word).1 :: tokens) :=
  yields_written (.keyword word) (yields_separator ' ' h)

theorem yields_mark (mark : Symbol) {pieces : List Piece} {tokens : List Token}
    (h : Yields pieces tokens) :
    Yields (printedMark mark :: pieces) ((bareMark mark).1 :: tokens) :=
  yields_written (.symbol mark) h

theorem yields_name (name : Token) {pieces : List Piece} {tokens : List Token}
    (h : Yields pieces tokens) : Yields (name.written :: gap :: pieces) (name :: tokens) :=
  yields_written name (yields_separator ' ' h)

theorem Statement.exists_tree {statement : Statement} (h : statement.WellFormed) :
    ∃ tree : StatementTree, tree.statement = statement ∧ Yields statement.pieces tree.tokens := by
  have closing : Yields [printedMark .rightParen] [(bareMark .rightParen).1] :=
    yields_mark .rightParen yields_nil
  cases statement with
  | createTable name columns =>
    obtain ⟨trees, same, list⟩ := exists_columns h.2
    refine ⟨.createTable (bareWord .create) (bareWord .table) ⟨name, h.1⟩ (bareMark .leftParen)
      (seriesOf trees) (bareMark .rightParen), by simp [StatementTree.statement, same], ?_⟩
    have body := yields_append list closing
    exact yields_word .create (yields_word .table (yields_name name (yields_mark .leftParen body)))
  | insert table values =>
    obtain ⟨literals, same, list⟩ := exists_literals h.2
    refine ⟨.insert (bareWord .insert) (bareWord .into) ⟨table, h.1⟩ (bareWord .values)
      (bareMark .leftParen) (seriesOf literals) (bareMark .rightParen),
      by simp [StatementTree.statement, same], ?_⟩
    have body := yields_append list closing
    exact yields_word .insert (yields_word .into (yields_name table (yields_word .values
      (yields_mark .leftParen body))))
  | select items source =>
    obtain ⟨literals, same, list⟩ := exists_literals h.1
    have front : Yields (itemPieces items) ((seriesOf literals).tokens Literal.tokens) := by
      rw [itemPieces]
      split
      · next empty =>
        rw [List.isEmpty_iff.1 empty, List.map_eq_nil_iff] at same
        rw [same]
        exact yields_nil
      · exact yields_separator ' ' list
    cases source with
    | none =>
      refine ⟨.select (bareWord .select) (seriesOf literals) none,
        by simp [StatementTree.statement, same], ?_⟩
      exact yields_written _ (yields_append front yields_nil)
    | some table =>
      refine ⟨.select (bareWord .select) (seriesOf literals)
        (some ⟨bareWord .from, ⟨table, h.2 table rfl⟩⟩),
        by simp [StatementTree.statement, same], ?_⟩
      refine yields_written _ (yields_append front (yields_separator ' ' ?_))
      exact yields_word .from (yields_written table yields_nil)

/-- The pieces of a well-formed script yield the tokens of a derivation of it. -/
theorem Script.exists_derivation {script : Script} (h : script.WellFormed) :
    ∃ derivation : Derivation, derivation.script = script ∧
      Yields script.pieces derivation.tokens := by
  induction script with
  | nil => exact ⟨[], rfl, yields_nil⟩
  | cons statement script ih =>
    obtain ⟨tree, rfl, first⟩ := Statement.exists_tree (h _ List.mem_cons_self)
    obtain ⟨derivation, rfl, more⟩ := ih fun other inside => h other (List.mem_cons_of_mem _ inside)
    have ending : Yields [printedMark .semicolon, .separator '\n'] [(bareMark .semicolon).1] :=
      yields_mark .semicolon (yields_separator '\n' yields_nil)
    exact ⟨⟨tree, bareMark .semicolon, []⟩ :: derivation, rfl,
      yields_append (yields_append first ending) more⟩

/-! ## Round trip -/

theorem Script.WellFormed.parse_toSql {script : Script} (h : script.WellFormed) :
    ∃ parsed, Script.parse script.toSql = .ok parsed ∧ parsed.Agrees script := by
  have writable : ∀ token ∈ script.leaves, token.IsWritable := by
    intro token inside
    obtain ⟨statement, member, inside⟩ := List.mem_flatMap.1 inside
    exact (h statement member).isWritable token inside
  obtain ⟨derivation, rfl, yields⟩ := Script.exists_derivation h
  -- the text has the same tokens in places of its own
  obtain ⟨moved, sameTokens, agrees⟩ := Derivation.relocate derivation (yields [])
  have lexed : lex (Script.toSql derivation.script) = .ok moved.tokens := by
    rw [lex, Script.ofText_toSql writable, sameTokens]
    rfl
  exact ⟨moved.script, Grammar.parse_eq_ok_iff.2 ⟨_, lexed, moved, rfl, rfl⟩, agrees⟩

/-- Parsing undoes printing exactly on the well-formed scripts: every script that a text holds is
well formed, and a script is read back from its own text, apart from the places of its tokens, if
and only if it is well formed. -/
theorem parse_undoes_toSql :
    (∀ text script, Script.parse text = .ok script → script.WellFormed) ∧
      ∀ script : Script,
        (∃ parsed, Script.parse script.toSql = .ok parsed ∧ parsed.Agrees script) ↔
          script.WellFormed := by
  refine ⟨fun _ _ => Script.wellFormed_of_parse, fun script => ⟨?_, Script.WellFormed.parse_toSql⟩⟩
  rintro ⟨parsed, read, agrees⟩
  exact (Script.wellFormed_of_parse read).of_agrees agrees

end SqlShell
