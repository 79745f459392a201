import SqlShell.Proofs.Grammar.Derivation

/-!
# Derivations and places

The grammar looks at kinds and values only. So when the tokens of a derivation are replaced by
tokens that agree with them but stand elsewhere, there is a derivation of the new tokens, and it
denotes the same script apart from the places (`Derivation.relocate`).
-/

namespace SqlShell.Grammar

/-! ## Agreement -/

/-- Tokens that agree one by one with those of a list. -/
abbrev Echoes (moved tokens : List Token) : Prop :=
  List.Forall₂ Token.Agrees moved tokens

theorem agrees_iff {a b : Token} : a.Agrees b ↔ a.unplaced = b.unplaced := by
  simp [Token.Agrees, Token.unplaced]

theorem isKeyword_of_agrees {a b : Token} {word : Keyword} (h : a.Agrees b)
    (h' : b.IsKeyword word) : a.IsKeyword word :=
  ⟨h.1.trans h'.1, h.2.trans h'.2⟩

theorem isSymbol_of_agrees {a b : Token} {mark : Symbol} (h : a.Agrees b)
    (h' : b.IsSymbol mark) : a.IsSymbol mark :=
  ⟨h.1.trans h'.1, h.2.trans h'.2⟩

theorem isLiteral_of_agrees {a b : Token} (h : a.Agrees b) (h' : b.IsLiteral) : a.IsLiteral := by
  rwa [Token.IsLiteral, h.1]

theorem echoes_append {moved front back : List Token} (h : Echoes moved (front ++ back)) :
    ∃ front' back', moved = front' ++ back' ∧ Echoes front' front ∧ Echoes back' back :=
  ⟨_, _, (List.take_append_drop front.length moved).symm, List.forall₂_take_append _ _ _ h,
    List.forall₂_drop_append _ _ _ h⟩

theorem echoes_cons {moved tokens : List Token} {token : Token}
    (h : Echoes moved (token :: tokens)) :
    ∃ token' moved', moved = token' :: moved' ∧ token'.Agrees token ∧ Echoes moved' tokens := by
  obtain ⟨token', moved', agrees, echoes, shape⟩ := List.forall₂_cons_right_iff.1 h
  exact ⟨token', moved', shape, agrees, echoes⟩

theorem echoes_nil {moved : List Token} (h : Echoes moved []) : moved = [] :=
  List.forall₂_nil_right_iff.1 h

/-- Over tokens that agree with those of a tree there is a tree of the same value. -/
def Moves {Tree γ : Type} (tokensOf : Tree → List Token) (value : Tree → γ) : Prop :=
  ∀ tree moved, Echoes moved (tokensOf tree) →
    ∃ tree', tokensOf tree' = moved ∧ value tree' = value tree

/-! ## Parts of a statement -/

theorem moves_literal : Moves Literal.tokens (fun literal => literal.1.unplaced) := by
  intro literal moved echoes
  obtain ⟨token, more, rfl, agrees, echoes'⟩ := echoes_cons echoes
  obtain rfl := echoes_nil echoes'
  exact ⟨⟨token, isLiteral_of_agrees agrees literal.2⟩, rfl, agrees_iff.1 agrees⟩

theorem moves_column : Moves ColumnTree.tokens (fun column => column.column.unplaced) := by
  intro column moved echoes
  obtain ⟨name, more, rfl, sameName, echoes₁⟩ := echoes_cons echoes
  obtain ⟨datatype, more, rfl, sameType, echoes₂⟩ := echoes_cons echoes₁
  obtain rfl := echoes_nil echoes₂
  refine ⟨⟨⟨name, sameName.1.trans column.name.2⟩,
    ⟨datatype, sameType.1.trans column.datatype.2⟩⟩, rfl, ?_⟩
  simp [ColumnTree.column, ColumnDefinition.unplaced, agrees_iff.1 sameName, agrees_iff.1 sameType]

theorem moves_source : Moves SourceTree.tokens (fun source => source.table.1.unplaced) := by
  intro source moved echoes
  obtain ⟨word, more, rfl, sameWord, echoes₁⟩ := echoes_cons echoes
  obtain ⟨table, more, rfl, sameTable, echoes₂⟩ := echoes_cons echoes₁
  obtain rfl := echoes_nil echoes₂
  exact ⟨⟨⟨word, isKeyword_of_agrees sameWord source.word.2⟩,
    ⟨table, sameTable.1.trans source.table.2⟩⟩, rfl, agrees_iff.1 sameTable⟩

theorem moves_separated {Item γ : Type} {tokensOf : Item → List Token} {value : Item → γ}
    (h : Moves tokensOf value) : Moves (separatedTokens tokensOf)
      (fun more : List (Mark .comma × Item) => more.map fun part => value part.2) := by
  intro more moved echoes
  induction more generalizing moved with
  | nil => exact ⟨[], (echoes_nil echoes).symm, rfl⟩
  | cons part more ih =>
    obtain ⟨comma, rest, rfl, sameComma, echoes'⟩ := echoes_cons echoes
    obtain ⟨front, back, rfl, echoesFront, echoesBack⟩ := echoes_append echoes'
    obtain ⟨item, rfl, same⟩ := h part.2 front echoesFront
    obtain ⟨more', rfl, same'⟩ := ih back echoesBack
    exact ⟨(⟨comma, isSymbol_of_agrees sameComma part.1.2⟩, item) :: more', rfl,
      congrArg₂ List.cons same same'⟩

theorem moves_series {Item γ : Type} {tokensOf : Item → List Token} {value : Item → γ}
    (h : Moves tokensOf value) :
    Moves (Series.tokens tokensOf) (fun series : Series Item => series.toList.map value) := by
  intro series moved echoes
  cases series with
  | empty => exact ⟨.empty, (echoes_nil echoes).symm, rfl⟩
  | items first more =>
    obtain ⟨front, back, rfl, echoesFront, echoesBack⟩ := echoes_append echoes
    obtain ⟨first', rfl, same⟩ := h first front echoesFront
    obtain ⟨more', rfl, same'⟩ := moves_separated h more back echoesBack
    refine ⟨.items first' more', rfl, ?_⟩
    simp only [Series.toList, List.map_cons, List.map_map, Function.comp_def, same, same']

theorem moves_literals : Moves (Series.tokens Literal.tokens)
    (fun series => (series.toList.map (·.1)).map (·.unplaced)) := by
  simpa only [List.map_map, Function.comp_def] using moves_series moves_literal

theorem moves_columns : Moves (Series.tokens ColumnTree.tokens)
    (fun series => (series.toList.map (·.column)).map (·.unplaced)) := by
  simpa only [List.map_map, Function.comp_def] using moves_series moves_column

/-! ## Statements and scripts -/

theorem moves_statement :
    Moves StatementTree.tokens (fun tree => tree.statement.unplaced) := by
  intro tree moved echoes
  cases tree with
  | select verb items source =>
    obtain ⟨verb', more, rfl, sameVerb, echoes₁⟩ := echoes_cons echoes
    obtain ⟨front, back, rfl, echoesFront, echoesBack⟩ := echoes_append echoes₁
    obtain ⟨items', rfl, sameItems⟩ := moves_literals items front echoesFront
    have word := isKeyword_of_agrees sameVerb verb.2
    cases source with
    | none =>
      obtain rfl := echoes_nil echoesBack
      exact ⟨.select ⟨verb', word⟩ items' none, rfl, congrArg (Statement.select · none) sameItems⟩
    | some source =>
      obtain ⟨source', rfl, sameSource⟩ := moves_source source back echoesBack
      exact ⟨.select ⟨verb', word⟩ items' (some source'), rfl,
        congrArg₂ (Statement.select · <| some ·) sameItems sameSource⟩
  | insert verb into table values opening items closing =>
    obtain ⟨verb', more, rfl, sameVerb, echoes₁⟩ := echoes_cons echoes
    obtain ⟨into', more, rfl, sameInto, echoes₂⟩ := echoes_cons echoes₁
    obtain ⟨table', more, rfl, sameTable, echoes₃⟩ := echoes_cons echoes₂
    obtain ⟨values', more, rfl, sameValues, echoes₄⟩ := echoes_cons echoes₃
    obtain ⟨opening', more, rfl, sameOpening, echoes₅⟩ := echoes_cons echoes₄
    obtain ⟨front, back, rfl, echoesFront, echoesBack⟩ := echoes_append echoes₅
    obtain ⟨items', rfl, sameItems⟩ := moves_literals items front echoesFront
    obtain ⟨closing', more, rfl, sameClosing, echoes₆⟩ := echoes_cons echoesBack
    obtain rfl := echoes_nil echoes₆
    refine ⟨.insert ⟨verb', isKeyword_of_agrees sameVerb verb.2⟩
      ⟨into', isKeyword_of_agrees sameInto into.2⟩ ⟨table', sameTable.1.trans table.2⟩
      ⟨values', isKeyword_of_agrees sameValues values.2⟩
      ⟨opening', isSymbol_of_agrees sameOpening opening.2⟩ items'
      ⟨closing', isSymbol_of_agrees sameClosing closing.2⟩, rfl, ?_⟩
    exact congrArg₂ Statement.insert (agrees_iff.1 sameTable) sameItems
  | createTable verb noun name opening columns closing =>
    obtain ⟨verb', more, rfl, sameVerb, echoes₁⟩ := echoes_cons echoes
    obtain ⟨noun', more, rfl, sameNoun, echoes₂⟩ := echoes_cons echoes₁
    obtain ⟨name', more, rfl, sameName, echoes₃⟩ := echoes_cons echoes₂
    obtain ⟨opening', more, rfl, sameOpening, echoes₄⟩ := echoes_cons echoes₃
    obtain ⟨front, back, rfl, echoesFront, echoesBack⟩ := echoes_append echoes₄
    obtain ⟨columns', rfl, sameColumns⟩ := moves_columns columns front echoesFront
    obtain ⟨closing', more, rfl, sameClosing, echoes₅⟩ := echoes_cons echoesBack
    obtain rfl := echoes_nil echoes₅
    refine ⟨.createTable ⟨verb', isKeyword_of_agrees sameVerb verb.2⟩
      ⟨noun', isKeyword_of_agrees sameNoun noun.2⟩ ⟨name', sameName.1.trans name.2⟩
      ⟨opening', isSymbol_of_agrees sameOpening opening.2⟩ columns'
      ⟨closing', isSymbol_of_agrees sameClosing closing.2⟩, rfl, ?_⟩
    exact congrArg₂ Statement.createTable (agrees_iff.1 sameName) sameColumns

theorem moves_marks {mark : Symbol} :
    Moves (fun marks : List (Mark mark) => marks.map (·.1)) (fun _ => ()) := by
  intro marks moved echoes
  induction marks generalizing moved with
  | nil => exact ⟨[], (echoes_nil echoes).symm, rfl⟩
  | cons first marks ih =>
    obtain ⟨first', more, rfl, same, echoes'⟩ := echoes_cons echoes
    obtain ⟨marks', rfl, -⟩ := ih more echoes'
    exact ⟨⟨first', isSymbol_of_agrees same first.2⟩ :: marks', rfl, rfl⟩

/-- A derivation can be moved to tokens elsewhere that agree with its own. -/
theorem Derivation.relocate (derivation : Derivation) {moved : List Token}
    (echoes : Echoes moved derivation.tokens) :
    ∃ derivation' : Derivation, derivation'.tokens = moved ∧
      derivation'.script.Agrees derivation.script := by
  induction derivation generalizing moved with
  | nil => exact ⟨[], (echoes_nil echoes).symm, rfl⟩
  | cons clause derivation ih =>
    obtain ⟨front, back, rfl, echoesClause, echoesMore⟩ := echoes_append echoes
    obtain ⟨front, rest, rfl, echoesStatement, echoesRun⟩ := echoes_append echoesClause
    obtain ⟨semicolon, run, rfl, sameSemicolon, echoesMarks⟩ := echoes_cons echoesRun
    obtain ⟨statement, rfl, same⟩ := moves_statement clause.statement front echoesStatement
    obtain ⟨marks, rfl, -⟩ := moves_marks clause.more run echoesMarks
    obtain ⟨derivation', rfl, same'⟩ := ih echoesMore
    exact ⟨⟨statement, ⟨semicolon, isSymbol_of_agrees sameSemicolon clause.semicolon.2⟩, marks⟩ ::
      derivation', rfl, congrArg₂ List.cons same same'⟩

end SqlShell.Grammar
