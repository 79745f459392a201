import SqlShell.Proofs.Grammar.Derivation

/-!
# The tokens that a script keeps

A script keeps the names, the expressions and the words for the types. What it leaves out are
keywords and symbols that the form of the statement tells (`Derivation.keeps`): no other token of a
derivation is lost, none is added, and their order stays.
-/

namespace SqlShell

/-- The tokens of a statement, in the order of the text. -/
def Statement.leaves : Statement → List Token
  | .createTable name columns =>
    name :: columns.flatMap fun column => [column.name, column.datatype]
  | .insert table values => table :: values
  | .select items source => items ++ source.toList

def Script.leaves (script : Script) : List Token :=
  script.flatMap Statement.leaves

namespace Grammar

/-- `kept` are the tokens of a list in their order, apart from some keywords and symbols. -/
structure Keeps (kept tokens : List Token) : Prop where
  sublist : kept.Sublist tokens
  literals : kept.filter (fun token => decide token.IsLiteral) =
    tokens.filter (fun token => decide token.IsLiteral)

theorem Keeps.refl (tokens : List Token) : Keeps tokens tokens :=
  ⟨.refl _, rfl⟩

theorem Keeps.append {kept kept' tokens tokens' : List Token} (h : Keeps kept tokens)
    (h' : Keeps kept' tokens') : Keeps (kept ++ kept') (tokens ++ tokens') :=
  ⟨h.sublist.append h'.sublist,
    by rw [List.filter_append, List.filter_append, h.literals, h'.literals]⟩

theorem Keeps.cons {kept tokens : List Token} (token : Token) (h : Keeps kept tokens) :
    Keeps (token :: kept) (token :: tokens) :=
  (Keeps.refl [token]).append h

theorem Keeps.drop {kept tokens : List Token} {token : Token} (other : ¬ token.IsLiteral)
    (h : Keeps kept tokens) : Keeps kept (token :: tokens) :=
  ⟨h.sublist.cons token, by rw [h.literals, List.filter_cons_of_neg (by simpa using other)]⟩

theorem Keeps.word {kept tokens : List Token} {word : Keyword} (token : Word word)
    (h : Keeps kept tokens) : Keeps kept (token.1 :: tokens) :=
  h.drop (not_isLiteral_of_isKeyword token.2)

theorem Keeps.mark {kept tokens : List Token} {mark : Symbol} (token : Mark mark)
    (h : Keeps kept tokens) : Keeps kept (token.1 :: tokens) :=
  h.drop (not_isLiteral_of_isSymbol token.2)

theorem keeps_marks {mark : Symbol} (marks : List (Mark mark)) {kept tokens : List Token}
    (h : Keeps kept tokens) : Keeps kept (marks.map (·.1) ++ tokens) := by
  induction marks with
  | nil => exact h
  | cons first marks ih => exact ih.mark first

theorem keeps_series {Item : Type} {tokensOf : Item → List Token} (series : Series Item) :
    Keeps (series.toList.flatMap tokensOf) (series.tokens tokensOf) := by
  cases series with
  | empty => exact .refl []
  | items first more =>
    refine (Keeps.refl (tokensOf first)).append ?_
    induction more with
    | nil => exact .refl []
    | cons part more ih => exact ((Keeps.refl (tokensOf part.2)).append ih).mark part.1

theorem StatementTree.keeps (tree : StatementTree) : Keeps tree.statement.leaves tree.tokens := by
  have literals (series : Series Literal) :
      Keeps (series.toList.map (·.1)) (series.tokens Literal.tokens) := by
    rw [List.map_eq_flatMap]
    exact keeps_series series
  cases tree with
  | select verb items source =>
    refine ((literals items).append ?_).word verb
    cases source with
    | none => exact .refl []
    | some source => exact (Keeps.refl _).word source.word
  | insert verb into table values opening items closing =>
    refine ((Keeps.cons table.1 ?_).word into).word verb
    refine (Keeps.mark opening ?_).word values
    simpa using (literals items).append ((Keeps.refl []).mark closing)
  | createTable verb noun name opening columns closing =>
    refine ((Keeps.cons name.1 ?_).word noun).word verb
    refine Keeps.mark opening ?_
    have kept : Keeps (columns.toList.flatMap ColumnTree.tokens) _ := keeps_series columns
    have closed := kept.append ((Keeps.refl []).mark closing)
    rw [List.append_nil] at closed
    rw [List.flatMap_map]
    exact closed

/-- A derivation loses only keywords and symbols to its script. -/
theorem Derivation.keeps (derivation : Derivation) :
    Keeps (Script.leaves derivation.script) derivation.tokens := by
  induction derivation with
  | nil => exact .refl []
  | cons clause derivation ih =>
    rw [Derivation.tokens_cons, Clause.tokens, List.append_assoc]
    exact clause.statement.keeps.append ((keeps_marks clause.more ih).mark clause.semicolon)

end Grammar

end SqlShell
