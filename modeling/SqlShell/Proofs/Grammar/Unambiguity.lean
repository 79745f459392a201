import SqlShell.Proofs.Grammar.Derivation

/-!
# The grammar is unambiguous

Read from the left, a tree ends where no token can belong to it any more. So two trees whose tokens
start the same list are equal, provided that what follows either of them cannot go on with it.

* `decode_run`, `decode_series`, `decode_statement`, `decode_marks` — the parts can be told from
  their tokens;
* `Derivation.eq_of_tokens_eq` — a list of tokens has at most one derivation.
-/

namespace SqlShell.Grammar

/-- Trees that can be told from their tokens whatever follows. -/
def Decodable {α : Type} (tokens : α → List Token) : Prop :=
  ∀ ⦃a b rest rest'⦄, tokens a ++ rest = tokens b ++ rest' → a = b ∧ rest = rest'

theorem Literal.decodable : Decodable Literal.tokens := by
  intro a b rest rest' same
  simp only [Literal.tokens, List.singleton_append, List.cons.injEq] at same
  exact ⟨Subtype.ext same.1, same.2⟩

theorem ColumnTree.decodable : Decodable ColumnTree.tokens := by
  intro ⟨name, datatype⟩ ⟨name', datatype'⟩ rest rest' same
  simp only [ColumnTree.tokens, List.cons_append, List.nil_append, List.cons.injEq] at same
  obtain ⟨names, datatypes, rests⟩ := same
  exact ⟨congrArg₂ _ (Subtype.ext names) (Subtype.ext datatypes), rests⟩

/-- A run of trees, each of which starts with a token of a class, ends in front of a token that is
not of this class. -/
theorem decode_run {α : Type} {tokens : α → List Token} {Class : Token → Prop}
    (decodable : Decodable tokens) (starts : StartsWith tokens Class) :
    ∀ {run run' : List α} {rest rest' : List Token}, Avoids Class rest → Avoids Class rest' →
      run.flatMap tokens ++ rest = run'.flatMap tokens ++ rest' → run = run' ∧ rest = rest'
  | [], [], _, _, _, _, same => ⟨rfl, same⟩
  | [], tree :: run', rest, _, ends, _, same => by
    obtain ⟨first, more, shape, inside⟩ := starts tree
    simp only [List.flatMap_nil, List.nil_append, List.flatMap_cons, shape,
      List.cons_append] at same
    subst same
    exact absurd inside (avoids_cons.1 ends)
  | tree :: run, [], _, rest', _, ends, same => by
    obtain ⟨first, more, shape, inside⟩ := starts tree
    simp only [List.flatMap_nil, List.nil_append, List.flatMap_cons, shape,
      List.cons_append] at same
    subst same
    exact absurd inside (avoids_cons.1 ends)
  | tree :: run, tree' :: run', _, _, ends, ends', same => by
    simp only [List.flatMap_cons, List.append_assoc] at same
    obtain ⟨rfl, tails⟩ := decodable same
    obtain ⟨rfl, rfl⟩ := decode_run decodable starts ends ends' tails
    exact ⟨rfl, rfl⟩

theorem decode_separated {Item : Type} {tokensOf : Item → List Token}
    (decodable : Decodable tokensOf) {more more' : List (Mark .comma × Item)}
    {rest rest' : List Token} (ends : Avoids (·.IsSymbol .comma) rest)
    (ends' : Avoids (·.IsSymbol .comma) rest')
    (same : separatedTokens tokensOf more ++ rest = separatedTokens tokensOf more' ++ rest') :
    more = more' ∧ rest = rest' := by
  have parts : Decodable fun part : Mark .comma × Item => part.1.1 :: tokensOf part.2 := by
    intro ⟨comma, item⟩ ⟨comma', item'⟩ rest rest' same
    simp only [List.cons_append, List.cons.injEq] at same
    obtain ⟨commas, items⟩ := same
    obtain ⟨rfl, rfl⟩ := decodable items
    exact ⟨Prod.ext (Subtype.ext commas) rfl, rfl⟩
  exact decode_run parts (fun part => ⟨part.1.1, _, rfl, part.1.2⟩) ends ends' same

theorem decode_series {Item : Type} {tokensOf : Item → List Token}
    (decodable : Decodable tokensOf) (starts : StartsWith tokensOf Token.IsLiteral)
    {series series' : Series Item} {rest rest' : List Token}
    (ends : ∀ token ∈ rest.head?, EndsSeries token)
    (ends' : ∀ token ∈ rest'.head?, EndsSeries token)
    (same : series.tokens tokensOf ++ rest = series'.tokens tokensOf ++ rest') :
    series = series' ∧ rest = rest' := by
  cases series with
  | empty =>
    cases series' with
    | empty => exact ⟨rfl, same⟩
    | items first more =>
      -- what follows the empty list would be the start of an item
      obtain ⟨token, others, shape, literal⟩ := starts first
      simp only [Series.tokens, List.nil_append, shape, List.cons_append] at same
      subst same
      exact absurd literal (ends token rfl).2
  | items first more =>
    cases series' with
    | empty =>
      obtain ⟨token, others, shape, literal⟩ := starts first
      simp only [Series.tokens, List.nil_append, shape, List.cons_append] at same
      subst same
      exact absurd literal (ends' token rfl).2
    | items first' more' =>
      simp only [Series.tokens, List.append_assoc] at same
      obtain ⟨rfl, tails⟩ := decodable same
      obtain ⟨rfl, rfl⟩ := decode_separated decodable (fun token h => (ends token h).1)
        (fun token h => (ends' token h).1) tails
      exact ⟨rfl, rfl⟩

theorem decode_source {source source' : Option SourceTree} {mark mark' : Mark .semicolon}
    {rest rest' : List Token}
    (same : (source.map (·.tokens)).getD [] ++ mark.1 :: rest =
      (source'.map (·.tokens)).getD [] ++ mark'.1 :: rest') :
    source = source' ∧ mark.1 :: rest = mark'.1 :: rest' := by
  cases source with
  | none =>
    cases source' with
    | none => exact ⟨rfl, same⟩
    | some tree =>
      simp only [Option.map_none, Option.getD_none, List.nil_append, Option.map_some,
        Option.getD_some, SourceTree.tokens, List.cons_append, List.cons.injEq] at same
      exact absurd mark.2 (same.1 ▸ not_isSymbol_of_isKeyword tree.word.2)
  | some tree =>
    cases source' with
    | none =>
      simp only [Option.map_none, Option.getD_none, List.nil_append, Option.map_some,
        Option.getD_some, SourceTree.tokens, List.cons_append, List.cons.injEq] at same
      exact absurd mark'.2 (same.1 ▸ not_isSymbol_of_isKeyword tree.word.2)
    | some tree' =>
      obtain ⟨word, table⟩ := tree
      obtain ⟨word', table'⟩ := tree'
      simp only [Option.map_some, Option.getD_some, SourceTree.tokens, List.cons_append,
        List.nil_append, List.cons.injEq] at same
      obtain ⟨words, tables, rests⟩ := same
      exact ⟨congrArg some (congrArg₂ _ (Subtype.ext words) (Subtype.ext tables)),
        List.cons_eq_cons.2 rests⟩

theorem endsSeries_source {source : Option SourceTree} {mark : Mark .semicolon}
    {rest : List Token} :
    ∀ token ∈ ((source.map (·.tokens)).getD [] ++ mark.1 :: rest).head?, EndsSeries token := by
  intro token first
  cases source with
  | none =>
    cases first
    exact endsSeries_of_isSymbol mark.2 (by simp)
  | some tree =>
    cases first
    exact endsSeries_of_isKeyword tree.word.2

theorem endsSeries_mark {mark : Symbol} {closing : Mark mark} {rest : List Token}
    (other : mark ≠ .comma) :
    ∀ token ∈ ([closing.1] ++ rest).head?, EndsSeries token := by
  intro token first
  cases first
  exact endsSeries_of_isSymbol closing.2 other

theorem decode_statement : ∀ {tree tree' : StatementTree} {mark mark' : Mark .semicolon}
    {rest rest' : List Token}, tree.tokens ++ mark.1 :: rest = tree'.tokens ++ mark'.1 :: rest' →
      tree = tree' ∧ mark.1 :: rest = mark'.1 :: rest'
  | .select verb items source, .select verb' items' source', mark, mark', rest, rest', same => by
    simp only [StatementTree.tokens, List.cons_append, List.append_assoc, List.cons.injEq] at same
    obtain ⟨verbs, same⟩ := same
    obtain ⟨rfl, tails⟩ := decode_series Literal.decodable Literal.startsWith endsSeries_source
      endsSeries_source same
    obtain ⟨rfl, rests⟩ := decode_source tails
    exact ⟨by rw [Subtype.ext verbs], rests⟩
  | .insert verb into table values opening items closing,
    .insert verb' into' table' values' opening' items' closing', mark, mark', rest, rest',
    same => by
    simp only [StatementTree.tokens, List.cons_append, List.append_assoc, List.cons.injEq] at same
    obtain ⟨verbs, intos, tables, valueses, openings, same⟩ := same
    obtain ⟨rfl, tails⟩ := decode_series Literal.decodable Literal.startsWith
      (endsSeries_mark (by simp)) (endsSeries_mark (by simp)) same
    simp only [List.cons_append, List.nil_append, List.cons.injEq] at tails
    obtain ⟨closings, rests⟩ := tails
    refine ⟨?_, List.cons_eq_cons.2 rests⟩
    rw [Subtype.ext verbs, Subtype.ext intos, Subtype.ext tables, Subtype.ext valueses,
      Subtype.ext openings, Subtype.ext closings]
  | .createTable verb noun name opening columns closing,
    .createTable verb' noun' name' opening' columns' closing', mark, mark', rest, rest', same => by
    simp only [StatementTree.tokens, List.cons_append, List.append_assoc, List.cons.injEq] at same
    obtain ⟨verbs, nouns, names, openings, same⟩ := same
    obtain ⟨rfl, tails⟩ := decode_series ColumnTree.decodable ColumnTree.startsWith
      (endsSeries_mark (by simp)) (endsSeries_mark (by simp)) same
    simp only [List.cons_append, List.nil_append, List.cons.injEq] at tails
    obtain ⟨closings, rests⟩ := tails
    refine ⟨?_, List.cons_eq_cons.2 rests⟩
    rw [Subtype.ext verbs, Subtype.ext nouns, Subtype.ext names, Subtype.ext openings,
      Subtype.ext closings]
  -- statements of two forms start with different words
  | .select verb .., .insert verb' .., _, _, _, _, same
  | .select verb .., .createTable verb' .., _, _, _, _, same
  | .insert verb .., .select verb' .., _, _, _, _, same
  | .insert verb .., .createTable verb' .., _, _, _, _, same
  | .createTable verb .., .select verb' .., _, _, _, _, same
  | .createTable verb .., .insert verb' .., _, _, _, _, same => by
    have verbs : verb.1 = verb'.1 := (List.cons.inj same).1
    exact absurd (eq_of_isKeyword verb.2 (verbs ▸ verb'.2)) (by simp)

theorem decode_marks {run run' : List (Mark .semicolon)} {rest rest' : List Token}
    (ends : Avoids (·.IsSymbol .semicolon) rest) (ends' : Avoids (·.IsSymbol .semicolon) rest')
    (same : run.map (·.1) ++ rest = run'.map (·.1) ++ rest') : run = run' ∧ rest = rest' := by
  have marks : Decodable fun mark : Mark .semicolon => [mark.1] := by
    intro a b rest rest' same
    simp only [List.singleton_append, List.cons.injEq] at same
    exact ⟨Subtype.ext same.1, same.2⟩
  simp only [List.map_eq_flatMap] at same
  exact decode_run marks (fun mark => ⟨mark.1, [], rfl, mark.2⟩) ends ends' same

/-- The grammar is unambiguous: a list of tokens has at most one derivation. -/
theorem Derivation.eq_of_tokens_eq :
    ∀ {derivation other : Derivation}, derivation.tokens = other.tokens → derivation = other
  | [], [], _ => rfl
  | [], clause :: _, same | clause :: _, [], same => by
    simp [Clause.tokens] at same
  | ⟨statement, semicolon, more⟩ :: clauses, ⟨statement', semicolon', more'⟩ :: clauses', same => by
    simp only [Derivation.tokens_cons, Clause.tokens, List.append_assoc, List.cons_append] at same
    obtain ⟨rfl, tails⟩ := decode_statement same
    simp only [List.cons.injEq] at tails
    obtain ⟨first, runs⟩ := tails
    obtain ⟨rfl, rests⟩ := decode_marks (Derivation.avoids_semicolon clauses)
      (Derivation.avoids_semicolon clauses') runs
    rw [Subtype.ext first, Derivation.eq_of_tokens_eq rests]

end SqlShell.Grammar
