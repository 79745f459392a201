import SqlShell.Proofs.Grammar.Alternatives
import SqlShell.Proofs.Grammar.Leaves
import SqlShell.Proofs.Grammar.Unambiguity

/-!
# Scripts are read as they are derived

`scriptFrom` takes one of four steps, told apart by what stands at the cursor: the tokens are at an
end, no statement starts, a statement stands without a semicolon, or a whole clause does. The
journal plays no part in which one it is. A `Course` is a whole run of these steps, and the
inductions over a reading are inductions on it.

Main result: a text has a script exactly when its tokens have a derivation, and the script is the
one that the derivation denotes (`parse_eq_ok_iff`).
-/

namespace SqlShell.Grammar

/-! ## Runs of semicolons -/

theorem semicolons?_of_avoids {cursor : Cursor} (h : Avoids (·.IsSymbol .semicolon) cursor.rest) :
    cursor.semicolons? = none := by
  obtain ⟨position, rest⟩ := cursor
  cases rest with
  | nil => rfl
  | cons token rest => simp [Cursor.semicolons?, avoids_cons.1 h]

theorem takeWhile_semicolons (more : List (Mark .semicolon)) {rest : List Token}
    (h : Avoids (·.IsSymbol .semicolon) rest) :
    (more.map (·.1) ++ rest).takeWhile (fun token => decide (token.IsSymbol .semicolon)) =
        more.map (·.1) ∧
      (more.map (·.1) ++ rest).dropWhile (fun token => decide (token.IsSymbol .semicolon)) =
        rest := by
  have all : ∀ token ∈ more.map (·.1),
      (fun token : Token => decide (token.IsSymbol .semicolon)) token = true := by
    intro token inside
    obtain ⟨mark, -, rfl⟩ := List.mem_map.1 inside
    exact decide_eq_true mark.2
  rw [List.takeWhile_append_of_pos all, List.dropWhile_append_of_pos all]
  cases rest with
  | nil => simp
  | cons token rest => simp [avoids_cons.1 h]

theorem semicolons?_of_run (mark : Mark .semicolon) (more : List (Mark .semicolon)) {position : Nat}
    {rest : List Token} (h : Avoids (·.IsSymbol .semicolon) rest) :
    Cursor.semicolons? ⟨position, mark.1 :: (more.map (·.1) ++ rest)⟩ =
      some ⟨position + (more.length + 1), rest⟩ := by
  obtain ⟨taken, dropped⟩ := takeWhile_semicolons (mark :: more) h
  simp only [List.map_cons, List.cons_append] at taken dropped
  simp only [Cursor.semicolons?, taken, dropped]
  simp

/-- Whatever starts with a semicolon starts with a run of them. -/
theorem exists_run {token : Token} (rest : List Token) (h : token.IsSymbol .semicolon) :
    ∃ (mark : Mark .semicolon) (more : List (Mark .semicolon)) (left : List Token),
      token :: rest = mark.1 :: (more.map (·.1) ++ left) ∧ Avoids (·.IsSymbol .semicolon) left := by
  induction rest generalizing token with
  | nil => exact ⟨⟨token, h⟩, [], [], rfl, avoids_nil _⟩
  | cons next rest ih =>
    by_cases another : next.IsSymbol .semicolon
    · obtain ⟨mark, more, left, shape, ends⟩ := ih another
      exact ⟨⟨token, h⟩, mark :: more, left, by rw [shape]; rfl, ends⟩
    · exact ⟨⟨token, h⟩, [], next :: rest, rfl, avoids_cons.2 another⟩

/-! ## One step -/

variable (source : Source)

theorem scriptFrom_nil (position : Nat) (journal : Journal) :
    source.scriptFrom ⟨position, []⟩ journal = (.ok [], journal) := by
  rw [Source.scriptFrom]
  rfl

theorem scriptFrom_eq_of_unparsed {cursor : Cursor} (nonempty : cursor.rest ≠ [])
    (h : cursor.statement.parsed = none) (journal : Journal) :
    let noted := cursor.statement.mismatches.foldl source.noteMismatch { journal with tracker := {} }
    source.scriptFrom cursor journal = (.error (source.statementError cursor noted.tracker), noted) := by
  rw [Source.scriptFrom]
  simp only [List.isEmpty_iff, nonempty, if_false]
  split
  · next found => simp only [Source.statementAt, Prod.mk.injEq] at found; rw [found.2]
  · next found => simp [Source.statementAt, h] at found

theorem scriptFrom_of_unparsed {cursor : Cursor} (nonempty : cursor.rest ≠ [])
    (h : cursor.statement.parsed = none) (journal : Journal) :
    (source.scriptFrom cursor journal).1 = .error (source.statementError cursor
      (cursor.statement.mismatches.foldl source.noteMismatch
        { journal with tracker := {} }).tracker) :=
  congrArg Prod.fst (scriptFrom_eq_of_unparsed source nonempty h journal)

theorem scriptFrom_eq_of_parsed {cursor behind : Cursor} {statement : Statement}
    (h : cursor.statement.parsed = some (statement, behind)) (journal : Journal) :
    let read := (cursor.statement.mismatches.foldl source.noteMismatch
      { journal with tracker := {} }).log (.parsedStatement statement)
    (behind.semicolons? = none → source.scriptFrom cursor journal =
      (.error (source.delimiterError behind),
        read.log (.missingDelimiter (source.delimiterLocation behind)))) ∧
    ∀ next, behind.semicolons? = some next → source.scriptFrom cursor journal =
      ((source.scriptFrom next read).1.map (statement :: ·), (source.scriptFrom next read).2) := by
  -- a statement has at least its first word
  have nonempty : cursor.rest ≠ [] := by
    obtain ⟨form, read⟩ := statement_parsed_iff.1 h
    obtain ⟨verb, rest, shape, -⟩ := Form.opens_of_parsed read
    simp [shape]
  rw [Source.scriptFrom]
  simp only [List.isEmpty_iff, nonempty, if_false]
  split
  · next found => simp [Source.statementAt, h] at found
  · next found =>
    simp only [Source.statementAt, h, Prod.mk.injEq, Option.some.injEq] at found
    obtain ⟨⟨rfl, rfl⟩, rfl⟩ := found
    split
    · next run => simp [run]
    · next next run =>
      refine ⟨fun none_ => by simp [none_] at run, fun next' run' => ?_⟩
      cases run.symm.trans run'
      rfl

theorem scriptFrom_of_parsed {cursor behind : Cursor} {statement : Statement}
    (h : cursor.statement.parsed = some (statement, behind)) (journal : Journal) :
    (behind.semicolons? = none →
      (source.scriptFrom cursor journal).1 = .error (source.delimiterError behind)) ∧
    ∀ next, behind.semicolons? = some next → ∃ journal',
      (source.scriptFrom cursor journal).1 =
        (source.scriptFrom next journal').1.map (statement :: ·) := by
  obtain ⟨unclosed, closed⟩ := scriptFrom_eq_of_parsed source h journal
  exact ⟨fun none_ => congrArg Prod.fst (unclosed none_),
    fun next run => ⟨_, congrArg Prod.fst (closed next run)⟩⟩

theorem statement_parsed_of_tree (tree : StatementTree) {position : Nat} {rest : List Token}
    (h : Follows tree.statement rest.head?) :
    (Cursor.mk position (tree.tokens ++ rest)).statement.parsed =
      some (tree.statement, ⟨position + tree.tokens.length, rest⟩) :=
  statement_of_ok (tree.form.recognizes.complete ⟨tree, rfl, rfl, rfl⟩ h)

theorem tree_of_parsed {cursor behind : Cursor} {statement : Statement}
    (h : cursor.statement.parsed = some (statement, behind)) :
    ∃ tree : StatementTree, cursor.rest = tree.tokens ++ behind.rest ∧
      behind.position = cursor.position + tree.tokens.length ∧ tree.statement = statement ∧
      Follows statement behind.rest.head? := by
  obtain ⟨form, read⟩ := statement_parsed_iff.1 h
  obtain ⟨_, split, moved, ⟨tree, -, rfl, rfl⟩, follows⟩ := form.recognizes.sound read
  exact ⟨tree, split, moved, rfl, follows⟩

/-- How a reading of some tokens goes: clause by clause, up to the end or to a fault. -/
inductive Course : Nat → List Token → Prop where
  | done (position : Nat) : Course position []
  | unread {position : Nat} {tokens : List Token} (nonempty : tokens ≠ [])
      (unparsed : (Cursor.mk position tokens).statement.parsed = none) : Course position tokens
  | unclosed {position : Nat} (tree : StatementTree) {left : List Token}
      (follows : Follows tree.statement left.head?)
      (opened : Avoids (·.IsSymbol .semicolon) left) : Course position (tree.tokens ++ left)
  | clause {position : Nat} (clause : Clause) {left : List Token}
      (ends : Avoids (·.IsSymbol .semicolon) left)
      (more : Course (position + clause.tokens.length) left) :
      Course position (clause.tokens ++ left)

theorem Clause.length_pos (clause : Clause) : 0 < clause.tokens.length := by
  simp only [Clause.tokens, List.length_append, List.length_cons]
  omega

theorem course (position : Nat) (tokens : List Token) : Course position tokens := by
  by_cases empty : tokens = []
  · exact empty ▸ .done position
  cases parsed : (Cursor.mk position tokens).statement.parsed with
  | none => exact .unread empty parsed
  | some found =>
    obtain ⟨tree, split, -, same, follows⟩ := tree_of_parsed parsed
    rw [← same] at follows
    dsimp only at split
    cases shape : found.2.rest with
    | nil =>
      rw [shape] at split follows
      exact split ▸ .unclosed tree follows (avoids_nil _)
    | cons token rest =>
      rw [shape] at split follows
      by_cases closes : token.IsSymbol .semicolon
      · -- the clause takes all the semicolons, and at least one: less is left to read
        obtain ⟨mark, more, left, run, ends⟩ := exists_run rest closes
        have whole : tokens = Clause.tokens ⟨tree, mark, more⟩ ++ left := by
          rw [split, run, Clause.tokens, List.append_assoc, List.cons_append]
        have shorter : left.length < tokens.length := by
          have := Clause.length_pos ⟨tree, mark, more⟩
          rw [whole, List.length_append]
          omega
        exact whole ▸ .clause ⟨tree, mark, more⟩ ends (course _ left)
      · exact split ▸ .unclosed tree follows (avoids_cons.2 closes)
termination_by tokens.length

theorem scriptFrom_unclosed (tree : StatementTree) {position : Nat} {left : List Token}
    (follows : Follows tree.statement left.head?) (opened : Avoids (·.IsSymbol .semicolon) left)
    (journal : Journal) :
    (source.scriptFrom ⟨position, tree.tokens ++ left⟩ journal).1 =
      .error (source.delimiterError ⟨position + tree.tokens.length, left⟩) :=
  (scriptFrom_of_parsed source (statement_parsed_of_tree tree follows) journal).1
    (semicolons?_of_avoids opened)

theorem scriptFrom_clause (clause : Clause) {position : Nat} {left : List Token}
    (ends : Avoids (·.IsSymbol .semicolon) left) (journal : Journal) :
    ∃ journal', (source.scriptFrom ⟨position, clause.tokens ++ left⟩ journal).1 =
      (source.scriptFrom ⟨position + clause.tokens.length, left⟩ journal').1.map
        (clause.statement.statement :: ·) := by
  obtain ⟨tree, mark, more⟩ := clause
  have parsed : (Cursor.mk position (Clause.tokens ⟨tree, mark, more⟩ ++ left)).statement.parsed =
      some (tree.statement,
        ⟨position + tree.tokens.length, mark.1 :: (more.map (·.1) ++ left)⟩) := by
    rw [Clause.tokens, List.append_assoc, List.cons_append]
    exact statement_parsed_of_tree tree (follows_semicolon mark.2)
  obtain ⟨journal', step⟩ :=
    (scriptFrom_of_parsed source parsed journal).2 _ (semicolons?_of_run mark more ends)
  refine ⟨journal', ?_⟩
  rw [step]
  simp [Clause.tokens, Nat.add_assoc]

/-! ## Whole scripts -/

theorem scriptFrom_tokens (derivation : Derivation) (position : Nat) (journal : Journal) :
    (source.scriptFrom ⟨position, derivation.tokens⟩ journal).1 = .ok derivation.script := by
  induction derivation generalizing position journal with
  | nil => rw [Derivation.tokens_nil, scriptFrom_nil, Derivation.script_nil]
  | cons clause derivation ih =>
    -- the next clause starts with a word, so it takes no semicolon from this one
    obtain ⟨journal', step⟩ :=
      scriptFrom_clause source clause (Derivation.avoids_semicolon derivation) journal
    rw [Derivation.tokens_cons, step, ih, Derivation.script_cons]
    rfl

theorem derivation_of_scriptFrom {position : Nat} {tokens : List Token} {journal : Journal}
    {script : Script} (h : (source.scriptFrom ⟨position, tokens⟩ journal).1 = .ok script) :
    ∃ derivation : Derivation, derivation.tokens = tokens ∧ derivation.script = script := by
  -- of the four ways to go on, two end in an error
  induction course position tokens generalizing journal script with
  | done position =>
    rw [scriptFrom_nil] at h
    cases h
    exact ⟨[], rfl, rfl⟩
  | unread nonempty unparsed =>
    rw [scriptFrom_of_unparsed source nonempty unparsed] at h
    cases h
  | unclosed tree follows opened =>
    rw [scriptFrom_unclosed source tree follows opened] at h
    cases h
  | clause clause ends _ ih =>
    obtain ⟨journal', step⟩ := scriptFrom_clause source clause ends journal
    rw [step] at h
    obtain ⟨script, read, rfl⟩ := Except.eq_ok_of_map_eq_ok h
    obtain ⟨derivation, same, rfl⟩ := ih read
    exact ⟨clause :: derivation, by rw [Derivation.tokens_cons, same], rfl⟩

/-- A list of tokens is read as a script exactly when it has a derivation, and then as the script
that the derivation denotes. -/
theorem scriptFrom_eq_ok_iff (position : Nat) (tokens : List Token) (journal : Journal)
    (script : Script) :
    (source.scriptFrom ⟨position, tokens⟩ journal).1 = .ok script ↔
      ∃ derivation : Derivation, derivation.tokens = tokens ∧ derivation.script = script := by
  refine ⟨derivation_of_scriptFrom source, ?_⟩
  rintro ⟨derivation, rfl, rfl⟩
  exact scriptFrom_tokens source derivation position journal

theorem scan_of_lex_eq {text : String} {tokens : List Token} (h : lex text = .ok tokens) :
    (Scan.ofText text).tokens = tokens ∧ (Scan.ofText text).error = none := by
  simp only [lex, Scan.toExcept] at h
  split at h
  · next unfailed =>
    cases h
    exact ⟨rfl, unfailed⟩
  · cases h

theorem parse_eq_of_lex_eq {text : String} {tokens : List Token} (h : lex text = .ok tokens) :
    Script.parse text = (Source.scriptFrom ⟨text, tokens⟩ ⟨0, tokens⟩ {}).1 := by
  obtain ⟨rfl, unfailed⟩ := scan_of_lex_eq h
  simp only [Script.parse, Script.read, unfailed, Source.script]
  rfl

theorem error_of_lex_eq {text : String} {error : LexError} (h : lex text = .error error) :
    (Scan.ofText text).error = some error := by
  simp only [lex, Scan.toExcept] at h
  split at h
  · cases h
  · next failed =>
    cases h
    exact failed

theorem parse_eq_of_lex_error {text : String} {error : LexError} (h : lex text = .error error) :
    Script.parse text = .error (.ofLex text error) := by
  simp only [Script.parse, Script.read, error_of_lex_eq h]

theorem parse_eq_ok_iff {text : String} {script : Script} :
    Script.parse text = .ok script ↔ ∃ tokens, lex text = .ok tokens ∧
      ∃ derivation : Derivation, derivation.tokens = tokens ∧ derivation.script = script := by
  cases read : lex text with
  | error error => simp [parse_eq_of_lex_error read]
  | ok tokens =>
    rw [parse_eq_of_lex_eq read, scriptFrom_eq_ok_iff]
    simp only [Except.ok.injEq, exists_eq_left']

/-- The parser accepts exactly its grammar and builds the one tree that it denotes:

* a text has a script if and only if it has tokens and these have a derivation, whose statements
  are the script, made of the very tokens of the text;
* no list of tokens has two derivations;
* the tokens of the script are those of the text in their order, less some keywords and symbols;
* at most one of the three statement grammars succeeds at any cursor;
* a script has as many statements as there are semicolons that follow no semicolon. -/
theorem parse_accepts_exactly_the_grammar :
    (∀ text script, Script.parse text = .ok script ↔ ∃ tokens, lex text = .ok tokens ∧
      ∃ derivation : Derivation, derivation.tokens = tokens ∧ derivation.script = script) ∧
    (∀ derivation other : Derivation, derivation.tokens = other.tokens → derivation = other) ∧
    (∀ derivation : Derivation, derivation.script.leaves.Sublist derivation.tokens ∧
      derivation.script.leaves.filter (fun token => decide token.IsLiteral) =
        derivation.tokens.filter (fun token => decide token.IsLiteral)) ∧
    (∀ cursor form parsed other parsed', Form.parser form cursor = .ok parsed →
      Form.parser other cursor = .ok parsed' → form = other) ∧
    (∀ derivation : Derivation,
      derivation.script.length = semicolonRuns none derivation.tokens) :=
  ⟨fun _ _ => parse_eq_ok_iff,
    fun _ _ => Derivation.eq_of_tokens_eq,
    fun derivation =>
      ⟨(Derivation.keeps derivation).sublist, (Derivation.keeps derivation).literals⟩,
    fun _ _ _ _ _ => Form.eq_of_parsed,
    fun derivation => Derivation.length_script derivation none⟩

end SqlShell.Grammar
