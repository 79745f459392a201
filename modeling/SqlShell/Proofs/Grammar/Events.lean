import SqlShell.Proofs.Diagnosis.Wording
import SqlShell.Proofs.Grammar.FailingStatement

/-!
# What an observer hears of a reading

Whoever observes a reading hears of every token, then of each statement, and of what went wrong. A
statement that is read has been missed by the grammars in front of its own, for want of their words; a
statement that is not has been missed by all three. `Mirrors` says so of a whole reading, along its
statements, and `mirrors_scriptFrom` finds it in every one.
-/

namespace SqlShell.Grammar

/-! ## Events of a statement -/

/-- The word of a form is missing where `token` stands. -/
def wordMissing (position : Nat) (token : Token) (form : Form) : Event :=
  .expectationFailed ⟨position, token.location, form.verb.display, some token.value⟩

/-- The word that a statement starts with. -/
def StatementTree.first : StatementTree → Token
  | .select verb .. => verb.1
  | .insert verb .. => verb.1
  | .createTable verb .. => verb.1

/-- What is heard of a statement that is read at a position: nothing but its words is missed on the
way. -/
def StatementTree.events (position : Nat) (tree : StatementTree) : List Event :=
  tree.form.earlier.map (wordMissing position tree.first) ++ [.parsedStatement tree.statement]

/-- How the events of a reading follow its statements, from a position on. -/
inductive Mirrors : Nat → List Token → Except ParseError Script → List Event → Prop where
  | done (position : Nat) : Mirrors position [] (.ok []) []
  /-- A statement with all its semicolons, and what comes behind them. -/
  | clause {position : Nat} (clause : Clause) {left : List Token}
      {result : Except ParseError Script} {events : List Event}
      (ends : Avoids (·.IsSymbol .semicolon) left)
      (more : Mirrors (position + clause.tokens.length) left result events) :
      Mirrors position (clause.tokens ++ left) (result.map (clause.statement.statement :: ·))
        (clause.statement.events position ++ events)
  /-- A statement without a semicolon. -/
  | unclosed {position : Nat} (tree : StatementTree) {left : List Token} {error : ParseError}
      (opened : Avoids (·.IsSymbol .semicolon) left)
      (fault : ∃ found, error.fault = .delimiter found) :
      Mirrors position (tree.tokens ++ left) (.error error)
        (tree.events position ++ [.missingDelimiter error.location])
  /-- No statement: every grammar misses its word at the first token. -/
  | unstarted {position : Nat} {token : Token} {others : List Token} {error : ParseError}
      (wordless : ∀ form : Form, ¬ token.IsKeyword form.verb)
      (fault : ∃ found, error.fault = .statement found) :
      Mirrors position (token :: others) (.error error) (Form.all.map (wordMissing position token))
  /-- A statement that goes wrong behind the word of a form: the grammar of this form tells what the
  error tells, the others miss their words at the first token. -/
  | failed {position : Nat} {form : Form} {token : Token} {others : List Token} {error : ParseError}
      {expected : String} {found : Option String} {told : Form → Event}
      (word : token.IsKeyword form.verb) (fault : error.fault = .token expected found)
      (own : (told form).message = "expectation failed" ∧ (told form).fields =
        [("line", .number error.location.line), ("column", .number error.location.column),
          ("expected", .text expected), ("found", .text (found.getD "end of input"))])
      (other : ∀ other, other ≠ form → told other = wordMissing position token other) :
      Mirrors position (token :: others) (.error error) (Form.all.map told)

/-! ## Events of mismatches -/

variable (source : Source)

/-- What is heard of a mismatch. -/
def heardOf (mismatch : Mismatch) : Event :=
  .expectationFailed (failureOf source mismatch)

theorem events_foldl_noteMismatch (mismatches : List Mismatch) (journal : Journal) :
    (mismatches.foldl source.noteMismatch journal).events.toList =
      journal.events.toList ++ mismatches.map (heardOf source) := by
  induction mismatches generalizing journal with
  | nil => simp
  | cons mismatch mismatches ih =>
    rw [List.foldl_cons, ih]
    simp [Source.noteMismatch, Source.note, Journal.log, heardOf, failureOf]

/-- What is heard of grammars that miss their words at a token. -/
theorem heardOf_wordMismatches (forms : List Form) (position : Nat) (token : Token)
    (others : List Token) :
    (wordMismatches ⟨position, token :: others⟩ forms).map (heardOf source) =
      forms.map (wordMissing position token) := by
  rw [wordMismatches, List.map_map]
  refine List.map_congr_left fun form _ => ?_
  show Event.expectationFailed
    ⟨position, token.location, (Token.keyword form.verb).describe, some token.value⟩ = _
  rw [Keyword.describe_eq]
  rfl

theorem StatementTree.tokens_eq_first_cons (tree : StatementTree) :
    ∃ others, tree.tokens = tree.first :: others := by
  cases tree with
  | select | insert | createTable => exact ⟨_, rfl⟩

/-! ## Events of one step -/

/-- The record of a statement that is read. -/
theorem events_of_tree (tree : StatementTree) (position : Nat) {left : List Token}
    (follows : Follows tree.statement left.head?) (journal : Journal) :
    (((Cursor.mk position (tree.tokens ++ left)).statement.mismatches.foldl source.noteMismatch
        journal).log (.parsedStatement tree.statement)).events.toList =
      journal.events.toList ++ tree.events position := by
  have read : tree.form.parser ⟨position, tree.tokens ++ left⟩ =
      .ok (tree.statement, ⟨position + tree.tokens.length, left⟩) :=
    tree.form.recognizes.complete ⟨tree, rfl, rfl, rfl⟩ follows
  obtain ⟨others, shape⟩ := tree.tokens_eq_first_cons
  rw [Journal.log, Array.toList_push, events_foldl_noteMismatch, statement_eq_of_ok read, shape,
    List.cons_append, heardOf_wordMismatches, List.append_assoc]
  rfl

theorem scriptFrom_eq_clause (clause : Clause) {position : Nat} {left : List Token}
    (ends : Avoids (·.IsSymbol .semicolon) left) (journal : Journal) :
    ∃ journal', journal'.events.toList =
        journal.events.toList ++ clause.statement.events position ∧
      source.scriptFrom ⟨position, clause.tokens ++ left⟩ journal =
        ((source.scriptFrom ⟨position + clause.tokens.length, left⟩ journal').1.map
            (clause.statement.statement :: ·),
          (source.scriptFrom ⟨position + clause.tokens.length, left⟩ journal').2) := by
  obtain ⟨tree, mark, marks⟩ := clause
  have follows : Follows tree.statement (mark.1 :: (marks.map (·.1) ++ left)).head? :=
    follows_semicolon mark.2
  have parsed : (Cursor.mk position (tree.tokens ++ _)).statement.parsed = _ :=
    statement_parsed_of_tree tree follows
  have step := (scriptFrom_eq_of_parsed source parsed journal).2 _
    (semicolons?_of_run mark marks ends)
  have shape : Clause.tokens ⟨tree, mark, marks⟩ ++ left =
      tree.tokens ++ mark.1 :: (marks.map (·.1) ++ left) := by
    rw [Clause.tokens, List.append_assoc, List.cons_append]
  have place : position + (Clause.tokens ⟨tree, mark, marks⟩).length =
      position + tree.tokens.length + (marks.length + 1) := by
    simp [Clause.tokens, Nat.add_assoc]
  rw [shape, place]
  exact ⟨_, events_of_tree source tree position follows { journal with tracker := {} }, step⟩

/-- Where every grammar fails, the one whose word is there tells of its mismatch. -/
theorem events_of_failed {form : Form} {position : Nat} {token : Token} {others : List Token}
    {mismatch : Mismatch} (word : token.IsKeyword form.verb)
    (failed : form.parser ⟨position, token :: others⟩ = .error mismatch) :
    (Cursor.mk position (token :: others)).statement.mismatches.map (heardOf source) =
      Form.all.map fun other =>
        if other = form then heardOf source mismatch else wordMissing position token other := by
  have elsewhere {forms : List Form} (different : ∀ other ∈ forms, other ≠ form) :
      (forms.map fun other =>
        if other = form then heardOf source mismatch else wordMissing position token other) =
          forms.map (wordMissing position token) :=
    List.map_congr_left fun other inside => if_neg (different other inside)
  rw [statement_of_error ⟨token, others, rfl, word⟩ failed, List.map_append, List.map_cons,
    heardOf_wordMismatches, heardOf_wordMismatches, form.all_split, List.map_append, List.map_cons,
    if_pos rfl, elsewhere fun _ => Form.ne_of_mem_earlier, elsewhere fun _ => Form.ne_of_mem_later]

theorem mirrors_failed {form : Form} {position : Nat} {tokens : List Token} {mismatch : Mismatch}
    (opens : form.Opens tokens) (failed : form.parser ⟨position, tokens⟩ = .error mismatch)
    (events : Array Event) :
    Mirrors position tokens
      (.error (source.statementError ⟨position, tokens⟩
        ((Cursor.mk position tokens).statement.mismatches.foldl source.noteMismatch
          { events }).tracker))
      ((Cursor.mk position tokens).statement.mismatches.map (heardOf source)) := by
  obtain ⟨passed, rest, nonempty, -, blamed⟩ := Form.blame opens failed
  -- The mismatch is behind the word, so the tracker prefers it to those of the other grammars.
  have behind : position < mismatch.position := by
    have := List.length_pos_iff.2 nonempty
    rw [blamed.position_eq]
    omega
  rw [statementError_started source opens failed behind events]
  obtain ⟨token, others, rfl, word⟩ := opens
  rw [events_of_failed source word failed]
  refine .failed word rfl ?_ fun other different => if_neg different
  rw [if_pos rfl]
  exact ⟨rfl, rfl⟩

theorem mirrors_unread {position : Nat} {tokens : List Token} (nonempty : tokens ≠ [])
    (unparsed : (Cursor.mk position tokens).statement.parsed = none) (events : Array Event) :
    Mirrors position tokens
      (.error (source.statementError ⟨position, tokens⟩
        ((Cursor.mk position tokens).statement.mismatches.foldl source.noteMismatch
          { events }).tracker))
      ((Cursor.mk position tokens).statement.mismatches.map (heardOf source)) := by
  by_cases started : ∃ form : Form, form.Opens tokens
  · obtain ⟨form, opens⟩ := started
    cases read : form.parser ⟨position, tokens⟩ with
    | ok parsed =>
      rw [statement_of_ok read] at unparsed
      cases unparsed
    | error mismatch => exact mirrors_failed source opens read events
  · have wordless (form : Form) : ¬ form.Opens tokens := fun opens => started ⟨form, opens⟩
    obtain ⟨token, others, rfl⟩ := List.exists_cons_of_ne_nil nonempty
    rw [statementError_unstarted source rfl wordless events, statement_of_unstarted wordless,
      heardOf_wordMismatches]
    exact .unstarted (fun form word => wordless form ⟨token, others, rfl, word⟩) ⟨_, rfl⟩

/-! ## Events of a reading -/

/-- A reading adds to the record what mirrors it. -/
theorem mirrors_scriptFrom (position : Nat) (tokens : List Token) (journal : Journal) :
    ∃ heard, (source.scriptFrom ⟨position, tokens⟩ journal).2.events.toList =
        journal.events.toList ++ heard ∧
      Mirrors position tokens (source.scriptFrom ⟨position, tokens⟩ journal).1 heard := by
  -- The course of a reading has a case for each way that a statement ends, as `Mirrors` has.
  induction course position tokens generalizing journal with
  | done position =>
    rw [scriptFrom_nil]
    exact ⟨[], (List.append_nil _).symm, .done position⟩
  | @unread position tokens nonempty unparsed =>
    rw [scriptFrom_eq_of_unparsed source nonempty unparsed]
    exact ⟨_, events_foldl_noteMismatch source _ _, mirrors_unread source nonempty unparsed _⟩
  | @unclosed position tree left follows opened =>
    have parsed : (Cursor.mk position (tree.tokens ++ left)).statement.parsed = _ :=
      statement_parsed_of_tree tree follows
    have heard := events_of_tree source tree position follows { journal with tracker := {} }
    rw [(scriptFrom_eq_of_parsed source parsed journal).1 (semicolons?_of_avoids opened)]
    refine ⟨_, ?_, .unclosed tree opened ⟨_, rfl⟩⟩
    rw [Journal.log, Array.toList_push, heard, List.append_assoc]
    rfl
  | @clause position clause left ends _ ih =>
    obtain ⟨journal', heard, step⟩ := scriptFrom_eq_clause source clause ends journal
    obtain ⟨more, told, mirrors⟩ := ih journal'
    rw [step]
    refine ⟨clause.statement.events position ++ more, ?_, .clause clause ends mirrors⟩
    rw [told, heard, List.append_assoc]

/-- What an observer hears of a text mirrors how it is read. It hears of each token in order. When the
text ends in characters that make no token, it hears of that, with the number of the tokens, and of
nothing else. Otherwise what it hears follows the statements (`Mirrors`): of each that is read, for
each grammar in front of its own a missing word at its first token, and then the statement; of one that
is not, one event for each of the three grammars. -/
theorem events_mirror_the_parse (text : String) :
    let result := Script.parse text
    let events := (Script.read text).2
    let lexed := (Scan.ofText text).tokens
    (∀ error, lex text = .error error →
      events = lexed.map .lexedToken ++ [.lexingFailed lexed.length error]) ∧
    ∀ tokens, lex text = .ok tokens → ∃ heard, events = tokens.map .lexedToken ++ heard ∧
      Mirrors 0 tokens result heard := by
  intro result events lexed
  refine ⟨fun error failed => ?_, fun tokens read => ?_⟩
  · have failed' := error_of_lex_eq failed
    simp only [events, Script.read, failed', Scan.events]
    rfl
  · obtain ⟨same, unfailed⟩ := scan_of_lex_eq read
    obtain ⟨heard, told, mirrors⟩ := mirrors_scriptFrom ⟨text, tokens⟩ 0 tokens {}
    refine ⟨heard, ?_, by rwa [← parse_eq_of_lex_eq read] at mirrors⟩
    simp only [events, Script.read, unfailed, Scan.events, same, List.append_nil]
    exact congrArg _ (told.trans (List.nil_append heard))

end SqlShell.Grammar
