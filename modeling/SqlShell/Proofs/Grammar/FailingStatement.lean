import SqlShell.Proofs.Grammar.Acceptance

/-!
# The statement that goes wrong

A script that cannot be read has statements that can be read in front of one that cannot. `FailsAt`
tells the three ways in which that one goes wrong, with the error of each:

* no word of a statement stands there (`FailsAt.unstarted`);
* a word does, and its grammar fails behind it (`FailsAt.started`);
* the statement is there, but no semicolon behind it (`FailsAt.unclosed`).

The trackers of these errors know nothing of the statements in front. The place is the end of the
longest script that the tokens start with (`ScriptEndsAt`), so it does not depend on how they are
read.
-/

namespace SqlShell.Grammar

/-! ## The error of a statement -/

variable (source : Source)

/-- What the tracker is told of a mismatch. -/
def failureOf (mismatch : Mismatch) : Failure :=
  source.failure mismatch.position mismatch.expected.text mismatch.found

theorem tracker_foldl_noteMismatch (mismatches : List Mismatch) (journal : Journal) :
    (mismatches.foldl source.noteMismatch journal).tracker =
      (mismatches.map (failureOf source)).foldl Tracker.track journal.tracker := by
  induction mismatches generalizing journal with
  | nil => rfl
  | cons mismatch mismatches ih => exact ih _

theorem position_of_mem_wordMismatches {cursor : Cursor} {forms : List Form} {failure : Failure}
    (h : failure ∈ (wordMismatches cursor forms).map (failureOf source)) :
    failure.position = cursor.position := by
  simp only [wordMismatches, List.map_map, List.mem_map, Function.comp_apply] at h
  obtain ⟨form, -, rfl⟩ := h
  rfl

/-- Where no word starts a statement, all three grammars fail at the cursor. -/
theorem tracker_of_unstarted {cursor : Cursor} {token : Token} {rest : List Token}
    (shape : cursor.rest = token :: rest) (h : ∀ form : Form, ¬ form.Opens cursor.rest)
    (events : Array Event) :
    ∃ expected, (cursor.statement.mismatches.foldl source.noteMismatch { events }).tracker =
      ⟨some ⟨cursor.position, token.location, expected, some token.value⟩⟩ := by
  let select : Furthest := ⟨cursor.position, token.location,
    [(Expectation.token (.keyword .select)).text], some token.value⟩
  have others : ∃ expected, ((wordMismatches cursor [.insert, .createTable]).map
      (failureOf source)).foldl Tracker.track ⟨some select⟩ = ⟨some { select with expected }⟩ :=
    Tracker.foldl_track_of_same fun failure => position_of_mem_wordMismatches source
  have first : Furthest.ofFailure
      (failureOf source (cursor.mismatch (.token (.keyword .select)))) = select := by
    simp only [failureOf, Cursor.mismatch, Cursor.current?, shape]
    rfl
  obtain ⟨expected, merged⟩ := others
  rw [statement_of_unstarted h, tracker_foldl_noteMismatch]
  exact ⟨expected, by rw [← merged, ← first]; rfl⟩

/-- Where a grammar got past its word, its mismatch stands behind those of the others. -/
theorem tracker_of_started {form : Form} {cursor : Cursor} {mismatch : Mismatch}
    (opens : form.Opens cursor.rest) (failed : form.parser cursor = .error mismatch)
    (behind : cursor.position < mismatch.position) (events : Array Event) :
    (cursor.statement.mismatches.foldl source.noteMismatch { events }).tracker =
      ⟨some (.ofFailure (failureOf source mismatch))⟩ := by
  have alone : ∀ failure ∈ (wordMismatches cursor form.earlier).map (failureOf source) ++
      (wordMismatches cursor form.later).map (failureOf source),
      failure.position < (failureOf source mismatch).position := by
    intro failure inside
    rcases List.mem_append.1 inside with inside | inside <;>
      rw [position_of_mem_wordMismatches source inside] <;> exact behind
  rw [statement_of_error opens failed, tracker_foldl_noteMismatch, List.map_append, List.map_cons]
  exact Tracker.foldl_track_of_furthest alone (Tracker.before_empty _)

/-- Where no word starts a statement, the error says so. -/
theorem statementError_unstarted {cursor : Cursor} {token : Token} {rest : List Token}
    (shape : cursor.rest = token :: rest) (h : ∀ form : Form, ¬ form.Opens cursor.rest)
    (events : Array Event) :
    source.statementError cursor
      (cursor.statement.mismatches.foldl source.noteMismatch { events }).tracker =
      { ParseError.located source.text token.location (.statement token.value) with
        suggestion := Keyword.suggest token.value } := by
  obtain ⟨expected, tracked⟩ := tracker_of_unstarted source shape h events
  simp [tracked, Source.statementError, Cursor.current?, shape, Tracker.position, Tracker.error]

/-- Where a grammar got past its word, the error is its mismatch. -/
theorem statementError_started {form : Form} {cursor : Cursor} {mismatch : Mismatch}
    (opens : form.Opens cursor.rest) (failed : form.parser cursor = .error mismatch)
    (behind : cursor.position < mismatch.position) (events : Array Event) :
    source.statementError cursor
      (cursor.statement.mismatches.foldl source.noteMismatch { events }).tracker =
      { ParseError.located source.text ((mismatch.found.map (·.location)).getD source.endLocation)
          (.token mismatch.expected.text (mismatch.found.map (·.value))) with
        suggestion := (mismatch.found.map (·.value)).bind Keyword.suggest } := by
  have tracked := tracker_of_started source opens failed behind events
  obtain ⟨verb, rest, starts, -⟩ := opens
  simp [tracked, Source.statementError, Cursor.current?, starts, Tracker.position,
    Furthest.ofFailure, failureOf, Source.failure, behind, Tracker.error, Furthest.wanted]

/-! ## The ways to go wrong -/

/-- What goes wrong at a cursor where a statement with its semicolon is due, and the error. -/
inductive FailsAt (cursor : Cursor) : ParseError → Prop where
  | unstarted {token : Token} {rest : List Token} (shape : cursor.rest = token :: rest)
      (wordless : ∀ form : Form, ¬ form.Opens cursor.rest) :
      FailsAt cursor { ParseError.located source.text token.location (.statement token.value) with
        suggestion := Keyword.suggest token.value }
  | started {form : Form} {mismatch : Mismatch} {passed rest : List Token}
      (opens : form.Opens cursor.rest) (failed : form.parser cursor = .error mismatch)
      (nonempty : passed ≠ []) (split : cursor.rest = passed ++ rest)
      (blamed : Blames form.parser form.Language Follows cursor.position passed rest mismatch) :
      FailsAt cursor
        { ParseError.located source.text ((rest.head?.map (·.location)).getD source.endLocation)
            (.token mismatch.expected.text (rest.head?.map (·.value))) with
          suggestion := (rest.head?.map (·.value)).bind Keyword.suggest }
  | unclosed {tree : StatementTree} {left : List Token} (split : cursor.rest = tree.tokens ++ left)
      (follows : Follows tree.statement left.head?)
      (opened : Avoids (·.IsSymbol .semicolon) left) :
      FailsAt cursor (source.delimiterError ⟨cursor.position + tree.tokens.length, left⟩)

theorem failsAt_of_unparsed {cursor : Cursor} (nonempty : cursor.rest ≠ [])
    (unparsed : cursor.statement.parsed = none) (events : Array Event) :
    FailsAt source cursor (source.statementError cursor
      (cursor.statement.mismatches.foldl source.noteMismatch { events }).tracker) := by
  by_cases started : ∃ form : Form, form.Opens cursor.rest
  · obtain ⟨form, opens⟩ := started
    cases read : form.parser cursor with
    | ok parsed =>
      rw [statement_of_ok read] at unparsed
      cases unparsed
    | error mismatch =>
      obtain ⟨passed, rest, nonempty, split, blamed⟩ := Form.blame opens read
      have behind : cursor.position < mismatch.position := by
        have := List.length_pos_iff.2 nonempty
        rw [blamed.position_eq]
        omega
      rw [statementError_started source opens read behind events, blamed.found_eq]
      exact .started opens read nonempty split blamed
  · have wordless (form : Form) : ¬ form.Opens cursor.rest := fun opens => started ⟨form, opens⟩
    obtain ⟨token, rest, shape⟩ := List.exists_cons_of_ne_nil nonempty
    rw [statementError_unstarted source shape wordless events]
    exact .unstarted shape wordless

/-- A reading that fails gets through some clauses, and goes wrong at the statement behind them. -/
theorem exists_failing_statement {position : Nat} {tokens : List Token} {journal : Journal}
    {error : ParseError} (h : (source.scriptFrom ⟨position, tokens⟩ journal).1 = .error error) :
    ∃ (derivation : Derivation) (left : List Token), tokens = derivation.tokens ++ left ∧
      (derivation ≠ [] → Avoids (·.IsSymbol .semicolon) left) ∧
      FailsAt source ⟨position + derivation.tokens.length, left⟩ error := by
  induction course position tokens generalizing journal with
  | done position =>
    rw [scriptFrom_nil] at h
    cases h
  | @unread position tokens nonempty unparsed =>
    rw [scriptFrom_of_unparsed source nonempty unparsed] at h
    cases h
    exact ⟨[], tokens, rfl, nofun, failsAt_of_unparsed source nonempty unparsed journal.events⟩
  | unclosed tree follows opened =>
    rw [scriptFrom_unclosed source tree follows opened] at h
    cases h
    exact ⟨[], _, rfl, nofun, .unclosed rfl follows opened⟩
  | clause clause ends _ ih =>
    obtain ⟨journal', step⟩ := scriptFrom_clause source clause ends journal
    rw [step] at h
    cases read : (source.scriptFrom _ journal').1 with
    | ok script => rw [read] at h; cases h
    | error error' =>
      rw [read] at h
      cases h
      obtain ⟨derivation, left, rfl, avoids, fails⟩ := ih read
      refine ⟨clause :: derivation, left, by simp, fun _ => ?_, ?_⟩
      · -- the first clause ends in front of what follows it, be it a clause or what is left
        cases derivation with
        | nil => exact ends
        | cons => exact avoids (by simp)
      · simpa [Nat.add_assoc] using fails

/-! ## Where the script ends -/

/-- The longest script that some tokens start with ends at `c`. -/
structure ScriptEndsAt (tokens : List Token) (c : Nat) : Prop where
  le : c ≤ tokens.length
  script : ∃ derivation : Derivation, derivation.tokens = tokens.take c
  longest : ∀ further ≤ tokens.length,
    (∃ derivation : Derivation, derivation.tokens = tokens.take further) → further ≤ c

theorem ScriptEndsAt.eq {tokens : List Token} {c c' : Nat} (h : ScriptEndsAt tokens c)
    (h' : ScriptEndsAt tokens c') : c = c' :=
  Nat.le_antisymm (h'.longest c h.le h.script) (h.longest c' h'.le h'.script)

theorem FailsAt.not_clause {cursor : Cursor} {error : ParseError} (h : FailsAt source cursor error)
    (clause : Clause) (more : List Token) : cursor.rest ≠ clause.tokens ++ more := by
  intro shape
  obtain ⟨position, rest⟩ := cursor
  obtain ⟨tree, mark, marks⟩ := clause
  simp only [Clause.tokens, List.append_assoc, List.cons_append] at shape
  have parsed : (Cursor.mk position rest).statement.parsed = some (tree.statement,
      ⟨position + tree.tokens.length, mark.1 :: (marks.map (·.1) ++ more)⟩) := by
    rw [shape]
    exact statement_parsed_of_tree tree (follows_semicolon mark.2)
  cases h with
  | unstarted _ wordless =>
    obtain ⟨form, read⟩ := statement_parsed_iff.1 parsed
    exact wordless form (Form.opens_of_parsed read)
  | started opens failed =>
    rw [statement_of_error opens failed] at parsed
    cases parsed
  | unclosed split follows opened =>
    dsimp only at split
    rw [split, statement_parsed_of_tree _ follows] at parsed
    simp only [Option.some.injEq, Prod.mk.injEq, Cursor.mk.injEq] at parsed
    rw [parsed.2.2] at opened
    exact opened mark.1 rfl mark.2

/-- Of two runs of semicolons that start the same tokens, the one that ends in front of something
else is the longer. -/
theorem length_run_le {run run' : List (Mark .semicolon)} {rest rest' : List Token}
    (ends : Avoids (·.IsSymbol .semicolon) rest)
    (same : run'.map (·.1) ++ rest' = run.map (·.1) ++ rest) : run'.length ≤ run.length := by
  have taken := congrArg (List.takeWhile fun token => decide (token.IsSymbol .semicolon)) same
  have all : ∀ token ∈ run'.map (·.1),
      (fun token : Token => decide (token.IsSymbol .semicolon)) token = true := by
    intro token inside
    obtain ⟨mark, -, rfl⟩ := List.mem_map.1 inside
    exact decide_eq_true mark.2
  rw [(takeWhile_semicolons run ends).1, List.takeWhile_append_of_pos all] at taken
  have lengths := congrArg List.length taken
  rw [List.length_append, List.length_map, List.length_map] at lengths
  omega

/-- No script that some tokens start with is longer than one behind which no clause starts. -/
theorem length_le_of_not_clause : ∀ {derivation other : Derivation} {left left' : List Token},
    (derivation ≠ [] → Avoids (·.IsSymbol .semicolon) left) →
    (∀ (clause : Clause) (more : List Token), left ≠ clause.tokens ++ more) →
    other.tokens ++ left' = derivation.tokens ++ left →
      other.tokens.length ≤ derivation.tokens.length
  | _, [], _, _, _, _, _ => Nat.zero_le _
  | [], clause :: other, left, left', _, stops, same => by
    rw [Derivation.tokens_nil, List.nil_append, Derivation.tokens_cons, List.append_assoc] at same
    exact absurd same.symm (stops clause _)
  | ⟨tree, mark, marks⟩ :: derivation, ⟨tree', mark', marks'⟩ :: other, left, left', ends, stops,
    same => by
    simp only [Derivation.tokens_cons, Clause.tokens, List.append_assoc, List.cons_append] at same
    obtain ⟨rfl, tails⟩ := decode_statement same
    obtain ⟨-, runs⟩ := List.cons.inj tails
    have opened : Avoids (·.IsSymbol .semicolon) (Derivation.tokens derivation ++ left) :=
      Derivation.avoids_semicolon_append fun _ => ends (by simp)
    simp only [Derivation.tokens_cons, Clause.tokens, List.length_append, List.length_cons,
      List.length_map]
    by_cases last : other = []
    · subst last
      have fewer := length_run_le opened runs
      simp only [Derivation.tokens_nil, List.length_nil]
      omega
    · -- another clause starts with a word, so both runs of semicolons end in the same place
      have opened' : Avoids (·.IsSymbol .semicolon) (Derivation.tokens other ++ left') :=
        Derivation.avoids_semicolon_append fun none_ => absurd none_ last
      obtain ⟨rfl, rests⟩ := decode_marks opened' opened runs
      have shorter := length_le_of_not_clause (fun _ => ends (by simp)) stops rests
      omega

/-- A reading that fails goes wrong at the end of the longest script. -/
theorem exists_scriptEndsAt {tokens : List Token} {journal : Journal} {error : ParseError}
    (h : (source.scriptFrom ⟨0, tokens⟩ journal).1 = .error error) :
    ∃ c, ScriptEndsAt tokens c ∧ FailsAt source ⟨c, tokens.drop c⟩ error := by
  obtain ⟨derivation, left, rfl, ends, fails⟩ := exists_failing_statement source h
  refine ⟨derivation.tokens.length, ⟨by simp, ⟨derivation, by simp⟩, ?_⟩, ?_⟩
  · rintro further inside ⟨other, prefix_⟩
    have same : other.tokens ++ (derivation.tokens ++ left).drop further =
        derivation.tokens ++ left := by
      rw [prefix_, List.take_append_drop]
    have shorter := length_le_of_not_clause ends fails.not_clause same
    rwa [prefix_, List.length_take, Nat.min_eq_left inside] at shorter
  · simpa using fails

end SqlShell.Grammar
