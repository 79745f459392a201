import SqlShell.Proofs.Diagnosis.Wording
import SqlShell.Proofs.Grammar.FailingStatement

/-!
# Which kind of error a text leads to

A text without a script has no tokens, or tokens that are no script. In the first case the error is
that of the lexer. In the second, the longest script that the tokens start with ends somewhere, and
what stands there decides: a statement without a semicolon, no statement at all, or a statement that
goes wrong behind its word (`Kinds`).

The expectations of all grammars go through one tracker, which would merge those at one place into
one error. This shows in no error: without a word at the start the tracker gives way to an error of
its own, and behind the word one grammar alone has anything to say.
-/

namespace SqlShell

/-! ## Wordings -/

/-- The wording of one expectation is not that of several. -/
theorem Expectation.IsPlain.unmerged {expected : Expectation} (plain : expected.IsPlain) :
    ¬ "one of: ".toList <+: expected.text.toList := by
  have words (word : Keyword) : ¬ "one of: ".toList <+: word.display.toList := by
    cases word <;> decide
  have marks (mark : Symbol) : ¬ "one of: ".toList <+: mark.display.toList := by
    cases mark <;> decide
  cases expected with
  | token pattern =>
    rcases plain with ⟨word, rfl⟩ | ⟨mark, rfl⟩
    · rw [text, word.describe_eq]
      exact words word
    · exact marks mark
  | closing stops =>
    obtain ⟨mark, rfl⟩ := plain
    exact marks mark
  | tableName | columnName | columnType | expression => simp only [text]; decide

theorem ne_of_start {start rest message other : String} (split : message = start ++ rest)
    (differs : ¬ start.toList <+: other.toList) : message ≠ other := by
  rintro rfl
  exact differs ⟨rest.toList, by rw [← String.toList_append, ← split]⟩

/-- The message for want of a reason is that of no other fault. -/
theorem ParseFault.message_eq_unexpected_iff {fault : ParseFault} :
    fault.message = "Unexpected error" ↔ fault = .unexplained := by
  refine ⟨fun same => ?_, fun same => by rw [same]; rfl⟩
  have assoc {a b c : String} : a ++ b ++ c = a ++ (b ++ c) := String.append_assoc
  cases fault with
  | unexplained => rfl
  | lex error =>
    have split : error.message = "unable to lex token" ++ _ := assoc.trans assoc
    exact absurd same (ne_of_start split (by decide +kernel))
  | statement found =>
    have split : (statement found).message = "Expected statement, found '" ++ _ := assoc
    exact absurd same (ne_of_start split (by decide +kernel))
  | delimiter found =>
    cases found with
    | none => exact absurd same (by decide +kernel)
    | some found =>
      have split : (delimiter (some found)).message =
          "Expected ';' delimiter between statements, found '" ++ _ := assoc
      exact absurd same (ne_of_start split (by decide +kernel))
  | token expected found =>
    cases found with
    | none =>
      have split : (token expected none).message = "Expected " ++ _ := assoc
      exact absurd same (ne_of_start split (by decide +kernel))
    | some found =>
      have split : (token expected (some found)).message = "Expected " ++ _ :=
        assoc.trans (assoc.trans assoc)
      exact absurd same (ne_of_start split (by decide +kernel))

namespace Grammar

/-! ## Kinds -/

/-- What kind of error comes of a statement that goes wrong, when it starts at the position `c` with
`token`. The reading of this statement starts from an empty journal. -/
structure Kinds (source : Source) (c : Nat) (token : Token) (error : ParseError) : Prop where
  delimiter_iff : (∃ found, error.fault = .delimiter found) ↔
    ∃ parsed, (source.statement c {}).1 = some parsed
  delimiter : ∀ statement behind, (source.statement c {}).1 = some (statement, behind) →
    (∀ next ∈ source.tokens[behind.position]?, ¬ next.IsSymbol .semicolon) ∧
      error.suggestion = none
  statement_iff : (∃ found, error.fault = .statement found) ↔
    ¬ token.IsKeyword .select ∧ ¬ token.IsKeyword .insert ∧ ¬ token.IsKeyword .create
  statement : ∀ found, error.fault = .statement found →
    error.suggestion = Keyword.suggest token.value
  token_iff : (∃ expected found, error.fault = .token expected found) ↔
    (source.statement c {}).1 = none ∧
      (token.IsKeyword .select ∨ token.IsKeyword .insert ∨ token.IsKeyword .create)
  /-- One failure alone is left in the tracker, behind the first token of the statement. -/
  token : ∀ expected found, error.fault = .token expected found →
    ¬ "one of: ".toList <+: expected.toList ∧
      ∃ i, c < i ∧ i ≤ source.tokens.length ∧
        (source.statement c {}).2.tracker.furthest = some ⟨i, error.location, [expected], found⟩ ∧
        found = source.tokens[i]?.map (·.value) ∧ error.suggestion = found.bind Keyword.suggest

theorem getElem?_of_drop_eq {tokens passed rest : List Token} {c : Nat}
    (h : tokens.drop c = passed ++ rest) : tokens[c + passed.length]? = rest.head? := by
  rw [← List.getElem?_drop, h, List.getElem?_append_right (Nat.le_refl _), Nat.sub_self,
    List.head?_eq_getElem?]

/-- The words that statements start with. -/
theorem Form.opens_iff {token : Token} {rest : List Token} :
    (∃ form : Form, form.Opens (token :: rest)) ↔
      token.IsKeyword .select ∨ token.IsKeyword .insert ∨ token.IsKeyword .create := by
  constructor
  · rintro ⟨form, _, _, same, is_⟩
    cases same
    cases form with
    | select => exact .inl is_
    | insert => exact .inr (.inl is_)
    | createTable => exact .inr (.inr is_)
  · rintro (is_ | is_ | is_)
    · exact ⟨.select, token, rest, rfl, is_⟩
    · exact ⟨.insert, token, rest, rfl, is_⟩
    · exact ⟨.createTable, token, rest, rfl, is_⟩

section

variable {source : Source} {c : Nat} {token : Token} {error : ParseError}

theorem parsed_statement : (source.statement c {}).1 =
    (Cursor.mk c (source.tokens.drop c)).statement.parsed := rfl

theorem tracker_statement : (source.statement c {}).2.tracker =
    ((Cursor.mk c (source.tokens.drop c)).statement.mismatches.foldl source.noteMismatch
      { events := #[] }).tracker := rfl

/-- A statement without its semicolon is read. -/
theorem kinds_of_unclosed {tree : StatementTree} {left : List Token}
    (is_ : token.IsKeyword tree.form.verb)
    (split : source.tokens.drop c = tree.tokens ++ left)
    (follows : Follows tree.statement left.head?) (opened : Avoids (·.IsSymbol .semicolon) left)
    {found : Option String} (fault : error.fault = .delimiter found)
    (suggestion : error.suggestion = none) : Kinds source c token error := by
  have verb := Form.opens_iff.1 ⟨tree.form, token, [], rfl, is_⟩
  have parsed : (source.statement c {}).1 =
      some (tree.statement, ⟨c + tree.tokens.length, left⟩) := by
    rw [parsed_statement, split, statement_parsed_of_tree tree follows]
  exact {
    delimiter_iff := iff_of_true ⟨_, fault⟩ ⟨_, parsed⟩
    delimiter := by
      intro statement behind read
      rw [parsed] at read
      cases read
      rw [getElem?_of_drop_eq split]
      exact ⟨opened, suggestion⟩
    statement_iff := iff_of_false (by simp [fault]) (by tauto)
    statement := by simp [fault]
    token_iff := iff_of_false (by simp [fault]) (by simp [parsed])
    token := by simp [fault] }

variable {others : List Token} (shape : source.tokens.drop c = token :: others)

include shape

/-- Without a word at the start no grammar reads anything. -/
theorem kinds_of_unstarted (wordless : ∀ form : Form, ¬ form.Opens (token :: others))
    (fault : error.fault = .statement token.value)
    (suggestion : error.suggestion = Keyword.suggest token.value) :
    Kinds source c token error := by
  have unparsed : (source.statement c {}).1 = none := by
    rw [parsed_statement, shape, statement_of_unstarted wordless]
  have verbless := mt Form.opens_iff.2 fun ⟨form, opens⟩ => wordless form opens
  exact {
    delimiter_iff := iff_of_false (by simp [fault]) (by simp [unparsed])
    delimiter := by simp [unparsed]
    statement_iff := iff_of_true ⟨_, fault⟩ (by simpa using verbless)
    statement := fun _ _ => suggestion
    token_iff := iff_of_false (by simp [fault]) (by simp [verbless])
    token := by simp [fault] }

/-- Behind the word of a statement, the mismatch of its own grammar is the only one left. -/
theorem kinds_of_started {form : Form} {mismatch : Mismatch} {passed rest : List Token}
    (opens : form.Opens (token :: others))
    (failed : form.parser ⟨c, token :: others⟩ = .error mismatch) (nonempty : passed ≠ [])
    (split : source.tokens.drop c = passed ++ rest)
    (blamed : Blames form.parser form.Language Follows c passed rest mismatch)
    (fault : error.fault = .token mismatch.expected.text (rest.head?.map (·.value)))
    (location : error.location = (rest.head?.map (·.location)).getD source.endLocation)
    (suggestion : error.suggestion = (rest.head?.map (·.value)).bind Keyword.suggest) :
    Kinds source c token error := by
  have verb := Form.opens_iff.1 ⟨form, opens⟩
  have unparsed : (source.statement c {}).1 = none := by
    rw [parsed_statement, shape, statement_of_error opens failed]
  have behind : c < mismatch.position := by
    have := List.length_pos_iff.2 nonempty
    rw [blamed.position_eq]
    omega
  have inside : mismatch.position ≤ source.tokens.length := by
    have nonzero := congrArg List.length shape
    have lengths := congrArg List.length split
    rw [List.length_drop, List.length_cons] at nonzero
    rw [List.length_drop, List.length_append] at lengths
    rw [blamed.position_eq]
    omega
  -- the other grammars fail at `c`, which is not as far
  have tracked := tracker_of_started source opens failed behind #[]
  rw [← shape, ← tracker_statement] at tracked
  exact {
    delimiter_iff := iff_of_false (by simp [fault]) (by simp [unparsed])
    delimiter := by simp [unparsed]
    statement_iff := iff_of_false (by simp [fault]) (by tauto)
    statement := by simp [fault]
    token_iff := iff_of_true ⟨_, _, fault⟩ ⟨unparsed, verb⟩
    token := by
      intro expected found same
      rw [fault] at same
      cases same
      refine ⟨blamed.plain.unmerged, mismatch.position, behind, inside, ?_, ?_, suggestion⟩
      · rw [tracked, location]
        simp only [Furthest.ofFailure, failureOf, Source.failure, blamed.found_eq]
      · rw [blamed.position_eq, getElem?_of_drop_eq split] }

end

theorem FailsAt.kinds {source : Source} {c : Nat} {error : ParseError}
    (h : FailsAt source ⟨c, source.tokens.drop c⟩ error) :
    ∃ token, source.tokens[c]? = some token ∧ Kinds source c token error := by
  have here {token : Token} {others : List Token} (shape : source.tokens.drop c = token :: others) :
      source.tokens[c]? = some token := by
    simpa using congrArg List.head? shape
  cases h with
  | @unstarted token rest shape wordless =>
    dsimp only at shape wordless
    rw [shape] at wordless
    exact ⟨token, here shape, kinds_of_unstarted shape wordless rfl rfl⟩
  | started opens failed nonempty split blamed =>
    obtain ⟨token, others, shape, is_⟩ := opens
    dsimp only at shape failed split
    rw [shape] at failed
    exact ⟨token, here shape, kinds_of_started shape ⟨token, others, rfl, is_⟩ failed nonempty split
      blamed rfl rfl rfl⟩
  | @unclosed tree left split follows opened =>
    obtain ⟨token, others, start, is_⟩ := tree.tokens_eq_cons
    have shape : source.tokens.drop c = token :: (others ++ left) := by
      simpa [start] using split
    exact ⟨token, here shape, kinds_of_unclosed is_ split follows opened rfl rfl⟩

end Grammar

/-- Parse errors are classified exactly.

* It is an error of the lexer if and only if the text has no tokens, and then it is that error, with
  its place and its message, and suggests nothing.
* Otherwise the tokens start with a longest script. The statement behind it decides the kind, by
  itself (`Grammar.Kinds`).
* There always is a reason. -/
theorem parse_failures_are_classified {text : String} {error : ParseError}
    (failed : Script.parse text = .error error) :
    ((∃ fault, error.fault = .lex fault) ↔ ∃ fault, lex text = .error fault) ∧
    (∀ fault, lex text = .error fault → error.fault = .lex fault ∧
      error.location = fault.location ∧ error.fault.message = fault.message ∧
      error.suggestion = none) ∧
    (∀ tokens, lex text = .ok tokens →
      (∃! c, Grammar.ScriptEndsAt tokens c) ∧ ∀ c, Grammar.ScriptEndsAt tokens c →
        ∃ token, tokens[c]? = some token ∧ Grammar.Kinds ⟨text, tokens⟩ c token error) ∧
    error.fault ≠ .unexplained ∧ error.fault.message ≠ "Unexpected error" := by
  cases lexed : lex text with
  | error fault =>
    rw [Grammar.parse_eq_of_lex_error lexed] at failed
    cases failed
    refine ⟨iff_of_true ⟨fault, rfl⟩ ⟨fault, rfl⟩, ?_, nofun, nofun, ?_⟩
    · rintro _ ⟨⟩
      exact ⟨rfl, rfl, rfl, rfl⟩
    · exact mt ParseFault.message_eq_unexpected_iff.1 nofun
  | ok tokens =>
    rw [Grammar.parse_eq_of_lex_eq lexed] at failed
    obtain ⟨c, ends, fails⟩ := Grammar.exists_scriptEndsAt ⟨text, tokens⟩ failed
    obtain ⟨token, here, kinds⟩ := fails.kinds
    have explained : error.fault ≠ .unexplained ∧ ∀ fault, error.fault ≠ .lex fault := by
      cases fails with
      | unstarted | started | unclosed => exact ⟨nofun, nofun⟩
    refine ⟨iff_of_false ?_ nofun, nofun, ?_, explained.1, ?_⟩
    · exact fun ⟨fault, same⟩ => explained.2 fault same
    · rintro _ ⟨⟩
      refine ⟨⟨c, ends, fun other ends' => ends'.eq ends⟩, fun other ends' => ?_⟩
      cases ends'.eq ends
      exact ⟨token, here, kinds⟩
    · exact mt ParseFault.message_eq_unexpected_iff.1 explained.1

/-- The statement in front, which is right, leaves nothing behind in the error. -/
theorem misspelt_verb_is_classified :
    let text := "SELECT 1; SELET 2;"
    let tokens : List Token := [⟨.keyword, "select", ⟨0, 0⟩⟩, ⟨.numeric, "1", ⟨0, 7⟩⟩,
      ⟨.symbol, ";", ⟨0, 8⟩⟩, ⟨.identifier, "selet", ⟨0, 10⟩⟩, ⟨.numeric, "2", ⟨0, 16⟩⟩,
      ⟨.symbol, ";", ⟨0, 17⟩⟩]
    let error : ParseError := ⟨.statement "selet", ⟨0, 10⟩, some .select, some ⟨text, ⟨0, 10⟩⟩⟩
    lex text = .ok tokens ∧ Script.parse text = .error error ∧
      ∃ c token, Grammar.ScriptEndsAt tokens c ∧ tokens[c]? = some token ∧
        Grammar.Kinds ⟨text, tokens⟩ c token error := by
  intro text tokens error
  have lexed : lex text = .ok tokens := by decide +kernel
  have failed : Script.parse text = .error error := by decide +kernel
  obtain ⟨⟨c, ends, -⟩, kinds⟩ := (parse_failures_are_classified failed).2.2.1 tokens lexed
  obtain ⟨token, here, classified⟩ := kinds c ends
  exact ⟨lexed, failed, c, token, ends, here, classified⟩

end SqlShell
