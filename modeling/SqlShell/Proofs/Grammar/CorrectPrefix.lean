import SqlShell.Proofs.Diagnosis.Wording
import SqlShell.Proofs.Grammar.FailingStatement

/-!
# Errors point at the first wrong token

A list of tokens that is no script has exactly one place where it goes wrong (`FirstWrong`): the
tokens in front of it start some script, and with the token there they start none. The error is
placed there, names the token that stands there, and every token that it asks for instead would
have led on.
-/

namespace SqlShell.Grammar

variable (source : Source)

/-! ## The error of a script -/

/-- Tokens that some script starts with. -/
def Viable (tokens : List Token) : Prop :=
  ∃ derivation : Derivation, tokens <+: derivation.tokens

theorem Viable.shorten {tokens more : List Token} (h : Viable more) (start : tokens <+: more) :
    Viable tokens := by
  obtain ⟨derivation, starts⟩ := h
  exact ⟨derivation, start.trans starts⟩

theorem Viable.clause (clause : Clause) {tokens : List Token} (h : Viable tokens) :
    Viable (clause.tokens ++ tokens) := by
  obtain ⟨derivation, rest, split⟩ := h
  exact ⟨clause :: derivation, rest, by rw [Derivation.tokens_cons, ← split, List.append_assoc]⟩

/-- A text of a statement can be closed, and so can the start of one. -/
theorem viable_of_language {form : Form} {statement : Statement} {tokens more : List Token}
    (h : form.Language statement (tokens ++ more)) : Viable tokens := by
  obtain ⟨tree, -, -, shape⟩ := h
  have semicolon : Mark .semicolon := ⟨.symbol .semicolon, rfl, rfl⟩
  exact ⟨[⟨tree, semicolon, []⟩], more ++ [semicolon.1], by simp [Clause.tokens, shape]⟩

/-- An error behind the tokens `passed`, in front of `rest`. -/
structure Stuck (passed rest : List Token) (error : ParseError) : Prop where
  location_eq : error.location = (rest.head?.map (·.location)).getD source.endLocation
  found_eq : error.fault.found? = rest.head?.map (·.value)
  admits : ∃ token, error.fault.Admits token
  helps : ∀ token, error.fault.Admits token → Viable (passed ++ [token])
  /-- The token at the place of the error is wrong, whatever follows it. -/
  wrong : ∀ other, other.head? = rest.head? → ∀ derivation : Derivation,
    derivation.tokens ≠ passed ++ other

theorem underivable_of_unparsed {position : Nat} {tokens : List Token} (nonempty : tokens ≠ [])
    (unparsed : (Cursor.mk position tokens).statement.parsed = none) (derivation : Derivation) :
    derivation.tokens ≠ tokens := by
  rintro rfl
  have accepted := scriptFrom_tokens ⟨"", []⟩ derivation position {}
  rw [scriptFrom_of_unparsed _ nonempty unparsed] at accepted
  cases accepted

theorem stuck_unstarted {token : Token} {rest : List Token}
    (wordless : ∀ form : Form, ¬ form.Opens (token :: rest)) :
    Stuck source [] (token :: rest)
      { ParseError.located source.text token.location (.statement token.value) with
        suggestion := Keyword.suggest token.value } := by
  have verb (form : Form) {token : Token} (is_ : token.IsKeyword form.verb) : Viable [token] := by
    obtain ⟨tree, more, rfl, starts⟩ := Form.exists_tree is_
    exact viable_of_language ⟨tree, rfl, rfl, starts⟩
  refine ⟨rfl, rfl, ⟨.keyword .select, .inl ⟨rfl, rfl⟩⟩, ?_, ?_⟩
  · intro candidate admitted
    rcases admitted with is_ | is_ | is_
    · exact verb .select is_
    · exact verb .insert is_
    · exact verb .createTable is_
  · intro other same derivation derives
    -- a script starts with the word of some form
    cases derivation with
    | nil =>
      rw [← List.nil_append other, ← derives] at same
      cases same
    | cons clause derivation =>
      obtain ⟨first, more, starts, is_⟩ := clause.statement.tokens_eq_cons
      refine wordless clause.statement.form ⟨token, rest, rfl, ?_⟩
      rw [Derivation.tokens_cons, Clause.tokens, starts, List.nil_append] at derives
      rw [← derives] at same
      cases same
      exact is_

theorem stuck_started {form : Form} {position : Nat} {passed rest : List Token}
    {mismatch : Mismatch} (opens : form.Opens (passed ++ rest)) (nonempty : passed ≠ [])
    (blamed : Blames form.parser form.Language Follows position passed rest mismatch) :
    Stuck source passed rest
      { ParseError.located source.text ((rest.head?.map (·.location)).getD source.endLocation)
          (.token mismatch.expected.text (rest.head?.map (·.value))) with
        suggestion := (rest.head?.map (·.value)).bind Keyword.suggest } := by
  refine ⟨rfl, rfl, mismatch.expected.exists_fitsWording blamed.plain, ?_, ?_⟩
  · intro candidate admitted
    rcases blamed.helps candidate (mismatch.expected.admits_of_fitsWording blamed.plain admitted)
      with ⟨statement, more, inside⟩ | ⟨statement, -, -, opened⟩
    · exact viable_of_language (by rwa [List.append_assoc])
    · exact absurd (follows_none statement) opened
  · intro other same
    -- the word is still there, and its grammar still fails
    obtain ⟨verb, others, shape, is_⟩ := opens
    obtain ⟨first, front, rfl⟩ := List.exists_cons_of_ne_nil nonempty
    obtain ⟨rfl, -⟩ := List.cons.inj shape
    have opens' : form.Opens (first :: front ++ other) := ⟨first, front ++ other, rfl, is_⟩
    have refused : form.parser ⟨position, first :: front ++ other⟩ = _ := blamed.steady other same
    exact underivable_of_unparsed (by simp) (by rw [statement_of_error opens' refused])

theorem stuck_unclosed {tree : StatementTree} {position : Nat} {left : List Token}
    (follows : Follows tree.statement left.head?) (opened : Avoids (·.IsSymbol .semicolon) left) :
    Stuck source tree.tokens left
      (source.delimiterError ⟨position + tree.tokens.length, left⟩) := by
  refine ⟨rfl, rfl, ⟨.symbol .semicolon, rfl, rfl⟩, ?_, ?_⟩
  · intro candidate admitted
    exact ⟨[⟨tree, ⟨candidate, admitted⟩, []⟩], by simp [Clause.tokens]⟩
  · rintro other same derivation derives
    have accepted := scriptFrom_tokens source derivation position {}
    have opened' : Avoids (·.IsSymbol .semicolon) other := by rwa [Avoids, same]
    rw [derives, scriptFrom_unclosed source tree (same ▸ follows) opened'] at accepted
    cases accepted

theorem Stuck.clause {passed rest : List Token} {error : ParseError}
    (h : Stuck source passed rest error) (clause : Clause)
    (ends : Avoids (·.IsSymbol .semicolon) (passed ++ rest)) :
    Stuck source (clause.tokens ++ passed) rest error := by
  refine ⟨h.location_eq, h.found_eq, h.admits, ?_, ?_⟩
  · intro candidate admitted
    rw [List.append_assoc]
    exact (h.helps candidate admitted).clause clause
  · intro other same derivation derives
    have ends' : Avoids (·.IsSymbol .semicolon) (passed ++ other) := by
      cases passed with
      | nil => rwa [List.nil_append, Avoids, same]
      | cons first passed => exact ends
    have accepted := scriptFrom_tokens source derivation 0 {}
    obtain ⟨journal, step⟩ := scriptFrom_clause source clause ends' {}
    rw [derives, List.append_assoc, step] at accepted
    obtain ⟨script, read, -⟩ := Except.eq_ok_of_map_eq_ok accepted
    obtain ⟨behind, derives', -⟩ := derivation_of_scriptFrom source read
    exact h.wrong other same behind derives'

theorem Stuck.clauses {passed rest : List Token} {error : ParseError}
    (h : Stuck source passed rest error) (derivation : Derivation)
    (ends : derivation ≠ [] → Avoids (·.IsSymbol .semicolon) (passed ++ rest)) :
    Stuck source (derivation.tokens ++ passed) rest error := by
  induction derivation with
  | nil => exact h
  | cons clause derivation ih =>
    have behind := ih fun _ => ends (by simp)
    rw [Derivation.tokens_cons, List.append_assoc]
    refine behind.clause source clause ?_
    rw [List.append_assoc]
    exact Derivation.avoids_semicolon_append fun _ => ends (by simp)

theorem FailsAt.stuck {position : Nat} {tokens : List Token} {error : ParseError}
    (h : FailsAt source ⟨position, tokens⟩ error) :
    ∃ passed rest, tokens = passed ++ rest ∧ Stuck source passed rest error := by
  cases h with
  | unstarted shape wordless =>
    cases shape
    exact ⟨[], _, rfl, stuck_unstarted source wordless⟩
  | started opens failed nonempty split blamed =>
    cases split
    exact ⟨_, _, rfl, stuck_started source opens nonempty blamed⟩
  | unclosed split follows opened =>
    cases split
    exact ⟨_, _, rfl, stuck_unclosed source follows opened⟩

/-- A reading that fails is stuck at the place of its error. -/
theorem stuck_of_scriptFrom {position : Nat} {tokens : List Token} {journal : Journal}
    {error : ParseError} (h : (source.scriptFrom ⟨position, tokens⟩ journal).1 = .error error) :
    ∃ passed rest, tokens = passed ++ rest ∧ Stuck source passed rest error := by
  obtain ⟨derivation, left, rfl, ends, fails⟩ := exists_failing_statement source h
  obtain ⟨passed, rest, rfl, stuck⟩ := fails.stuck source
  exact ⟨derivation.tokens ++ passed, rest, by simp, stuck.clauses source derivation ends⟩

/-! ## The first wrong token -/

/-- The place where tokens go wrong: those in front of it start a script, and either they are all
there is and no script, or with the token at the place they start none. -/
def FirstWrong (tokens : List Token) (i : Nat) : Prop :=
  i ≤ tokens.length ∧ Viable (tokens.take i) ∧
    ((i = tokens.length ∧ ∀ derivation : Derivation, derivation.tokens ≠ tokens) ∨
      (i < tokens.length ∧ ¬ Viable (tokens.take (i + 1))))

theorem FirstWrong.le {tokens : List Token} {i j : Nat} (h : FirstWrong tokens i)
    (h' : FirstWrong tokens j) : j ≤ i := by
  obtain ⟨-, -, ⟨rfl, -⟩ | ⟨-, wrong⟩⟩ := h
  · exact h'.1
  · by_contra further
    exact wrong (h'.2.1.shorten (List.take_prefix_take_left (by omega)))

theorem FirstWrong.eq {tokens : List Token} {i j : Nat} (h : FirstWrong tokens i)
    (h' : FirstWrong tokens j) : j = i :=
  Nat.le_antisymm (h.le h') (h'.le h)

/-- What an error says of the place `i`: it stands at the token there and names it, or, behind the
last token, it stands at the last token and says that the input ended. -/
def PointsAt (tokens : List Token) (i : Nat) (error : ParseError) : Prop :=
  match tokens[i]? with
  | some token => error.location = token.location ∧
      ∃ wanted, error.fault.message = wanted ++ ", found '" ++ token.value ++ "'"
  | none => (∃ last ∈ tokens.getLast?, error.location = last.location) ∧
      ∃ wanted, error.fault.message = wanted ++ ", reached end of input"

theorem Stuck.viable {passed rest : List Token} {error : ParseError}
    (h : Stuck source passed rest error) : Viable passed := by
  obtain ⟨token, admitted⟩ := h.admits
  exact (h.helps token admitted).shorten (List.prefix_append _ _)

theorem Stuck.firstWrong {passed rest : List Token} {error : ParseError}
    (h : Stuck source passed rest error) : FirstWrong (passed ++ rest) passed.length := by
  refine ⟨by simp, by simpa using h.viable, ?_⟩
  cases rest with
  | nil => exact .inl ⟨by simp, fun derivation => h.wrong [] rfl derivation⟩
  | cons token rest =>
    refine .inr ⟨by simp, ?_⟩
    -- the token is wrong in front of anything, so in front of the rest of a script too
    rintro ⟨derivation, more, split⟩
    rw [List.take_length_add_append, List.append_assoc] at split
    exact h.wrong ([token] ++ more) rfl derivation split.symm

/-- At the end of the tokens an error stands at the last of them. -/
theorem Stuck.location_of_last {passed : List Token} {error : ParseError} {last : Token}
    (h : Stuck source passed [] error) (ends : source.tokens.getLast? = some last) :
    error.location = last.location := by
  simp only [h.location_eq, List.head?_nil, Option.map_none, Option.getD_none, Source.endLocation,
    ends, Option.map_some, Option.getD_some]

theorem Stuck.pointsAt {text : String} {passed rest : List Token} {error : ParseError}
    (h : Stuck ⟨text, passed ++ rest⟩ passed rest error) (nonempty : passed ++ rest ≠ []) :
    PointsAt (passed ++ rest) passed.length error := by
  simp only [PointsAt, List.getElem?_append_right (Nat.le_refl _), Nat.sub_self]
  cases rest with
  | nil =>
    have last := List.getLast?_eq_some_getLast nonempty
    exact ⟨⟨_, last, h.location_of_last _ last⟩,
      ParseFault.message_of_not_found h.found_eq h.admits⟩
  | cons token rest => exact ⟨h.location_eq, ParseFault.message_of_found h.found_eq⟩

/-- A text with tokens but without a script has exactly one first wrong token. The error points
there, and any token that it asks for leads on. -/
theorem parse_error_points_at_first_wrong_token {text : String} {tokens : List Token}
    {error : ParseError} (lexed : lex text = .ok tokens)
    (failed : Script.parse text = .error error) :
    (∃! i, FirstWrong tokens i) ∧ ∀ i, FirstWrong tokens i →
      PointsAt tokens i error ∧ (∃ token, error.fault.Admits token) ∧
        ∀ token, error.fault.Admits token → Viable (tokens.take i ++ [token]) := by
  rw [parse_eq_of_lex_eq lexed] at failed
  obtain ⟨passed, rest, rfl, stuck⟩ := stuck_of_scriptFrom _ failed
  have wrong := stuck.firstWrong
  refine ⟨⟨passed.length, wrong, fun j other => wrong.eq other⟩, fun i here => ?_⟩
  cases wrong.eq here
  refine ⟨stuck.pointsAt ?_, stuck.admits, by simpa using stuck.helps⟩
  intro empty
  exact stuck.wrong rest rfl [] (by simp [empty])

/-- Behind a comma an expression is due, and a semicolon is none. -/
theorem dangling_comma_points_at_semicolon :
    let tokens : List Token := [⟨.keyword, "select", ⟨0, 0⟩⟩, ⟨.numeric, "1", ⟨0, 7⟩⟩,
      ⟨.symbol, ",", ⟨0, 8⟩⟩, ⟨.symbol, ";", ⟨0, 9⟩⟩]
    let error : ParseError := ⟨.token "expression" (some ";"), ⟨0, 9⟩, none,
      some ⟨"SELECT 1,;", ⟨0, 9⟩⟩⟩
    lex "SELECT 1,;" = .ok tokens ∧ Script.parse "SELECT 1,;" = .error error ∧
      (∃! i, FirstWrong tokens i) ∧ ∀ i, FirstWrong tokens i →
        PointsAt tokens i error ∧ (∃ token, error.fault.Admits token) ∧
          ∀ token, error.fault.Admits token → Viable (tokens.take i ++ [token]) := by
  intro tokens error
  have lexed : lex "SELECT 1,;" = .ok tokens := by decide +kernel
  have failed : Script.parse "SELECT 1,;" = .error error := by decide +kernel
  exact ⟨lexed, failed, parse_error_points_at_first_wrong_token lexed failed⟩

end SqlShell.Grammar
