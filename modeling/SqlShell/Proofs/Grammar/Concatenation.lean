import SqlShell.Proofs.Grammar.Fragments
import SqlShell.Proofs.Grammar.Shift

/-!
# Texts one behind the other

A text that parses ends its last statement with a semicolon. Whatever stands behind it is scanned
and read as on its own, only further on: the statements come behind those of the first text, and an
error is the same error at a place that is moved by the end of the first text. The one exception is
text that starts with a semicolon, which would be the start of no statement on its own but belongs
to the run of semicolons in front.
-/

namespace SqlShell

open Token (Piece)
open Grammar (Derivation Avoids)

/-! ## The start of the second text -/

/-- Behind spaces, tabs and line feeds a semicolon comes first. -/
def OpensWithSemicolon (text : List Char) : Prop :=
  text.find? (fun c => c != ' ' && c != '\t' && c != '\n') = some ';'

instance (text : List Char) : Decidable (OpensWithSemicolon text) :=
  inferInstanceAs (Decidable (_ = _))

theorem avoids_semicolon_of_not_opens {pieces : List Piece}
    (wellFormed : ∀ piece ∈ pieces, piece.WellFormed) (before : List Char)
    (h : ¬ OpensWithSemicolon (textOf pieces)) :
    Avoids (·.IsSymbol .semicolon) (tokensOf before pieces) := by
  induction pieces generalizing before with
  | nil => exact Grammar.avoids_nil _
  | cons piece pieces ih =>
    have formed := wellFormed piece List.mem_cons_self
    cases piece with
    | separator c =>
      refine ih (fun other known => wellFormed other (List.mem_cons_of_mem _ known)) _ ?_
      intro opens
      apply h
      obtain rfl | rfl | rfl : c = ' ' ∨ c = '\t' ∨ c = '\n' := formed
      all_goals exact opens
    | lexeme kind value text =>
      intro token first semicolon
      have spoken : token = ⟨kind, String.ofList value, place before⟩ := by
        simpa [tokensOf, Piece.token?] using first.symm
      have here : (Piece.lexeme kind value text).token? (place before) = some token :=
        congrArg some spoken.symm
      have spelled := (fixed_of_semicolon formed here semicolon).2
      apply h
      rw [textOf_cons, spelled]
      rfl

namespace Grammar

/-! ## Reading on -/

theorem scriptFrom_append (source : Source) (derivation : Derivation) {rest : List Token}
    (ends : Avoids (·.IsSymbol .semicolon) rest) (position : Nat) (journal : Journal) :
    ∃ journal', (source.scriptFrom ⟨position, derivation.tokens ++ rest⟩ journal).1 =
      (source.scriptFrom ⟨position + derivation.tokens.length, rest⟩ journal').1.map
        (derivation.script ++ ·) := by
  induction derivation generalizing position journal with
  | nil =>
    refine ⟨journal, ?_⟩
    rw [Derivation.tokens_nil, Derivation.script_nil, List.nil_append, List.length_nil,
      Nat.add_zero]
    cases (source.scriptFrom ⟨position, rest⟩ journal).1 <;> rfl
  | cons clause derivation ih =>
    obtain ⟨later, first⟩ :=
      scriptFrom_clause source clause ((Derivation.avoids_semicolon derivation).append ends) journal
    obtain ⟨journal', more⟩ := ih (position + clause.tokens.length) later
    refine ⟨journal', ?_⟩
    rw [Derivation.tokens_cons, List.append_assoc, first, more, List.length_append,
      ← Nat.add_assoc, Derivation.script_cons]
    cases (source.scriptFrom _ journal').1 <;> rfl

theorem endLocation_append (text text' : String) (start : Location) (front : List Token)
    {back : List Token} (nonempty : back ≠ []) :
    (Source.mk text (front ++ back.map (·.behind start))).endLocation =
      start.behind (Source.mk text' back).endLocation := by
  obtain ⟨last, final⟩ := Option.isSome_iff_exists.1 (List.getLast?_isSome.2 nonempty)
  simp [Source.endLocation, List.getLast?_append, List.getLast?_map, final]
  rfl

/-! ## Parsing on -/

theorem parse_append_of_lex {front back : String} {script : Script} {tokens : List Token}
    (parsed : Script.parse front = .ok script) (lexed : lex back = .ok tokens)
    (opens : ¬ OpensWithSemicolon back.toList) :
    Script.parse (front ++ back) =
      ((Script.parse back).map fun more =>
          script ++ more.map (·.behind (place front.toList))).mapError
        (·.behind (front ++ back) (place front.toList)) := by
  obtain ⟨_, lexedFront, derivation, rfl, rfl⟩ := parse_eq_ok_iff.1 parsed
  have whole := lex_append lexedFront derivation.last_semicolon back
  rw [lexed] at whole
  generalize place front.toList = start at whole ⊢
  have ends : Avoids (·.IsSymbol .semicolon) (tokens.map (·.behind start)) := by
    obtain ⟨pieces, shape, reads, rfl⟩ := exists_readsBack_of_lex lexed
    rw [← shape] at opens
    have own := avoids_semicolon_of_not_opens reads.wellFormed [] opens
    cases front : tokensOf [] pieces with
    | nil => exact avoids_nil _
    | cons token rest =>
      rw [front] at own
      have plain : ¬ (token.behind start).IsSymbol .semicolon := own token rfl
      exact avoids_cons.2 plain
  -- the statements in front are read first, whatever follows
  obtain ⟨journal, step⟩ := scriptFrom_append ⟨front ++ back, _⟩ derivation ends 0 {}
  rw [parse_eq_of_lex_eq whole, step, parse_eq_of_lex_eq lexed]
  by_cases nonempty : tokens = []
  · subst nonempty
    rw [List.map_nil, scriptFrom_nil, scriptFrom_nil]
    rfl
  · have last := endLocation_append (front ++ back) back start derivation.tokens nonempty
    have moved : (Source.scriptFrom ⟨front ++ back, _⟩
        ⟨0 + derivation.tokens.length, tokens.map (·.behind start)⟩ journal).1 = _ :=
      scriptFrom_behind last ⟨0, tokens⟩ {} journal
    rw [moved]
    cases (Source.scriptFrom ⟨back, tokens⟩ ⟨0, tokens⟩ {}).1 <;> rfl

/-- Behind a text that parses, any text that does not start with a semicolon parses as it does on
its own, moved by the end of the first:

* it parses if and only if it does on its own, and its statements follow those of the first text;
* the tokens of the first text stay where they are, and those of the second are moved;
* an error in its tokens is the same error, of the same cause and with the same suggestion, moved;
* where it cannot be scanned, scanning stops at the same character, moved, and parsing with it. -/
theorem parse_append {front back : String} {script : Script}
    (parsed : Script.parse front = .ok script) (opens : ¬ OpensWithSemicolon back.toList) :
    let start := place front.toList
    ((∃ whole, Script.parse (front ++ back) = .ok whole) ↔
      ∃ more, Script.parse back = .ok more) ∧
    (∀ more, Script.parse back = .ok more →
      Script.parse (front ++ back) = .ok (script ++ more.map (·.behind start))) ∧
    (∃ tokens, lex front = .ok tokens ∧ ∀ more, lex back = .ok more →
      lex (front ++ back) = .ok (tokens ++ more.map (·.behind start))) ∧
    (∀ error, Script.parse back = .error error → (∀ fault, error.fault ≠ .lex fault) →
      Script.parse (front ++ back) = .error (error.behind (front ++ back) start)) ∧
    (∀ error, lex back = .error error → ∃ error', lex (front ++ back) = .error error' ∧
      error'.location = start.behind error.location ∧ error'.offending = error.offending ∧
      Script.parse (front ++ back) = .error (.ofLex (front ++ back) error')) := by
  intro start
  obtain ⟨tokens, lexedFront, derivation, rfl, -⟩ := parse_eq_ok_iff.1 parsed
  have whole := lex_append lexedFront derivation.last_semicolon back
  cases lexed : lex back with
  | error error =>
    rw [lexed] at whole
    have failed := parse_eq_of_lex_error whole
    have failed' := parse_eq_of_lex_error lexed
    refine ⟨by simp [failed, failed'], by simp [failed'], ⟨_, lexedFront, by simp⟩, ?_, ?_⟩
    · intro error' stuck inTokens
      rw [failed'] at stuck
      cases stuck
      exact absurd rfl (inTokens error)
    · rintro _ ⟨⟩
      exact ⟨_, whole, rfl, rfl, failed⟩
  | ok more =>
    rw [lexed] at whole
    have read := parse_append_of_lex parsed lexed opens
    refine ⟨?_, ?_, ⟨_, lexedFront, ?_⟩, ?_, by simp⟩
    · rw [read]
      cases Script.parse back <;> simp [Except.map, Except.mapError]
    · intro more alone
      rw [read, alone]
      rfl
    · rintro _ ⟨⟩
      exact whole
    · intro error alone _
      rw [read, alone]
      rfl

/-- Behind ten characters the table stands where `INTO` is due. The exponent in front is a number of
its own accord, with the semicolon behind it. -/
theorem into_is_missing_behind_select :
    let front := "SELECT 1e;"
    let back := "INSERT t;"
    let script : Script := [.select [⟨.numeric, "1e", ⟨0, 7⟩⟩] none]
    let error : ParseError := ⟨.token "INTO" (some "t"), ⟨0, 7⟩, none, some ⟨back, ⟨0, 7⟩⟩⟩
    Script.parse front = .ok script ∧ ¬ OpensWithSemicolon back.toList ∧
      Script.parse back = .error error ∧ (∀ fault, error.fault ≠ .lex fault) ∧
      Script.parse (front ++ back) = .error ⟨.token "INTO" (some "t"), ⟨0, 17⟩, none,
        some ⟨front ++ back, ⟨0, 17⟩⟩⟩ := by
  intro front back script error
  have parsed : Script.parse front = .ok script := by decide +kernel
  have opens : ¬ OpensWithSemicolon back.toList := by decide +kernel
  have stuck : Script.parse back = .error error := by decide +kernel
  have inTokens : ∀ fault, error.fault ≠ .lex fault := nofun
  have further := (parse_append parsed opens).2.2.2.1 error stuck inTokens
  have shown : error.behind (front ++ back) (place front.toList) =
      ⟨.token "INTO" (some "t"), ⟨0, 17⟩, none, some ⟨front ++ back, ⟨0, 17⟩⟩⟩ := by decide +kernel
  exact ⟨parsed, opens, stuck, inTokens, further.trans (congrArg _ shown)⟩

end Grammar

end SqlShell
