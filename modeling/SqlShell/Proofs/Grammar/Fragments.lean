import SqlShell.Proofs.Lexing.Settled
import SqlShell.Proofs.Printing.RoundTrip

/-!
# Texts that are put together

A fragment is a text that is read as a script wherever it stands: in front of any other text, and
behind any. Each text that parses is one (`Fragment.of_parse`), since its last token is a semicolon,
and so are blanks. Fragments in a row are read as their scripts in a row (`Fragment.append`).
-/

namespace SqlShell

open Token (Piece)
open Grammar (Derivation Clause)

def Fragment (text : List Char) (script : Script) : Prop :=
  ∃ (pieces : List Piece) (derivation : Derivation), textOf pieces = text ∧ ReadsBack pieces [] ∧
    Closed pieces ∧ Yields pieces derivation.tokens ∧ derivation.script = script

theorem Grammar.Derivation.tokens_append (front back : Derivation) :
    Derivation.tokens (front ++ back) = front.tokens ++ back.tokens :=
  List.flatMap_append

theorem Grammar.Derivation.script_append (front back : Derivation) :
    Derivation.script (front ++ back) = front.script ++ back.script :=
  List.map_append

theorem Grammar.Clause.last_semicolon (clause : Clause) :
    ∀ token ∈ clause.tokens.getLast?, token.IsSymbol .semicolon := by
  intro token final
  have last : token ∈ (clause.semicolon.1 :: clause.more.map (·.1)).getLast? := by
    simpa [Clause.tokens, List.getLast?_append] using final
  rcases List.mem_cons.1 (List.mem_of_getLast? last) with rfl | inside
  · exact clause.semicolon.2
  · obtain ⟨mark, -, rfl⟩ := List.mem_map.1 inside
    exact mark.2

theorem Grammar.Derivation.last_semicolon (derivation : Derivation) :
    ∀ token ∈ derivation.tokens.getLast?, token.IsSymbol .semicolon := by
  induction derivation with
  | nil => simp
  | cons clause derivation ih =>
    rw [Derivation.tokens_cons, List.getLast?_append]
    cases final : (Derivation.tokens derivation).getLast? with
    | some token =>
      rw [final] at ih
      exact ih
    | none => exact clause.last_semicolon

theorem yields_tokensOf (pieces : List Piece) (before : List Char) :
    Yields pieces (tokensOf before pieces) := by
  intro before'
  induction pieces generalizing before before' with
  | nil => exact .nil
  | cons piece pieces ih =>
    refine List.rel_append ?_ (ih _ _)
    cases piece with
    | separator c => exact .nil
    | lexeme kind value text => exact .cons ⟨rfl, rfl⟩ .nil

namespace Fragment

variable {text text' : List Char} {script script' : Script}

theorem nil : Fragment [] [] :=
  ⟨[], [], rfl, trivial, trivial, yields_nil, rfl⟩

theorem append (h : Fragment text script) (h' : Fragment text' script') :
    Fragment (text ++ text') (script ++ script') := by
  obtain ⟨front, derivation, rfl, reads, closed, yields, rfl⟩ := h
  obtain ⟨back, derivation', rfl, reads', closed', yields', rfl⟩ := h'
  refine ⟨front ++ back, derivation ++ derivation', textOf_append front back, ?_,
    closed.append closed', ?_, Derivation.script_append _ _⟩
  · exact readsBack_append (reads.of_closed closed _) reads'
  · rw [Derivation.tokens_append]
    exact yields_append yields yields'

/-- A single separator. -/
theorem separator {c : Char} (h : c = ' ' ∨ c = '\t' ∨ c = '\n') : Fragment [c] [] :=
  ⟨[.separator c], [], rfl, ⟨Token.next?_separator h _, trivial⟩, ⟨.inl trivial, trivial⟩,
    yields_separator c yields_nil, rfl⟩

theorem blank (h : ∀ c ∈ text, c = ' ' ∨ c = '\t' ∨ c = '\n') : Fragment text [] := by
  induction text with
  | nil => exact nil
  | cons c text ih =>
    exact (separator (h c List.mem_cons_self)).append
      (ih fun d inside => h d (List.mem_cons_of_mem c inside))

theorem of_parse {source : String} (h : Script.parse source = .ok script) :
    Fragment source.toList script := by
  obtain ⟨tokens, lexed, derivation, same, rfl⟩ := Grammar.parse_eq_ok_iff.1 h
  obtain ⟨pieces, whole, reads, rfl⟩ := exists_readsBack_of_lex lexed
  refine ⟨pieces, derivation, whole, reads, ?_, same ▸ yields_tokensOf pieces [], rfl⟩
  exact closed_of_tokensOf reads.wellFormed [] (same ▸ derivation.last_semicolon)

/-- The line feed at the end of a fragment may be left out. -/
theorem without_feed (h : Fragment (text ++ ['\n']) script) : Fragment text script := by
  obtain ⟨pieces, derivation, whole, reads, closed, yields, rfl⟩ := h
  obtain ⟨front, rfl, rfl⟩ := closed.exists_front reads.wellFormed whole
  have closed' := closed.of_append_feed
  refine ⟨front, derivation, rfl, (readsBack_of_append reads).of_closed closed' [], closed', ?_, rfl⟩
  intro before
  have echoes := yields before
  rwa [tokensOf_append, show tokensOf (before ++ textOf front) [.separator '\n'] = [] from rfl,
    List.append_nil] at echoes

/-- A fragment on its own parses, as a script that agrees with it. -/
theorem parse {source : String} (h : Fragment source.toList script) :
    ∃ parsed, Script.parse source = .ok parsed ∧ parsed.Agrees script := by
  obtain ⟨pieces, derivation, whole, reads, -, yields, rfl⟩ := h
  obtain ⟨moved, same, agrees⟩ := derivation.relocate (yields [])
  refine ⟨moved.script, Grammar.parse_eq_ok_iff.2 ⟨_, ?_, moved, same, rfl⟩, agrees⟩
  exact lex_eq_ok_of_readsBack whole reads

end Fragment

end SqlShell
