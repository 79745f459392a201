import SqlShell.Proofs.Lexing.Settled
import SqlShell.Proofs.Printing.RoundTrip

/-!
# Tokens with spaces between them

The tokens of a text are writable: their values are ones that some text has. Conversely, any
writable tokens in any order, each written in its canonical form with a space behind it, are read
back one by one. So the writable tokens are exactly those that the lexer knows.
-/

namespace SqlShell

open Token (Piece)
open Grammar (Echoes)

/-- The canonical texts of some tokens, with a space behind each. -/
def spacedSql (tokens : List Token) : String :=
  String.join (tokens.map fun token => token.toSql ++ " ")

def spacedPieces (tokens : List Token) : List Piece :=
  tokens.flatMap fun token => [token.written, gap]

theorem textOf_spacedPieces (tokens : List Token) :
    textOf (spacedPieces tokens) = (spacedSql tokens).toList := by
  rw [spacedSql, String.toList_join]
  induction tokens with
  | nil => rfl
  | cons token tokens ih =>
    have split : spacedPieces (token :: tokens) = [token.written, gap] ++ spacedPieces tokens := rfl
    rw [split, textOf_append, ih]
    simp

/-- The space behind a token is all that it takes for the token to be read back, whatever the next
one is. -/
theorem readsBack_spacedPieces {tokens : List Token} (h : ∀ token ∈ tokens, token.IsWritable) :
    ReadsBack (spacedPieces tokens) [] := by
  induction tokens with
  | nil => trivial
  | cons token tokens ih =>
    have more := ih fun other inside => h other (List.mem_cons_of_mem token inside)
    exact readsBack_written (h token List.mem_cons_self) (stops_gap _) (readsBack_gap more)

theorem yields_spacedPieces (tokens : List Token) : Yields (spacedPieces tokens) tokens := by
  induction tokens with
  | nil => exact yields_nil
  | cons token tokens ih => exact yields_written token (yields_separator ' ' ih)

theorem lex_spacedSql {tokens : List Token} (h : ∀ token ∈ tokens, token.IsWritable) :
    ∃ read, lex (spacedSql tokens) = .ok read ∧ Echoes read tokens :=
  ⟨_, lex_eq_ok_of_readsBack (textOf_spacedPieces tokens) (readsBack_spacedPieces h),
    yields_spacedPieces tokens []⟩

theorem Token.IsWritable.of_agrees {token other : Token} (h : token.IsWritable)
    (agrees : token.Agrees other) : other.IsWritable := by
  rw [IsWritable, agrees.1, agrees.2] at h
  exact h

/-- The image of the lexer, token by token. Every token of a text is writable: a keyword or a symbol
in its one spelling, a numeral of the language, or a name or a string with any value. And a list of
tokens is read back from its own text, apart from the places, exactly when all of them are. -/
theorem lex_undoes_spacedSql :
    (∀ text tokens, lex text = .ok tokens → ∀ token ∈ tokens, token.IsWritable) ∧
      ∀ tokens : List Token,
        (∃ read, lex (spacedSql tokens) = .ok read ∧ List.Forall₂ Token.Agrees read tokens) ↔
          ∀ token ∈ tokens, token.IsWritable := by
  refine ⟨fun _ _ => isWritable_of_lex, fun tokens => ⟨?_, lex_spacedSql⟩⟩
  rintro ⟨read, lexed, echoes⟩ token inside
  have writable := isWritable_of_lex lexed
  clear lexed
  -- Each token of the list agrees with one that has been read.
  induction echoes with
  | nil => cases inside
  | cons agrees _ ih =>
    rcases List.mem_cons.1 inside with rfl | inside
    · exact (writable _ List.mem_cons_self).of_agrees agrees
    · exact ih inside fun other known => writable other (List.mem_cons_of_mem _ known)

end SqlShell
