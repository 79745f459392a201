import SqlShell.Token.Scan
import SqlShell.Proofs.Lexing.LongestWord
import SqlShell.Proofs.Lexing.LongestNumeral
import Mathlib

/-!
# How tokens are written

`IsLexeme kind value text` says that `text` is a way of writing a token of a kind and value.
Whatever a reader of pieces takes from a text is such a way, or a separator
(`wellFormed_of_next?`).
-/

namespace SqlShell.Token

/-! ## Lexemes -/

inductive IsLexeme : Kind → List Char → List Char → Prop where
  | keyword {text : List Char} (spelled : text.map Char.toLower ∈ Keyword.spellings) :
      IsLexeme .keyword (text.map Char.toLower) text
  | symbol {text : List Char} (spelled : text ∈ Symbol.spellings) : IsLexeme .symbol text text
  | string (value : List Char) : IsLexeme .string value (enclose '\'' value)
  | numeric {text : List Char} (numeral : IsNumeral text) : IsLexeme .numeric text text
  | quoted (value : List Char) : IsLexeme .identifier value (enclose '"' value)
  | plain {first : Char} {rest : List Char} (letter : first.isAlpha = true)
      (more : ∀ c ∈ rest, isWordChar c = true) :
      IsLexeme .identifier ((first :: rest).map Char.toLower) (first :: rest)

/-- What a piece may be: a separator, or a token as it may be written. -/
def Piece.WellFormed : Piece → Prop
  | .separator c => c = ' ' ∨ c = '\t' ∨ c = '\n'
  | .lexeme kind value text => IsLexeme kind value text

theorem Piece.WellFormed.text_ne_nil {piece : Piece} (h : piece.WellFormed) : piece.text ≠ [] := by
  cases piece with
  | separator c => simp [Piece.text]
  | lexeme kind value text =>
    change IsLexeme kind value text at h
    cases h with
    | keyword spelled =>
      rintro rfl
      exact absurd spelled (by decide)
    | symbol spelled =>
      rintro rfl
      exact absurd spelled (by decide)
    | string | quoted => simp [Piece.text, enclose]
    | numeric numeral =>
      obtain ⟨c, rest, rfl, -⟩ := isNumeral_iff.1 numeral
      simp [Piece.text]
    | plain => simp [Piece.text]

/-! ## What the readers take -/

/-- A reader takes pieces that are well formed. -/
def TakesWellFormed (take : List Char → Option (Piece × List Char)) : Prop :=
  ∀ ⦃cs piece rest⦄, take cs = some (piece, rest) → piece.WellFormed

theorem TakesWellFormed.orElse {take other : List Char → Option (Piece × List Char)}
    (h : TakesWellFormed take) (h' : TakesWellFormed other) :
    TakesWellFormed fun cs => take cs <|> other cs := by
  intro cs piece rest taken
  cases first : take cs with
  | none => exact h' (by simpa [first] using taken)
  | some found => exact h (first.trans (by simpa [first] using taken))

/-- A word that is taken is spelled out at the start of the text, in any case of its letters. -/
theorem eq_of_takeWord {kind : Kind} {words : List (List Char)} {cs rest : List Char}
    {piece : Piece} (h : takeWord kind words cs = some (piece, rest)) :
    ∃ text, piece = .lexeme kind (text.map Char.toLower) text ∧ text.map Char.toLower ∈ words := by
  simp only [takeWord, Option.map_eq_some_iff, Prod.mk.injEq] at h
  obtain ⟨word, found, rfl, -⟩ := h
  obtain ⟨isWord, -, fits, -⟩ := longestMatch_eq_some_iff.1 found
  -- the text of the piece is as long as the word, and in lower case it is the word
  have spelled : (cs.take word.length).map Char.toLower = word := by
    rw [List.map_take]
    exact (List.prefix_iff_eq_take.1 fits).symm
  exact ⟨_, by rw [spelled], spelled ▸ isWord⟩

/-- A symbol has no letters, so it is spelled in one way only. -/
theorem map_toLower_of_symbol {text : List Char}
    (h : text.map Char.toLower ∈ Symbol.spellings) : text.map Char.toLower = text := by
  have noLetter : ∀ word ∈ Symbol.spellings, ∀ c ∈ word, c.isAlpha = false := by
    simp [Symbol.spellings, Symbol.all, Symbol.spelling, Char.isAlpha, Char.isUpper, Char.isLower]
  have same : ∀ c ∈ text, c.toLower = c := by
    intro c inside
    have letter := noLetter _ h _ (List.mem_map_of_mem inside)
    rw [Char.isAlpha_toLower_eq_isAlpha, Char.isAlpha, Bool.or_eq_false_iff] at letter
    exact Char.toLower_eq_of_not_isUpper (by simp [letter.1])
  exact (List.map_congr_left same).trans (List.map_id text)

theorem takesWellFormed_keyword : TakesWellFormed (takeWord .keyword Keyword.spellings) := by
  intro cs piece rest taken
  obtain ⟨text, rfl, spelled⟩ := eq_of_takeWord taken
  exact .keyword spelled

theorem takesWellFormed_symbol : TakesWellFormed (takeWord .symbol Symbol.spellings) := by
  intro cs piece rest taken
  obtain ⟨text, rfl, spelled⟩ := eq_of_takeWord taken
  have plain := map_toLower_of_symbol spelled
  rw [plain] at spelled ⊢
  exact .symbol spelled

theorem takesWellFormed_separator : TakesWellFormed takeSeparator := by
  intro cs piece rest taken
  cases cs with
  | nil => cases taken
  | cons c cs =>
    simp only [takeSeparator] at taken
    split at taken
    · next separates =>
      cases taken
      change c = ' ' ∨ c = '\t' ∨ c = '\n'
      simpa [isSeparator, or_assoc] using separates
    · cases taken

theorem takesWellFormed_string : TakesWellFormed (takeDelimited .string '\'') := by
  intro cs piece rest taken
  simp only [takeDelimited, Option.map_eq_some_iff, Prod.mk.injEq] at taken
  obtain ⟨read, -, rfl, -⟩ := taken
  exact .string read.1

theorem takesWellFormed_quoted : TakesWellFormed (takeDelimited .identifier '"') := by
  intro cs piece rest taken
  simp only [takeDelimited, Option.map_eq_some_iff, Prod.mk.injEq] at taken
  obtain ⟨read, -, rfl, -⟩ := taken
  exact .quoted read.1

theorem takesWellFormed_numeral : TakesWellFormed takeNumeral := by
  intro cs piece rest taken
  simp only [takeNumeral, Option.map_eq_some_iff, Prod.mk.injEq] at taken
  obtain ⟨read, found, rfl, -⟩ := taken
  exact .numeric (readNumeral_eq_some_iff.1 found).2.member

theorem takesWellFormed_plain : TakesWellFormed takePlainIdentifier := by
  intro cs piece rest taken
  cases cs with
  | nil => cases taken
  | cons c cs =>
    simp only [takePlainIdentifier] at taken
    split at taken
    · next letter =>
      cases taken
      exact .plain letter fun c inside => List.mem_takeWhile_imp inside
    · cases taken

/-- Every piece is a separator or a token as it may be written. -/
theorem wellFormed_of_next? {cs rest : List Char} {piece : Piece}
    (h : Piece.next? cs = some (piece, rest)) : piece.WellFormed :=
  (takesWellFormed_keyword.orElse <| takesWellFormed_separator.orElse <|
    takesWellFormed_symbol.orElse <| takesWellFormed_string.orElse <|
    takesWellFormed_numeral.orElse <| takesWellFormed_quoted.orElse takesWellFormed_plain) h

end SqlShell.Token
