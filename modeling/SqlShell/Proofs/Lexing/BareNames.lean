import SqlShell.Proofs.Lexing.Settled

/-!
# Names without quotes

A name is printed in quotes where `needsQuotes` says so. That is a prediction about the lexer, made
from the name alone: the name as it stands is one identifier token with that very value. It holds
exactly where no quotes are asked for, and there whatever follows the name, as long as it does not
go on with a letter, a digit, `$` or `_` (`lex_bare_name`).

No lexeme is shorter than its value, so a text that has one token with the whole text as its value
is the lexeme of that token. For an identifier this leaves a word in small letters, and one that no
keyword starts, since a keyword would have been taken first.
-/

namespace SqlShell

open Token (Piece IsLexeme needsQuotes isWordChar takeWord)

namespace Token

/-! ## Values and lexemes -/

theorem length_le_length_double (d : Char) (value : List Char) :
    value.length ≤ (double d value).length := by
  induction value with
  | nil => exact Nat.le_refl 0
  | cons c value ih =>
    have split : double d (c :: value) = (if c = d then [d, d] else [c]) ++ double d value := rfl
    rw [split, List.length_append, List.length_cons]
    split_ifs <;> simp only [List.length_cons, List.length_nil] <;> omega

theorem length_lt_length_enclose (d : Char) (value : List Char) :
    value.length < (enclose d value).length := by
  have inside := length_le_length_double d value
  simp only [enclose, List.length_append, List.length_cons, List.length_nil]
  omega

/-- The text of a token is at least as long as its value. -/
theorem IsLexeme.length_le {kind : Kind} {value text : List Char} (h : IsLexeme kind value text) :
    value.length ≤ text.length := by
  cases h with
  | keyword | plain => rw [List.length_map]
  | symbol | numeric => exact Nat.le_refl _
  | string | quoted => exact (length_lt_length_enclose _ _).le

/-- An identifier whose text is its value is a word in small letters. -/
theorem IsLexeme.isSmallWord {value text : List Char} (h : IsLexeme .identifier value text)
    (same : value = text) : IsSmallWord text := by
  cases h with
  | quoted =>
    have longer := length_lt_length_enclose '"' value
    rw [← same] at longer
    exact absurd longer (Nat.lt_irrefl _)
  | @plain first rest letter more =>
    have lower : ∀ c ∈ first :: rest, c.toLower = c :=
      List.map_inj_left.1 (same.trans (List.map_id _).symm)
    have small {c : Char} (inside : c ∈ first :: rest) (isAlpha : c.isAlpha = true) :
        isSmallLetter c = true := by
      rw [isSmallLetter_eq_isLower, ← lower c inside, Char.isLower_toLower_eq_isAlpha, isAlpha]
    refine ⟨first, rest, rfl, small List.mem_cons_self letter, fun c inside => ?_⟩
    have word := more c inside
    simp only [isWordChar, Char.isAlphanum, isPlain, Bool.or_eq_true] at word ⊢
    exact word.imp_left (·.imp_left (·.imp_left (small (List.mem_cons_of_mem _ inside))))

/-- Where an identifier is taken, no keyword starts. -/
theorem takeKeyword_eq_none_of_identifier {cs value text rest : List Char}
    (h : Piece.next? cs = some (.lexeme .identifier value text, rest)) :
    takeWord .keyword Keyword.spellings cs = none := by
  cases taken : takeWord .keyword Keyword.spellings cs with
  | none => rfl
  | some found =>
    obtain ⟨piece, behind⟩ := found
    obtain ⟨text', rfl, -⟩ := eq_of_takeWord taken
    simp [Piece.next?, taken] at h

end Token

/-! ## Texts of one token -/

theorem length_value_le {pieces : List Piece} (wellFormed : ∀ piece ∈ pieces, piece.WellFormed)
    {before : List Char} {token : Token} (inside : token ∈ tokensOf before pieces) :
    token.value.length ≤ (textOf pieces).length := by
  induction pieces generalizing before with
  | nil => cases inside
  | cons piece pieces ih =>
    rw [textOf_cons, List.length_append]
    rcases List.mem_append.1 inside with first | more
    · cases piece with
      | separator c => cases first
      | lexeme kind value text =>
        cases List.mem_singleton.1 first
        have lexeme : IsLexeme kind value text := wellFormed _ List.mem_cons_self
        rw [String.length_ofList]
        exact Nat.le_trans lexeme.length_le (Nat.le_add_right _ _)
    · have short := ih (fun other known => wellFormed other (List.mem_cons_of_mem _ known)) more
      omega

/-- A text of one token that is no longer than the value of the token is its lexeme. -/
theorem eq_lexeme_of_tokensOf {pieces : List Piece}
    (wellFormed : ∀ piece ∈ pieces, piece.WellFormed) {before : List Char} {token : Token}
    (one : tokensOf before pieces = [token])
    (short : (textOf pieces).length ≤ token.value.length) :
    ∃ text, pieces = [.lexeme token.kind token.value.toList text] := by
  cases pieces with
  | nil => cases one
  | cons piece pieces =>
    have wellFormed' : ∀ other ∈ pieces, other.WellFormed :=
      fun other known => wellFormed other (List.mem_cons_of_mem _ known)
    rw [textOf_cons, List.length_append] at short
    cases piece with
    | separator c =>
      -- the separator comes on top of the text of the token
      have inside : token ∈ tokensOf (before ++ [c]) pieces := one ▸ List.mem_singleton.2 rfl
      have fits := length_value_le wellFormed' inside
      simp only [Piece.text, List.length_singleton] at short
      omega
    | lexeme kind value text =>
      obtain ⟨rfl, -⟩ := List.cons.inj one
      have lexeme : IsLexeme kind value text := wellFormed _ List.mem_cons_self
      have fits := lexeme.length_le
      simp only [Piece.text, String.length_ofList] at short
      have nothing : (textOf pieces).length = 0 := by omega
      refine ⟨text, ?_⟩
      cases pieces with
      | nil => rw [String.toList_ofList]
      | cons other pieces =>
        rw [textOf_cons, List.length_append] at nothing
        have empty := List.length_eq_zero_iff.1 (Nat.eq_zero_of_add_eq_zero_right nothing)
        exact absurd empty (wellFormed' other List.mem_cons_self).text_ne_nil

theorem needsQuotes_eq_false_of_lex {name : String} {token : Token}
    (lexed : lex name = .ok [token]) (identifier : token.kind = .identifier)
    (same : token.value = name) : needsQuotes name.toList = false := by
  obtain ⟨pieces, whole, reads, tokens⟩ := exists_readsBack_of_lex lexed
  have short : (textOf pieces).length ≤ token.value.length := by
    rw [whole, same, String.length_toList]
  obtain ⟨text, rfl⟩ := eq_lexeme_of_tokensOf reads.wellFormed tokens.symm short
  rw [identifier, same] at reads
  obtain rfl : text = name.toList := by simpa [textOf, Piece.text] using whole
  have lexeme : IsLexeme .identifier name.toList name.toList :=
    reads.wellFormed _ List.mem_cons_self
  have first : Piece.next? name.toList =
      some (.lexeme .identifier name.toList name.toList, []) := by
    simpa [Piece.text] using reads.1
  have word := lexeme.isSmallWord rfl
  have noKeyword := Token.takeKeyword_eq_none_of_identifier first
  rw [takeWord, Option.map_eq_none_iff, Token.longestMatch_eq_none_iff, word.map_toLower]
    at noKeyword
  refine Token.needsQuotes_eq_false_iff.2 ⟨word, fun keyword isKeyword fits => ?_⟩
  rw [noKeyword keyword isKeyword fits] at isKeyword
  exact absurd isKeyword (by decide)

/-! ## Bare names -/

theorem Token.IsSmallWord.free {cs : List Char} (h : IsSmallWord cs) : '\n' ∉ cs := by
  obtain ⟨first, rest, rfl, small, plain⟩ := h
  intro inside
  rcases List.mem_cons.1 inside with rfl | inside
  · cases small
  · cases plain _ inside

/-- A bare name in front of a text that does not go on with it is the first token of the whole, and
the scan goes on behind it. -/
theorem ofText_bare_name {name : String} (bare : needsQuotes name.toList = false) {rest : String}
    (boundary : ∀ c ∈ rest.toList.head?, isWordChar c = false) :
    Scan.ofText (name ++ rest) =
      (Scan.ofChars (some { kind := .identifier, value := name }) ⟨0, name.length⟩
        rest.toList).after [{ kind := .identifier, value := name }] := by
  have word := (Token.needsQuotes_eq_false_iff.1 bare).1
  have scanned := ofChars_of_taken (Token.next?_plain bare boundary) none {}
  rw [Piece.text, Location.advance_of_free word.free, Nat.zero_add, String.length_toList,
    Piece.token?, String.ofList_toList] at scanned
  rw [Scan.ofText, String.toList_append]
  exact scanned

/-- Quotes are asked for exactly where they are needed. A name that needs none is by itself one
identifier token with that value, and no other name is. In front of any text that does not go on
with a letter, a digit, `$` or `_`, or of none, it is the first piece and the first token, and the
scan goes on right behind it. -/
theorem lex_bare_name (name : String) :
    (needsQuotes name.toList = false ↔
      ∃ token, lex name = .ok [token] ∧ token.Agrees { kind := .identifier, value := name }) ∧
    (needsQuotes name.toList = false → ∀ rest : String,
      (∀ c ∈ rest.toList.head?, isWordChar c = false) →
        let token : Token := { kind := .identifier, value := name }
        Piece.next? (name ++ rest).toList =
          some (.lexeme .identifier name.toList name.toList, rest.toList) ∧
        Scan.ofText (name ++ rest) =
          (Scan.ofChars (some token) ⟨0, name.length⟩ rest.toList).after [token]) := by
  refine ⟨⟨fun bare => ?_, ?_⟩, fun bare rest boundary => ⟨?_, ofText_bare_name bare boundary⟩⟩
  · have boundary : ∀ c ∈ "".toList.head?, isWordChar c = false := by simp
    have whole := ofText_bare_name bare boundary
    rw [String.append_empty, String.toList_empty, ofChars_of_stuck rfl] at whole
    exact ⟨_, congrArg Scan.toExcept whole, rfl, rfl⟩
  · rintro ⟨token, lexed, identifier, same⟩
    exact needsQuotes_eq_false_of_lex lexed identifier same
  · rw [String.toList_append]
    exact Token.next?_plain bare boundary

-- a keyword needs no word boundary behind it: without quotes `integer` would start with `int`
example : needsQuotes "integer".toList = true ∧ needsQuotes "pint".toList = false := by
  decide

end SqlShell
