import SqlShell.Proofs.Printing.Layout

/-!
# Pieces that what follows cannot change

Which piece is taken first may depend on what follows it, but never on what stands behind the next
semicolon: no keyword holds one, a numeral or an identifier ends before it, and where a literal ends
depends on one more character only (`next?_settled`). A separator or a symbol does not depend on
what follows at all.

So a row of pieces whose last token is a semicolon is read back in front of any text
(`ReadsBack.of_closed`): texts that end a statement can be put together, and taken apart, without a
change to their tokens.
-/

namespace SqlShell.Token

/-! ## Readers -/

/-- What is taken off a text that goes on. -/
def withMore (more : List Char) (taken : Piece × List Char) : Piece × List Char :=
  (taken.1, taken.2 ++ more)

theorem takeKeyword_append {c : Char} (boundary : c.isAlpha = false) (cs more : List Char) :
    takeWord .keyword Keyword.spellings (cs ++ c :: more) =
      (takeWord .keyword Keyword.spellings cs).map (withMore (c :: more)) := by
  rw [takeWord, takeWord, longestMatch_keyword_append cs boundary]
  cases found : longestMatch Keyword.spellings cs with
  | none => rfl
  | some word =>
    obtain ⟨-, -, fits, -⟩ := longestMatch_eq_some_iff.1 found
    have short : word.length ≤ cs.length := by simpa using fits.length_le
    simp only [Option.map_some, withMore, List.take_append_of_le_length short,
      List.drop_append_of_le_length short]

theorem takeKeyword_settled {piece : Piece} {more u : List Char}
    (taken : takeWord .keyword Keyword.spellings (piece.text ++ (more ++ ';' :: u)) =
      some (piece, more ++ ';' :: u)) (v : List Char) :
    takeWord .keyword Keyword.spellings (piece.text ++ (more ++ ';' :: v)) =
      some (piece, more ++ ';' :: v) := by
  have boundary : ';'.isAlpha = false := by decide
  rw [← List.append_assoc, takeKeyword_append boundary] at taken ⊢
  obtain ⟨⟨first, rest⟩, found, same⟩ := Option.map_eq_some_iff.1 taken
  simp only [withMore, Prod.mk.injEq, List.append_cancel_right_eq] at same
  obtain ⟨rfl, rfl⟩ := same
  rw [found]
  rfl

theorem takeKeyword_none_settled {front u : List Char}
    (untaken : takeWord .keyword Keyword.spellings (front ++ ';' :: u) = none) (v : List Char) :
    takeWord .keyword Keyword.spellings (front ++ ';' :: v) = none := by
  have boundary : ';'.isAlpha = false := by decide
  rw [takeKeyword_append boundary, Option.map_eq_none_iff] at untaken ⊢
  exact untaken

theorem head?_of_readEnclosed {d : Char} {cs value rest : List Char}
    (h : readEnclosed d cs = some (value, rest)) : rest.head? ≠ some d := by
  fun_induction readEnclosed d cs generalizing value rest with
  | case1 => cases h
  | case2 =>
    cases h
    simp
  | case3 _ ih | case5 _ _ _ ih =>
    simp only [Option.map_eq_some_iff, Prod.exists, Prod.mk.injEq] at h
    obtain ⟨_, _, read, -, rfl⟩ := h
    exact ih read
  | case4 next after other =>
    cases h
    simpa using other

theorem head?_of_readDelimited {d : Char} {cs value rest : List Char}
    (h : readDelimited d cs = some (value, rest)) : rest.head? ≠ some d := by
  cases cs with
  | nil => cases h
  | cons c cs =>
    simp only [readDelimited] at h
    split at h
    · exact head?_of_readEnclosed h
    · cases h

theorem head?_of_takeDelimited {kind : Kind} {delimiter : Char} {cs rest : List Char} {piece : Piece}
    (taken : takeDelimited kind delimiter cs = some (piece, rest)) :
    rest.head? ≠ some delimiter := by
  simp only [takeDelimited, Option.map_eq_some_iff, Prod.exists, Prod.mk.injEq] at taken
  obtain ⟨value, _, read, -, rfl⟩ := taken
  exact head?_of_readDelimited read

theorem takeDelimited_settled {kind : Kind} {delimiter : Char} {piece : Piece} {c : Char}
    {u : List Char}
    (taken : takeDelimited kind delimiter (piece.text ++ c :: u) = some (piece, c :: u))
    (v : List Char) :
    takeDelimited kind delimiter (piece.text ++ c :: v) = some (piece, c :: v) := by
  have other := head?_of_takeDelimited taken
  simp only [takeDelimited, Option.map_eq_some_iff, Prod.exists, Prod.mk.injEq] at taken
  obtain ⟨value, rest, -, rfl, rfl⟩ := taken
  exact takeDelimited_enclose kind delimiter value (by simpa using other)

theorem takeNumeral_settled {piece : Piece} {c : Char} {u : List Char}
    (taken : takeNumeral (piece.text ++ c :: u) = some (piece, c :: u)) (v : List Char) :
    takeNumeral (piece.text ++ c :: v) = some (piece, c :: v) := by
  obtain ⟨text, -, start, rfl⟩ := takeNumeral_eq_some_iff.1 taken
  exact takeNumeral_eq_some_iff.2 ⟨text, rfl, longestStart_iff.2 (longestStart_iff.1 start), rfl⟩

/-- An identifier without quotes is a word that does not go on. -/
theorem word_of_takePlainIdentifier {cs rest : List Char} {piece : Piece}
    (taken : takePlainIdentifier cs = some (piece, rest)) :
    ∃ first tail, piece = .lexeme .identifier ((first :: tail).map Char.toLower) (first :: tail) ∧
      first.isAlpha = true ∧ (∀ c ∈ tail, isWordChar c = true) ∧
      ∀ c ∈ rest.head?, isWordChar c = false := by
  cases cs with
  | nil => cases taken
  | cons first cs =>
    simp only [takePlainIdentifier] at taken
    split at taken
    · next letter =>
      cases taken
      refine ⟨first, _, rfl, letter, fun c inside => List.mem_takeWhile_imp inside,
        fun c stop => ?_⟩
      have boundary := List.head?_dropWhile_not isWordChar cs
      rwa [Option.mem_def.1 stop] at boundary
    · cases taken

theorem takePlainIdentifier_settled {piece : Piece} {c : Char} {u : List Char}
    (taken : takePlainIdentifier (piece.text ++ c :: u) = some (piece, c :: u)) (v : List Char) :
    takePlainIdentifier (piece.text ++ c :: v) = some (piece, c :: v) := by
  obtain ⟨first, tail, rfl, letter, word, boundary⟩ := word_of_takePlainIdentifier taken
  exact takePlainIdentifier_of_boundary letter word (by simpa using boundary)

/-! ## One piece -/

/-- What is taken first does not depend on what stands behind a semicolon further on. -/
theorem next?_settled {piece : Piece} {more u : List Char}
    (taken : Piece.next? (piece.text ++ (more ++ ';' :: u)) = some (piece, more ++ ';' :: u))
    (v : List Char) :
    Piece.next? (piece.text ++ (more ++ ';' :: v)) = some (piece, more ++ ';' :: v) := by
  obtain ⟨c, text, shape⟩ := List.exists_cons_of_ne_nil (append_of_next? taken).2
  have starts (rest : List Char) : piece.text ++ rest = c :: (text ++ rest) := by
    rw [shape, List.cons_append]
  -- The character that follows the piece is the same.
  obtain ⟨d, u', v', followed, followed'⟩ :
      ∃ d u' v', more ++ ';' :: u = d :: u' ∧ more ++ ';' :: v = d :: v' := by
    cases more with
    | nil => exact ⟨';', u, v, rfl, rfl⟩
    | cons d more => exact ⟨d, _, _, rfl, rfl⟩
  rw [starts, next?_cons, ← starts] at taken
  rw [starts, next?_cons, ← starts]
  by_cases letter : c.isAlpha = true
  · rw [if_pos letter] at taken ⊢
    cases word : takeWord .keyword Keyword.spellings (piece.text ++ (more ++ ';' :: u)) with
    | some found =>
      obtain rfl : found = (piece, more ++ ';' :: u) := by simpa [word] using taken
      rw [takeKeyword_settled word]
      rfl
    | none =>
      rw [word] at taken
      rw [← List.append_assoc] at word
      rw [← List.append_assoc, takeKeyword_none_settled word, List.append_assoc]
      rw [followed] at taken
      rw [followed']
      exact takePlainIdentifier_settled taken _
  rw [if_neg letter] at taken ⊢
  by_cases separates : isSeparator c = true
  · rw [if_pos separates] at taken ⊢
    obtain ⟨rfl, rest⟩ : _ ∧ _ := by simpa using taken
    obtain rfl : text = [] := by simpa [Piece.text] using shape.symm
    rfl
  rw [if_neg separates] at taken ⊢
  by_cases mark : isMark c = true
  · rw [if_pos mark] at taken ⊢
    obtain ⟨rfl, rest⟩ : _ ∧ _ := by simpa using taken
    obtain rfl : text = [] := by simpa [Piece.text] using shape.symm
    rfl
  rw [if_neg mark, followed] at taken
  rw [if_neg mark, followed']
  by_cases quote : c = '\''
  · rw [if_pos quote] at taken ⊢
    exact takeDelimited_settled taken _
  rw [if_neg quote] at taken ⊢
  by_cases quote' : c = '"'
  · rw [if_pos quote'] at taken ⊢
    exact takeDelimited_settled taken _
  rw [if_neg quote'] at taken ⊢
  exact takeNumeral_settled taken _

end SqlShell.Token

namespace SqlShell

open Token (Piece wellFormed_of_next? next?_settled)

/-! ## Rows of pieces -/

/-- A separator or a symbol: what follows it does not matter. -/
def Token.Piece.IsFixed : Piece → Prop
  | .separator _ => True
  | .lexeme kind _ _ => kind = .symbol

theorem next?_of_isFixed {piece : Piece} (wellFormed : piece.WellFormed) (fixed : piece.IsFixed)
    (rest : List Char) : Piece.next? (piece.text ++ rest) = some (piece, rest) := by
  cases piece with
  | separator c => exact Token.next?_separator wellFormed rest
  | lexeme kind value text =>
    obtain rfl : kind = .symbol := fixed
    change Token.IsLexeme .symbol value text at wellFormed
    cases wellFormed with
    | symbol spelled => exact Token.next?_symbol spelled rest

/-- A row in which a semicolon comes behind every piece that what follows could change. -/
def Closed : List Piece → Prop
  | [] => True
  | piece :: pieces => (piece.IsFixed ∨ ';' ∈ textOf pieces) ∧ Closed pieces

theorem Closed.append {front back : List Piece} (h : Closed front) (h' : Closed back) :
    Closed (front ++ back) := by
  induction front with
  | nil => exact h'
  | cons piece front ih =>
    refine ⟨h.1.imp id fun inside => ?_, ih h.2⟩
    show ';' ∈ textOf (front ++ back)
    rw [textOf_append]
    exact List.mem_append_left _ inside

theorem ReadsBack.wellFormed {pieces : List Piece} {rest : List Char} (h : ReadsBack pieces rest) :
    ∀ piece ∈ pieces, piece.WellFormed := by
  induction pieces with
  | nil => simp
  | cons piece pieces ih =>
    intro other inside
    rcases List.mem_cons.1 inside with rfl | inside
    · exact wellFormed_of_next? h.1
    · exact ih h.2 other inside

/-- Whatever follows a closed row, it is read back. -/
theorem ReadsBack.of_closed {pieces : List Piece} {rest : List Char} (h : ReadsBack pieces rest)
    (closed : Closed pieces) (rest' : List Char) : ReadsBack pieces rest' := by
  induction pieces with
  | nil => trivial
  | cons piece pieces ih =>
    refine ⟨?_, ih h.2 closed.2⟩
    rcases closed.1 with fixed | inside
    · exact next?_of_isFixed (wellFormed_of_next? h.1) fixed _
    · obtain ⟨front, back, shape⟩ := List.append_of_mem inside
      have first := h.1
      simp only [shape, List.append_assoc, List.cons_append] at first ⊢
      exact next?_settled first _

/-- A text that is scanned to its end is a row that is read back. -/
theorem exists_readsBack (previous : Option Token) (before cs : List Char) :
    (Scan.ofChars previous (place before) cs).error = none →
      ∃ pieces, textOf pieces = cs ∧ ReadsBack pieces [] ∧
        (Scan.ofChars previous (place before) cs).tokens = tokensOf before pieces := by
  generalize same : place before = location
  fun_induction Scan.ofChars previous location cs generalizing before with
  | case1 => exact fun _ => ⟨[], rfl, trivial, rfl⟩
  | case2 =>
    intro unfailed
    cases unfailed
  | case3 previous location cs piece rest taken silent ih =>
    subst same
    intro unfailed
    obtain ⟨tile, -⟩ := Token.append_of_next? taken
    obtain ⟨pieces, rfl, reads, tokens⟩ := ih _ (advance_place before piece.text).symm unfailed
    refine ⟨piece :: pieces, tile, ⟨?_, reads⟩, ?_⟩
    · rw [List.append_nil, tile, taken]
    · rw [tokens, tokensOf, silent]
      rfl
  | case4 previous location cs piece rest taken token spoken scan ih =>
    subst same
    intro unfailed
    obtain ⟨tile, -⟩ := Token.append_of_next? taken
    obtain ⟨pieces, rfl, reads, tokens⟩ := ih _ (advance_place before piece.text).symm unfailed
    refine ⟨piece :: pieces, tile, ⟨?_, reads⟩, ?_⟩
    · rw [List.append_nil, tile, taken]
    · rw [tokensOf, spoken, ← tokens]
      rfl

theorem exists_readsBack_of_lex {text : String} {tokens : List Token}
    (h : lex text = .ok tokens) :
    ∃ pieces, textOf pieces = text.toList ∧ ReadsBack pieces [] ∧ tokens = tokensOf [] pieces := by
  simp only [lex, Scan.toExcept, Scan.ofText] at h
  split at h
  · next unfailed =>
    cases h
    exact exists_readsBack none [] text.toList unfailed
  · cases h

theorem lex_eq_ok_of_readsBack {text : String} {pieces : List Piece}
    (same : textOf pieces = text.toList) (h : ReadsBack pieces []) :
    lex text = .ok (tokensOf [] pieces) := by
  have scanned := ofChars_of_readsBack h none []
  rw [same] at scanned
  exact congrArg Scan.toExcept scanned

theorem fixed_of_semicolon {location : Location} {piece : Piece} {token : Token}
    (wellFormed : piece.WellFormed) (spoken : piece.token? location = some token)
    (semicolon : token.IsSymbol .semicolon) : piece.IsFixed ∧ piece.text = [';'] := by
  cases piece with
  | separator c => cases spoken
  | lexeme kind value text =>
    cases spoken
    obtain ⟨rfl, spelled⟩ : kind = .symbol ∧ String.ofList value = ";" := semicolon
    change Token.IsLexeme .symbol value text at wellFormed
    cases wellFormed with
    | symbol => exact ⟨rfl, String.ofList_injective spelled⟩

theorem semicolon_mem_textOf {pieces : List Piece}
    (wellFormed : ∀ piece ∈ pieces, piece.WellFormed) {before : List Char} {token : Token}
    (inside : token ∈ tokensOf before pieces) (semicolon : token.IsSymbol .semicolon) :
    ';' ∈ textOf pieces := by
  induction pieces generalizing before with
  | nil => cases inside
  | cons piece pieces ih =>
    rw [textOf_cons, List.mem_append]
    rcases List.mem_append.1 inside with first | more
    · have spoken := Option.mem_toList.1 first
      left
      rw [(fixed_of_semicolon (wellFormed _ List.mem_cons_self) spoken semicolon).2]
      exact List.mem_singleton.2 rfl
    · exact .inr (ih (fun other known => wellFormed other (List.mem_cons_of_mem _ known)) more)

/-- A row whose last token, if it has any, is a semicolon is closed. -/
theorem closed_of_tokensOf {pieces : List Piece} (wellFormed : ∀ piece ∈ pieces, piece.WellFormed)
    (before : List Char)
    (last : ∀ token ∈ (tokensOf before pieces).getLast?, token.IsSymbol .semicolon) :
    Closed pieces := by
  induction pieces generalizing before with
  | nil => trivial
  | cons piece pieces ih =>
    have wellFormed' := fun other known => wellFormed other (List.mem_cons_of_mem piece known)
    rw [tokensOf, List.getLast?_append] at last
    cases final : (tokensOf (before ++ piece.text) pieces).getLast? with
    | some token =>
      -- A semicolon further on closes the piece, whatever it is.
      have semicolon : token.IsSymbol .semicolon := last token (by rw [final]; rfl)
      have inside := List.mem_of_getLast? final
      refine ⟨.inr (semicolon_mem_textOf wellFormed' inside semicolon),
        ih wellFormed' (before ++ piece.text) ?_⟩
      rw [final]
      exact fun other same => Option.mem_some_iff.1 same ▸ semicolon
    | none =>
      refine ⟨.inl ?_, ih wellFormed' (before ++ piece.text) (by simp [final])⟩
      cases spoken : piece.token? (place before) with
      | none =>
        cases piece with
        | separator c => trivial
        | lexeme => cases spoken
      | some token =>
        have semicolon : token.IsSymbol .semicolon := last token (by rw [final, spoken]; rfl)
        exact (fixed_of_semicolon (wellFormed piece List.mem_cons_self) spoken semicolon).1

/-! ## A line feed at the end -/

theorem readsBack_of_append {front back : List Piece} {rest : List Char}
    (h : ReadsBack (front ++ back) rest) : ReadsBack front (textOf back ++ rest) := by
  induction front with
  | nil => trivial
  | cons piece front ih =>
    have first := h.1
    rw [show front.append back = front ++ back from rfl, textOf_append, List.append_assoc] at first
    exact ⟨first, ih h.2⟩

theorem Closed.of_append {front back : List Piece} (closed : Closed (front ++ back)) :
    Closed back := by
  induction front with
  | nil => exact closed
  | cons piece front ih => exact ih closed.2

theorem Closed.of_append_feed {pieces : List Piece}
    (closed : Closed (pieces ++ [.separator '\n'])) : Closed pieces := by
  induction pieces with
  | nil => trivial
  | cons piece pieces ih =>
    refine ⟨closed.1.imp id fun inside => ?_, ih closed.2⟩
    change ';' ∈ textOf (pieces ++ [.separator '\n']) at inside
    rw [textOf_append] at inside
    exact (List.mem_append.1 inside).resolve_right (by simp [textOf, Piece.text])

theorem eq_separator_of_feed {piece : Piece} (wellFormed : piece.WellFormed)
    (fixed : piece.IsFixed) {text : List Char} (ends : text ++ ['\n'] = piece.text) :
    piece = .separator '\n' := by
  cases piece with
  | separator c =>
    have only : text = [] ∧ '\n' = c := by
      simpa [Piece.text, List.append_eq_singleton_iff] using ends
    rw [only.2]
  | lexeme kind value written =>
    obtain rfl : kind = .symbol := fixed
    change Token.IsLexeme .symbol value written at wellFormed
    cases wellFormed with
    | symbol spelled =>
      obtain ⟨c, mark, rfl⟩ := Token.mem_symbols_iff.1 spelled
      have only : text = [] ∧ '\n' = c := by
        simpa [Piece.text, List.append_eq_singleton_iff] using ends
      rw [← only.2] at mark
      cases mark

/-- A line feed at the end of a closed row is a piece of its own. -/
theorem Closed.exists_front {pieces : List Piece} (closed : Closed pieces)
    (wellFormed : ∀ piece ∈ pieces, piece.WellFormed) {text : List Char}
    (ends : textOf pieces = text ++ ['\n']) :
    ∃ front, pieces = front ++ [.separator '\n'] ∧ textOf front = text := by
  rcases List.eq_nil_or_concat pieces with rfl | ⟨front, last, rfl⟩
  · simp at ends
  rw [List.concat_eq_append] at closed wellFormed ends
  -- Nothing follows the last piece, so it is a separator or a symbol.
  have closedLast : Closed [last] := closed.of_append
  have fixed : last.IsFixed := closedLast.1.resolve_right (by simp)
  have lastWellFormed := wellFormed last (by simp)
  obtain ⟨body, c, shape⟩ : ∃ body c, last.text = body ++ [c] := by
    rcases List.eq_nil_or_concat last.text with empty | ⟨body, c, shape⟩
    · exact absurd empty lastWellFormed.text_ne_nil
    · exact ⟨body, c, by rw [shape, List.concat_eq_append]⟩
  have whole : textOf front ++ last.text = text ++ ['\n'] := by
    rw [← ends, textOf_append]
    simp [textOf]
  have feed : c = '\n' := by
    rw [shape, ← List.append_assoc] at whole
    simpa using (List.append_inj' whole rfl).2
  subst feed
  obtain rfl := eq_separator_of_feed lastWellFormed fixed shape.symm
  refine ⟨front, by rw [List.concat_eq_append], ?_⟩
  exact (List.append_inj' whole rfl).1

end SqlShell
