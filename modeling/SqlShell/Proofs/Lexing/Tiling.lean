import SqlShell.Proofs.Lexing.Lexemes

/-!
# Pieces tile the text

A text that is scanned is a row of pieces, and each token stands where its piece does: as many lines
down as there are line feeds before it, and as many columns in as there are characters since the
last of them (`place`). Where scanning fails, this holds of the text in front of the failure.

The invariant of the scan is that the location it carries is the place behind what it has read
(`ofChars_tiles`), whether it reads one character or a whole lexeme.
-/

namespace SqlShell

open Token (Piece wellFormed_of_next?)

/-! ## Places -/

/-- The place behind some text: the number of its line feeds, and how many characters it has behind
the last of them. -/
def place (before : List Char) : Location :=
  ⟨before.count '\n', (before.reverse.takeWhile (· ≠ '\n')).length⟩

theorem place_concat (before : List Char) (c : Char) :
    place (before ++ [c]) = (place before).step c := by
  by_cases feed : c = '\n'
  · simp [place, Location.step, feed]
  · simp [place, Location.step, feed]

theorem advance_place (before more : List Char) :
    (place before).advance more = place (before ++ more) := by
  induction more generalizing before with
  | nil => simp [Location.advance]
  | cons c more ih =>
    have step : (place before).advance (c :: more) = ((place before).step c).advance more := rfl
    rw [step, ← place_concat, ih, List.append_assoc, List.singleton_append]

/-- A run of characters without a line feed stays on its line. -/
theorem Location.advance_of_free {cs : List Char} (free : '\n' ∉ cs) (location : Location) :
    location.advance cs = ⟨location.line, location.column + cs.length⟩ := by
  induction cs generalizing location with
  | nil => rfl
  | cons c cs ih =>
    rw [List.mem_cons, not_or] at free
    have step : location.step c = ⟨location.line, location.column + 1⟩ := if_neg (Ne.symm free.1)
    have rest := ih free.2 (location.step c)
    rw [step] at rest
    rw [advance, List.foldl_cons, step, ← advance, rest, List.length_cons, Nat.add_assoc,
      Nat.add_comm 1]

theorem place_of_free {before : List Char} (free : '\n' ∉ before) :
    place before = ⟨0, before.length⟩ := by
  have whole := advance_place [] before
  rw [Location.advance_of_free free, List.nil_append] at whole
  rw [← whole]
  simp [place]

theorem Location.Before.trans {a b c : Location} (h : a.Before b) (h' : b.Before c) :
    a.Before c := by
  simp only [Location.Before] at h h' ⊢
  omega

theorem Location.before_step (location : Location) (c : Char) :
    location.Before (location.step c) := by
  simp only [Location.Before, Location.step]
  split
  · exact .inl (Nat.lt_succ_self _)
  · exact .inr ⟨rfl, Nat.lt_succ_self _⟩

/-- Further on in the text is later in the order of places. -/
theorem place_before_place (before : List Char) {more : List Char} (h : more ≠ []) :
    (place before).Before (place (before ++ more)) := by
  obtain ⟨c, more, rfl⟩ := List.exists_cons_of_ne_nil h
  clear h
  induction more generalizing before c with
  | nil => exact place_concat before c ▸ Location.before_step _ c
  | cons next more ih =>
    have first := Location.before_step (place before) c
    rw [← place_concat] at first
    have rest := ih (before ++ [c]) next
    rw [List.append_assoc, List.singleton_append] at rest
    exact first.trans rest

/-! ## The tokens of a row of pieces -/

def textOf (pieces : List Piece) : List Char :=
  pieces.flatMap Piece.text

/-- The tokens of a row of pieces behind some text: one for each lexeme, at its place. -/
def tokensOf (before : List Char) : List Piece → List Token
  | [] => []
  | piece :: pieces =>
    (piece.token? (place before)).toList ++ tokensOf (before ++ piece.text) pieces

theorem place_of_mem_tokensOf {before : List Char} {pieces : List Piece} {token : Token}
    (h : token ∈ tokensOf before pieces) : ∃ more, token.location = place (before ++ more) := by
  induction pieces generalizing before with
  | nil => cases h
  | cons piece pieces ih =>
    rcases List.mem_append.1 h with h | h
    · cases piece with
      | separator c => cases h
      | lexeme kind value text =>
        cases List.mem_singleton.1 h
        exact ⟨[], by rw [List.append_nil]⟩
    · obtain ⟨more, located⟩ := ih h
      exact ⟨piece.text ++ more, by rw [located, List.append_assoc]⟩

theorem pairwise_tokensOf {pieces : List Piece} (h : ∀ piece ∈ pieces, piece.WellFormed)
    (before : List Char) :
    (tokensOf before pieces).Pairwise fun a b => a.location.Before b.location := by
  induction pieces generalizing before with
  | nil => exact .nil
  | cons piece pieces ih =>
    have rest := ih (fun p inside => h p (List.mem_cons_of_mem _ inside)) (before ++ piece.text)
    have nonempty := (h piece List.mem_cons_self).text_ne_nil
    cases piece with
    | separator c => exact rest
    | lexeme kind value text =>
      refine List.pairwise_cons.2 ⟨fun token inside => ?_, rest⟩
      obtain ⟨more, located⟩ := place_of_mem_tokensOf inside
      rw [located, List.append_assoc]
      exact place_before_place before (by simp [nonempty])

/-! ## Scanning -/

/-- No piece starts here: no keyword, no separator, no symbol, no string, no numeral and no
identifier. -/
structure NoPiece (cs : List Char) : Prop where
  keyword : Token.takeWord .keyword Keyword.spellings cs = none
  separator : Token.takeSeparator cs = none
  symbol : Token.takeWord .symbol Symbol.spellings cs = none
  string : Token.takeDelimited .string '\'' cs = none
  numeral : Token.takeNumeral cs = none
  quoted : Token.takeDelimited .identifier '"' cs = none
  plain : Token.takePlainIdentifier cs = none

theorem noPiece_of_next? {cs : List Char} (h : Piece.next? cs = none) : NoPiece cs := by
  simp only [Piece.next?, Option.orElse_eq_orElse, Option.orElse_eq_or, Option.or_eq_none_iff] at h
  obtain ⟨h₁, h₂, h₃, h₄, h₅, h₆, h₇⟩ := h
  exact ⟨h₁, h₂, h₃, h₄, h₅, h₆, h₇⟩

/-- A scan that goes on behind some tokens. -/
def Scan.after (tokens : List Token) (scan : Scan) : Scan :=
  ⟨tokens ++ scan.tokens, scan.error⟩

theorem ofChars_of_stuck {cs : List Char} (stuck : Piece.next? cs = none)
    (previous : Option Token) (location : Location) :
    Scan.ofChars previous location cs =
      ⟨[], cs.head?.map fun offending => ⟨location, previous, offending⟩⟩ := by
  rw [Scan.ofChars]
  split
  · cases cs <;> rfl
  · next taken => rw [stuck] at taken; cases taken

theorem ofChars_of_taken {cs rest : List Char} {piece : Piece}
    (taken : Piece.next? cs = some (piece, rest)) (previous : Option Token)
    (location : Location) :
    Scan.ofChars previous location cs =
      (Scan.ofChars ((piece.token? location).or previous) (location.advance piece.text) rest).after
        (piece.token? location).toList := by
  rw [Scan.ofChars]
  split
  · next stuck => rw [taken] at stuck; cases stuck
  · next found =>
    rw [taken] at found
    cases found
    cases piece.token? location <;> rfl

/-- What a scan makes of a text behind `before`. -/
structure Tiled (previous : Option Token) (before cs : List Char) (scan : Scan)
    (pieces : List Piece) : Prop where
  wellFormed : ∀ piece ∈ pieces, piece.WellFormed
  tokens : scan.tokens = tokensOf before pieces
  whole : scan.error = none → cs = textOf pieces
  failure : ∀ error, scan.error = some error → ∃ rest,
    cs = textOf pieces ++ error.offending :: rest ∧
      error.location = place (before ++ textOf pieces) ∧
      error.previous = (tokensOf before pieces).getLast?.or previous ∧
      NoPiece (error.offending :: rest)

theorem Tiled.cons {previous token? : Option Token} {before rest : List Char} {piece : Piece}
    {scan : Scan} {pieces : List Piece} (wellFormed : piece.WellFormed)
    (same : piece.token? (place before) = token?)
    (h : Tiled (token?.or previous) (before ++ piece.text) rest scan pieces) :
    Tiled previous before (piece.text ++ rest) ⟨token?.toList ++ scan.tokens, scan.error⟩
      (piece :: pieces) where
  wellFormed p inside := by
    rcases List.mem_cons.1 inside with rfl | inside
    · exact wellFormed
    · exact h.wellFormed p inside
  tokens := by rw [tokensOf, same, ← h.tokens]
  whole unfailed := by rw [h.whole unfailed]; rfl
  failure error failed := by
    obtain ⟨left, rfl, location, last, stuck⟩ := h.failure error failed
    refine ⟨left, by simp [textOf], by simp [location, textOf], ?_, stuck⟩
    -- the piece's own token counts only if the pieces behind it have none
    rw [last, tokensOf, same]
    cases token? with
    | none => rfl
    | some token => cases tokensOf (before ++ piece.text) pieces <;> simp [List.getLast?_cons]

theorem ofChars_tiles (previous : Option Token) (before cs : List Char) :
    ∃ pieces, Tiled previous before cs (Scan.ofChars previous (place before) cs) pieces := by
  -- the location that is carried is the place behind what has been read
  generalize same : place before = location
  fun_induction Scan.ofChars previous location cs generalizing before with
  | case1 => exact ⟨[], by simp, rfl, fun _ => rfl, nofun⟩
  | case2 previous location offending rest none_ =>
    refine ⟨[], by simp, rfl, nofun, fun error failed => ?_⟩
    cases failed
    exact ⟨rest, rfl, by simp [textOf, same], rfl, noPiece_of_next? none_⟩
  | case3 previous location cs piece rest taken silent ih =>
    subst same
    obtain ⟨tile, -⟩ := Token.append_of_next? taken
    obtain ⟨pieces, tiled⟩ := ih (before ++ piece.text) (advance_place before piece.text).symm
    exact ⟨piece :: pieces, tile ▸ tiled.cons (wellFormed_of_next? taken) silent⟩
  | case4 previous location cs piece rest taken token spoken scan ih =>
    subst same
    obtain ⟨tile, -⟩ := Token.append_of_next? taken
    obtain ⟨pieces, tiled⟩ := ih (before ++ piece.text) (advance_place before piece.text).symm
    exact ⟨piece :: pieces, tile ▸ tiled.cons (wellFormed_of_next? taken) spoken⟩

/-- The lexer tiles its text. The text, up to the failure if there is one, is a row of separators
and lexemes; the tokens are those of the lexemes, each at its place; and the places increase. At a
failure no piece starts, and the error tells the place, the character and the token before it. -/
theorem lex_tiles_text (text : String) :
    ∃ pieces : List Piece, (∀ piece ∈ pieces, piece.WellFormed ∧ piece.text ≠ []) ∧
      (tokensOf [] pieces).Pairwise (fun a b => a.location.Before b.location) ∧
      match lex text with
      | .ok tokens => text.toList = textOf pieces ∧ tokens = tokensOf [] pieces
      | .error error => ∃ rest, text.toList = textOf pieces ++ error.offending :: rest ∧
          error.location = place (textOf pieces) ∧ NoPiece (error.offending :: rest) ∧
          error.hint =
            (match (tokensOf [] pieces).getLast? with
              | some token => " after " ++ token.value ++ ": "
              | none => " ") ++ "'" ++ String.singleton error.offending ++ "'" := by
  obtain ⟨pieces, tiled⟩ := ofChars_tiles none [] text.toList
  refine ⟨pieces, fun piece inside => ?_, pairwise_tokensOf tiled.wellFormed [], ?_⟩
  · exact ⟨tiled.wellFormed piece inside, (tiled.wellFormed piece inside).text_ne_nil⟩
  · simp only [lex, Scan.toExcept, Scan.ofText]
    cases failed : (Scan.ofChars none {} text.toList).error with
    | none => exact ⟨tiled.whole failed, tiled.tokens⟩
    | some error =>
      obtain ⟨rest, split, location, previous, stuck⟩ := tiled.failure error failed
      refine ⟨rest, split, location, stuck, ?_⟩
      rw [Option.or_none] at previous
      rw [LexError.hint, previous]
      cases (tokensOf [] pieces).getLast? <;> simp only [String.append_assoc]

end SqlShell
