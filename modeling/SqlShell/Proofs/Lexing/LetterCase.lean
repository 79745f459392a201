import SqlShell.Proofs.Grammar.Shift

/-!
# Letter case outside literals

Keywords and identifiers without quotes are read in any case of their letters, and have the same
tokens in all of them. A numeral is not: its exponent marker is a small `e`, so `1E5` is a numeral
and an identifier while `1e5` is one numeral. Apart from identifiers that start with an `e` behind a
numeral, a text can be written in any case outside its literals without a change to its tokens
(`letter_case_is_irrelevant`).

Which piece is taken depends on what follows it, and that may be written in another case too. Each
reader looks for the end of its piece in its own way, so the pieces are gone through one by one
(`next?_recased`).
-/

namespace SqlShell

namespace Token

/-! ## Letters -/

variable {c d : Char} {cs cs' : List Char}

theorem isAlpha_congr (same : c.toLower = d.toLower) : c.isAlpha = d.isAlpha := by
  rw [← Char.isAlpha_toLower_eq_isAlpha, same, Char.isAlpha_toLower_eq_isAlpha]

/-- Only letters have two cases. -/
theorem eq_of_toLower_eq (same : c.toLower = d.toLower) (other : d.isAlpha = false) : c = d := by
  have plain {e : Char} (h : e.isAlpha = false) : e.toLower = e := by
    rw [Char.isAlpha, Bool.or_eq_false_iff] at h
    exact Char.toLower_eq_of_not_isUpper (by simp [h.1])
  rw [← plain other, ← same, plain ((isAlpha_congr same).trans other)]

theorem isWordChar_congr (same : c.toLower = d.toLower) : isWordChar c = isWordChar d := by
  cases letter : d.isAlpha with
  | false => rw [eq_of_toLower_eq same letter]
  | true => simp [isWordChar, Char.isAlphanum, isAlpha_congr same, letter]

/-- The first characters of two texts in the same letters. -/
theorem head?_congr {P : Char → Prop} (same : cs'.map Char.toLower = cs.map Char.toLower)
    (fold : ∀ c d, c.toLower = d.toLower → P d → P c) (h : ∀ c ∈ cs.head?, P c) :
    ∀ c ∈ cs'.head?, P c := by
  cases cs with
  | nil =>
    obtain rfl : cs' = [] := List.map_eq_nil_iff.1 same
    simp
  | cons d cs =>
    obtain ⟨c, cs', rfl, first, -⟩ := List.map_eq_cons_iff.1 same
    simpa using fold c d first (h d rfl)

theorem head?_ne_of_recased {quote : Char} (other : quote.isAlpha = false)
    (same : cs'.map Char.toLower = cs.map Char.toLower) (h : cs.head? ≠ some quote) :
    cs'.head? ≠ some quote := by
  have kept : ∀ c ∈ cs'.head?, c ≠ quote := by
    refine head?_congr same (fun c d letters ne equal => ?_) fun c inside equal => ?_
    · subst equal
      exact ne (eq_of_toLower_eq letters.symm other)
    · exact h (equal ▸ inside)
  exact fun starts => kept quote starts rfl

theorem eq_marker_of_toLower (small : c.toLower = 'e') : c = 'e' ∨ c = 'E' := by
  by_cases upper : c.isUpper = true
  · right
    have notLower : ¬ c.isLower = true := by
      intro lower
      exact Char.not_isUpper_of_isLower lower upper
    rw [← Char.toUpper_eq_of_not_isLower notLower, ← Char.toUpper_toLower_eq_toUpper, small]
    rfl
  · left
    rw [← Char.toLower_eq_of_not_isUpper upper, small]

/-- A letter other than the exponent marker ends a numeral. -/
theorem endsNumeral_of_isAlpha (letter : c.isAlpha = true) (other : c ≠ 'e') : EndsNumeral c := by
  obtain ⟨-, -, -, period, digit, -⟩ := apart_of_isAlpha letter
  have sign : ¬ (c = '-' ∨ c = '+') := by
    rintro (rfl | rfl) <;> cases letter
  intro phase
  simp [NumeralPhase.judge, period, other, digit, sign]

/-! ## Words -/

variable {kind : Kind} {value text text' rest rest' : List Char}

theorem longestMatch_congr (words : List (List Char))
    (same : cs'.map Char.toLower = cs.map Char.toLower) :
    longestMatch words cs' = longestMatch words cs :=
  (same ▸ longest_longestMatch words cs').unique (longest_longestMatch words cs)

section

variable (letters : text'.map Char.toLower = text.map Char.toLower)
  (behind : rest'.map Char.toLower = rest.map Char.toLower)

include letters behind

theorem map_toLower_recased :
    (text' ++ rest').map Char.toLower = (text ++ rest).map Char.toLower := by
  rw [List.map_append, List.map_append, letters, behind]

theorem takeWord_recased {words : List (List Char)}
    (taken : takeWord kind words (text ++ rest) = some (.lexeme kind value text, rest)) :
    takeWord kind words (text' ++ rest') = some (.lexeme kind value text', rest') := by
  obtain ⟨_, shape, -⟩ := eq_of_takeWord taken
  cases shape
  simp only [takeWord, Option.map_eq_some_iff, Prod.mk.injEq, Piece.lexeme.injEq] at taken ⊢
  obtain ⟨_, found, ⟨-, rfl, -⟩, -⟩ := taken
  have length : (text.map Char.toLower).length = text'.length := by
    rw [← letters, List.length_map]
  refine ⟨_, (longestMatch_congr words (map_toLower_recased letters behind)).trans found, ?_⟩
  rw [length, List.take_left, List.drop_left]
  exact ⟨⟨trivial, rfl, rfl⟩, rfl⟩

theorem takePlainIdentifier_recased
    (taken : takePlainIdentifier (text ++ rest) = some (.lexeme kind value text, rest)) :
    takePlainIdentifier (text' ++ rest') = some (.lexeme kind value text', rest') := by
  obtain ⟨first, tail, shape, letter, word, boundary⟩ := word_of_takePlainIdentifier taken
  cases shape
  obtain ⟨first', tail', rfl, same, more⟩ := List.map_eq_cons_iff.1 letters
  rw [← letters]
  refine takePlainIdentifier_of_boundary ((isAlpha_congr same).trans letter) (fun c inside => ?_)
    (head?_congr behind (fun c d same stop => (isWordChar_congr same).trans stop) boundary)
  obtain ⟨d, known, same⟩ := List.mem_map.1 (more ▸ List.mem_map_of_mem inside)
  exact (isWordChar_congr same.symm).trans (word d known)

/-- A word is read in any case of its letters, and whatever the case of what follows it. -/
theorem next?_word_recased (starts : ∀ c ∈ text.head?, c.isAlpha = true) (nonempty : text ≠ [])
    (taken : Piece.next? (text ++ rest) = some (.lexeme kind value text, rest)) :
    Piece.next? (text' ++ rest') = some (.lexeme kind value text', rest') := by
  obtain ⟨first, tail, rfl⟩ := List.exists_cons_of_ne_nil nonempty
  have letter := starts first rfl
  obtain ⟨first', tail', rfl, same, -⟩ := List.map_eq_cons_iff.1 letters
  have letter' := (isAlpha_congr same).trans letter
  rw [List.cons_append, next?_cons, if_pos letter, ← List.cons_append] at taken
  rw [List.cons_append, next?_cons, if_pos letter', ← List.cons_append]
  cases word : takeWord .keyword Keyword.spellings (first :: tail ++ rest) with
  | some found =>
    rw [word] at taken
    cases taken
    obtain ⟨_, shape, -⟩ := eq_of_takeWord word
    cases shape
    rw [takeWord_recased letters behind word]
    rfl
  | none =>
    have word' : takeWord .keyword Keyword.spellings (first' :: tail' ++ rest') = none := by
      rw [takeWord, Option.map_eq_none_iff] at word ⊢
      exact (longestMatch_congr _ (map_toLower_recased letters behind)).trans word
    rw [word] at taken
    rw [word']
    exact takePlainIdentifier_recased letters behind taken

end

/-! ## Numerals -/

/-- A numeral ends where it did, unless the exponent marker follows it now. -/
theorem longestStart_recased (behind : rest'.map Char.toLower = rest.map Char.toLower)
    (unmarked : rest'.head? = some 'e' → rest.head? = some 'e')
    (start : LongestStart IsNumeral text rest) : LongestStart IsNumeral text rest' := by
  cases rest with
  | nil =>
    obtain rfl : rest' = [] := List.map_eq_nil_iff.1 behind
    exact start
  | cons c rest =>
    obtain ⟨c', rest', rfl, same, -⟩ := List.map_eq_cons_iff.1 behind
    by_cases kept : c' = c
    · rw [kept]
      exact longestStart_iff.2 (longestStart_iff.1 start)
    · -- the character is a letter now and was one before, and is no marker
      have letter : c.isAlpha = true := by
        by_contra other
        exact kept (eq_of_toLower_eq same (by simpa using other))
      refine longestStart_of_ends start.member (endsNumeral_of_isAlpha ?_ ?_) rest'
      · exact (isAlpha_congr same).trans letter
      · rintro rfl
        exact kept (Option.some.inj (unmarked rfl)).symm

/-! ## Pieces -/

/-- A keyword, or an identifier without quotes. -/
def Piece.IsWord : Piece → Prop
  | .separator _ => False
  | .lexeme kind _ text => kind = .keyword ∨ kind = .identifier ∧ text.head? ≠ some '"'

/-- The same piece, in any case of its letters if it is a word. -/
inductive Piece.Recased : Piece → Piece → Prop where
  | same (piece : Piece) : Recased piece piece
  | word {kind : Kind} {value text text' : List Char}
      (isWord : (Piece.lexeme kind value text).IsWord)
      (letters : text'.map Char.toLower = text.map Char.toLower) :
      Recased (.lexeme kind value text) (.lexeme kind value text')

theorem isAlpha_of_isWord (wellFormed : IsLexeme kind value text)
    (isWord : (Piece.lexeme kind value text).IsWord) : ∀ c ∈ text.head?, c.isAlpha = true := by
  cases wellFormed with
  | keyword spelled =>
    intro c first
    have inside := List.mem_map_of_mem (f := Char.toLower) (List.mem_of_mem_head? first)
    have letter := isAlpha_of_mem_keyword _ spelled _ inside
    rwa [Char.isAlpha_toLower_eq_isAlpha] at letter
  | plain letter =>
    intro c first
    cases first
    exact letter
  | quoted value =>
    rcases isWord with other | ⟨-, unquoted⟩
    · cases other
    · exact absurd rfl unquoted
  | symbol | string | numeric =>
    rcases isWord with other | ⟨other, -⟩ <;> cases other

def Piece.IsNumeric : Piece → Prop
  | .separator _ => False
  | .lexeme kind _ _ => kind = .numeric

/-- A piece is read in any case of its letters, and whatever the case of what follows it, as long as
no exponent marker comes behind a numeral. -/
theorem next?_recased {piece piece' : Piece} (recased : piece.Recased piece')
    (behind : rest'.map Char.toLower = rest.map Char.toLower)
    (unmarked : piece.IsNumeric → rest'.head? = some 'e' → rest.head? = some 'e')
    (taken : Piece.next? (piece.text ++ rest) = some (piece, rest)) :
    Piece.next? (piece'.text ++ rest') = some (piece', rest') := by
  have wellFormed := wellFormed_of_next? taken
  have nonempty := wellFormed.text_ne_nil
  cases recased with
  | word isWord letters =>
    exact next?_word_recased letters behind (isAlpha_of_isWord wellFormed isWord) nonempty taken
  | same =>
    cases piece with
    | separator c => exact next?_separator wellFormed rest'
    | lexeme kind value text =>
      change IsLexeme kind value text at wellFormed
      cases wellFormed with
      | symbol spelled => exact next?_symbol spelled rest'
      | numeric numeral =>
        rw [Piece.text, next?_of_isNumeral numeral, takeNumeral_eq_some_iff] at taken ⊢
        obtain ⟨_, -, start, shape⟩ := taken
        cases shape
        exact ⟨_, rfl, longestStart_recased behind (unmarked rfl) start, rfl⟩
      | string value =>
        have delimited := (next?_apostrophe _).symm.trans taken
        exact next?_string value
          (head?_ne_of_recased (by decide) behind (head?_of_takeDelimited delimited))
      | quoted value =>
        have delimited := (next?_quotationMark _).symm.trans taken
        exact next?_quoted value
          (head?_ne_of_recased (by decide) behind (head?_of_takeDelimited delimited))
      | keyword spelled =>
        have starts := isAlpha_of_isWord (.keyword spelled) (.inl rfl)
        exact next?_word_recased rfl behind starts nonempty taken
      | @plain first tail letter more =>
        have starts : ∀ c ∈ (first :: tail).head?, c.isAlpha = true := by simpa using letter
        exact next?_word_recased rfl behind starts nonempty taken

end Token

open Token (Piece)

/-! ## Rows of pieces -/

/-- An identifier that an exponent marker could start, were it in small letters. -/
def Token.Piece.StartsLikeMarker : Piece → Prop
  | .separator _ => False
  | .lexeme kind _ text =>
    kind = .identifier ∧ (text.head? = some 'e' ∨ text.head? = some 'E')

/-- No identifier without quotes that starts with an `e` or an `E` stands directly behind a
numeral. -/
def Unmarked (pieces : List Piece) : Prop :=
  pieces.IsChain fun piece next => piece.IsNumeric → ¬ next.StartsLikeMarker

variable {pieces pieces' : List Piece}

theorem textOf_recased (recased : List.Forall₂ Piece.Recased pieces pieces') :
    (textOf pieces').map Char.toLower = (textOf pieces).map Char.toLower := by
  induction recased with
  | nil => rfl
  | cons first _ ih =>
    rw [textOf_cons, textOf_cons, List.map_append, List.map_append, ih]
    cases first with
    | same => rfl
    | word _ letters => rw [Piece.text, Piece.text, letters]

/-- Of the words, only identifiers start with an `e`. -/
theorem startsLikeMarker_of_recased {kind : Kind} {value text text' : List Char}
    (wellFormed : Token.IsLexeme kind value text) (isWord : (Piece.lexeme kind value text).IsWord)
    (letters : text'.map Char.toLower = text.map Char.toLower)
    (marker : text'.head? = some 'e') : (Piece.lexeme kind value text).StartsLikeMarker := by
  obtain ⟨tail', rfl⟩ := List.head?_eq_some_iff.1 marker
  obtain ⟨c, tail, rfl, small, -⟩ := List.map_eq_cons_iff.1 letters.symm
  rcases isWord with rfl | ⟨rfl, -⟩
  · have other : ∀ word ∈ Keyword.spellings, word.head? ≠ some 'e' := by decide
    cases wellFormed with
    | keyword spelled => exact absurd (congrArg some small) (other _ spelled)
  · exact ⟨rfl, by simpa using Token.eq_marker_of_toLower small⟩

theorem head?_of_recased {piece : Piece} (recased : List.Forall₂ Piece.Recased pieces pieces')
    (wellFormed : ∀ next ∈ pieces.head?, next.WellFormed) (unmarked : Unmarked (piece :: pieces))
    (numeric : piece.IsNumeric) (marker : (textOf pieces').head? = some 'e') :
    (textOf pieces).head? = some 'e' := by
  cases recased with
  | nil => exact marker
  | @cons next next' pieces pieces' first others =>
    have nonempty := (wellFormed next rfl).text_ne_nil
    have apart := (List.isChain_cons_cons.1 unmarked).1 numeric
    rw [textOf_cons, List.head?_append_of_ne_nil _ nonempty]
    cases first with
    | same => rwa [textOf_cons, List.head?_append_of_ne_nil _ nonempty] at marker
    | @word kind value text text' isWord letters =>
      have nonempty' : text' ≠ [] := by
        rintro rfl
        exact nonempty (List.map_eq_nil_iff.1 letters.symm)
      rw [textOf_cons, Piece.text, List.head?_append_of_ne_nil _ nonempty'] at marker
      exact absurd (startsLikeMarker_of_recased (wellFormed _ rfl) isWord letters marker) apart

theorem readsBack_recased (recased : List.Forall₂ Piece.Recased pieces pieces')
    (unmarked : Unmarked pieces) (reads : ReadsBack pieces []) : ReadsBack pieces' [] := by
  induction recased with
  | nil => trivial
  | @cons piece piece' pieces pieces' first others ih =>
    obtain ⟨taken, reads⟩ := reads
    refine ⟨?_, ih unmarked.tail reads⟩
    rw [List.append_nil] at taken ⊢
    have wellFormed : ∀ next ∈ pieces.head?, next.WellFormed :=
      fun next inside => reads.wellFormed next (List.mem_of_mem_head? inside)
    exact Token.next?_recased first (textOf_recased others)
      (head?_of_recased others wellFormed unmarked) taken

/-! ## Places -/

theorem Location.step_recased {c c' : Char} (same : c'.toLower = c.toLower) (location : Location) :
    location.step c' = location.step c := by
  by_cases feed : c = '\n'
  · rw [Token.eq_of_toLower_eq same (by rw [feed]; decide)]
  · have feed' : c' ≠ '\n' := by
      rintro rfl
      exact feed (Token.eq_of_toLower_eq same.symm (by decide))
    simp only [step, feed, feed', if_false]

theorem Location.advance_recased {text text' : List Char}
    (letters : text'.map Char.toLower = text.map Char.toLower) (location : Location) :
    location.advance text' = location.advance text := by
  induction text generalizing text' location with
  | nil => rw [List.map_eq_nil_iff.1 letters]
  | cons c text ih =>
    obtain ⟨c', text', rfl, same, more⟩ := List.map_eq_cons_iff.1 letters
    have first := step_recased same location
    have rest := ih more (location.step c)
    rw [advance, List.foldl_cons, first]
    exact rest

theorem tokensOf_recased (recased : List.Forall₂ Piece.Recased pieces pieces')
    {before before' : List Char} (there : place before' = place before) :
    tokensOf before' pieces' = tokensOf before pieces := by
  induction recased generalizing before before' with
  | nil => rfl
  | @cons piece piece' pieces pieces' first others ih =>
    have text : piece'.text.map Char.toLower = piece.text.map Char.toLower := by
      cases first with
      | same => rfl
      | word _ letters => exact letters
    have token : piece'.token? (place before') = piece.token? (place before) := by
      rw [there]
      cases first <;> rfl
    have behind : place (before' ++ piece'.text) = place (before ++ piece.text) := by
      rw [← advance_place, ← advance_place, there, Location.advance_recased text]
    rw [tokensOf, tokensOf, token, ih behind]

/-! ## Texts in another case -/

/-- Letter case outside literals is irrelevant. A text that has tokens is a row of pieces, and they
are its tokens. Unless an identifier that starts with an `e` stands behind a numeral, the text has
the same tokens at the same places with its keywords and its identifiers without quotes in any other
case. So it has the same script, or the same error with the line of the other text. -/
theorem letter_case_is_irrelevant {source : String} {tokens : List Token}
    (lexed : lex source = .ok tokens) :
    (∃ pieces, textOf pieces = source.toList ∧ ReadsBack pieces []) ∧
    ∀ pieces, textOf pieces = source.toList → ReadsBack pieces [] →
      tokens = tokensOf [] pieces ∧
      (Unmarked pieces → ∀ pieces' (other : String), List.Forall₂ Piece.Recased pieces pieces' →
        textOf pieces' = other.toList → lex other = .ok tokens ∧
          Script.parse other = (Script.parse source).mapError (·.shownIn other)) := by
  constructor
  · obtain ⟨pieces, whole, reads, -⟩ := exists_readsBack_of_lex lexed
    exact ⟨pieces, whole, reads⟩
  intro pieces whole reads
  obtain rfl : tokens = tokensOf [] pieces :=
    Except.ok.inj (lexed.symm.trans (lex_eq_ok_of_readsBack whole reads))
  refine ⟨rfl, fun unmarked pieces' other recased whole' => ?_⟩
  have lexed' := lex_eq_ok_of_readsBack whole' (readsBack_recased recased unmarked reads)
  rw [tokensOf_recased recased rfl] at lexed'
  exact ⟨lexed', parse_eq_of_tokens_eq lexed lexed'⟩

/-- The pieces of a selection of `1` from the table `ab`, in some case of its words. -/
def selectionRow (verb word name : String) : List Piece :=
  [.lexeme .keyword "select".toList verb.toList, .separator ' ', .lexeme .numeric ['1'] ['1'],
    .lexeme .keyword "from".toList word.toList, .separator ' ',
    .lexeme .identifier "ab".toList name.toList, .lexeme .symbol [';'] [';']]

theorem letter_case_of_a_selection :
    let tokens : List Token := [⟨.keyword, "select", ⟨0, 0⟩⟩, ⟨.numeric, "1", ⟨0, 7⟩⟩,
      ⟨.keyword, "from", ⟨0, 8⟩⟩, ⟨.identifier, "ab", ⟨0, 13⟩⟩, ⟨.symbol, ";", ⟨0, 15⟩⟩]
    lex "select 1from Ab;" = .ok tokens ∧ lex "SELECT 1FroM aB;" = .ok tokens ∧
      Script.parse "SELECT 1FroM aB;" =
        (Script.parse "select 1from Ab;").mapError (·.shownIn "SELECT 1FroM aB;") := by
  intro tokens
  have lexed : lex "select 1from Ab;" = .ok tokens := by decide +kernel
  have reads : ReadsBack (selectionRow "select" "from" "Ab") [] :=
    ⟨rfl, rfl, rfl, rfl, rfl, rfl, rfl, trivial⟩
  have unmarked : Unmarked (selectionRow "select" "from" "Ab") := by
    simp [Unmarked, selectionRow, Piece.IsNumeric, Piece.StartsLikeMarker]
  have verb : "SELECT".toList.map Char.toLower = "select".toList.map Char.toLower := by decide
  have word : "FroM".toList.map Char.toLower = "from".toList.map Char.toLower := by decide
  have name : "aB".toList.map Char.toLower = "Ab".toList.map Char.toLower := by decide
  have recased : List.Forall₂ Piece.Recased (selectionRow "select" "from" "Ab")
      (selectionRow "SELECT" "FroM" "aB") :=
    .cons (.word (.inl rfl) verb) <| .cons (.same _) <| .cons (.same _) <|
      .cons (.word (.inl rfl) word) <| .cons (.same _) <|
      .cons (.word (.inr ⟨rfl, by decide⟩) name) <| .cons (.same _) .nil
  obtain ⟨same, parsed⟩ := ((letter_case_is_irrelevant lexed).2 _ rfl reads).2 unmarked _
    "SELECT 1FroM aB;" recased rfl
  exact ⟨lexed, same, parsed⟩

-- behind a numeral an `E` starts an identifier, and an `e` is the exponent marker
example : lex "1E5" = .ok [⟨.numeric, "1", ⟨0, 0⟩⟩, ⟨.identifier, "e5", ⟨0, 1⟩⟩] ∧
    lex "1e5" = .ok [⟨.numeric, "1e5", ⟨0, 0⟩⟩] := by
  decide +kernel

end SqlShell
