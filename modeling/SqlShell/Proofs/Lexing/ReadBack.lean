import SqlShell.Proofs.Lexing.Lexemes
import SqlShell.Token.Printer

/-!
# Pieces that are read back

The first character of a text tells which reader applies (`next?_cons`), but what it takes depends on
what follows: a keyword must not go on as a longer one, a numeral or an identifier must end, a
literal must not go on with another delimiter. In front of the characters that the printer puts
behind a token (`IsStop`) each of them is read back as it was written.
-/

namespace SqlShell.Token

/-! ## Readers that do not apply -/

theorem longestMatch_eq_none_of_head {words : List (List Char)} {c : Char}
    (h : ∀ word ∈ words, word.head? ≠ some c.toLower) (cs : List Char) :
    longestMatch words (c :: cs) = none := by
  rw [longestMatch_eq_none_iff]
  rintro (_ | ⟨first, word⟩) isWord fits
  · rfl
  · rw [List.map_cons, List.cons_prefix_cons] at fits
    exact absurd (congrArg some fits.1) (h _ isWord)

theorem isAlpha_of_mem_keyword : ∀ word ∈ Keyword.spellings, ∀ c ∈ word, c.isAlpha = true := by
  simp [Keyword.spellings, Keyword.all, Keyword.spelling, Char.isAlpha, Char.isUpper, Char.isLower]

theorem takeKeyword_eq_none {c : Char} (h : c.isAlpha = false) (cs : List Char) :
    takeWord .keyword Keyword.spellings (c :: cs) = none := by
  rw [takeWord, longestMatch_eq_none_of_head, Option.map_none]
  intro word isWord starts
  have letter := isAlpha_of_mem_keyword word isWord _ (List.mem_of_mem_head? starts)
  rw [Char.isAlpha_toLower_eq_isAlpha, h] at letter
  cases letter

theorem takeSeparator_eq_none {c : Char} (h : isSeparator c = false) (cs : List Char) :
    takeSeparator (c :: cs) = none := by
  simp [takeSeparator, h]

def isMark (c : Char) : Bool :=
  c == ',' || c == '(' || c == ')' || c == ';' || c == '*'

theorem mem_symbols_iff {text : List Char} :
    text ∈ Symbol.spellings ↔ ∃ c, isMark c = true ∧ text = [c] := by
  simp [Symbol.spellings, Symbol.all, Symbol.spelling, isMark, or_and_right, exists_or]
  tauto

theorem takeSymbol_eq_none {c : Char} (h : isMark c = false) (cs : List Char) :
    takeWord .symbol Symbol.spellings (c :: cs) = none := by
  rw [takeWord, longestMatch_eq_none_of_head, Option.map_none]
  intro word isWord starts
  obtain ⟨mark, isMark', rfl⟩ := mem_symbols_iff.1 isWord
  cases Option.some.inj starts
  -- a symbol is no letter, so the character is the symbol itself
  have same : [c].map Char.toLower = [c] := map_toLower_of_symbol isWord
  rw [List.map_singleton, List.cons.injEq] at same
  rw [same.1, h] at isMark'
  cases isMark'

theorem takeDelimited_eq_none {kind : Kind} {delimiter c : Char} (h : c ≠ delimiter)
    (cs : List Char) : takeDelimited kind delimiter (c :: cs) = none := by
  simp [takeDelimited, readDelimited, h]

theorem takeNumeral_eq_none {c : Char} (h : c ≠ '.') (h' : c.isDigit = false) (cs : List Char) :
    takeNumeral (c :: cs) = none := by
  simp [takeNumeral, readNumeral, h, h']

/-! ## Which reader applies -/

theorem not_isAlpha_of_isDigit {c : Char} (h : c.isDigit = true) : c.isAlpha = false := by
  rw [Bool.eq_false_iff]
  intro letter
  simp only [Char.isAlpha, Char.isUpper, Char.isLower, Char.isDigit, Bool.or_eq_true,
    Bool.and_eq_true, decide_eq_true_eq, ge_iff_le, UInt32.le_iff_toNat_le] at h letter
  have zero : '0'.val.toNat = 48 := rfl
  have nine : '9'.val.toNat = 57 := rfl
  have upperA : 'A'.val.toNat = 65 := rfl
  have lowerA : 'a'.val.toNat = 97 := rfl
  omega

theorem apart_of_class {Class : Char → Bool} {c : Char} (h : Class c = true)
    (clear : ∀ d ∈ [' ', '\t', '\n', ',', '(', ')', ';', '*'], Class d = false) :
    isSeparator c = false ∧ isMark c = false := by
  have ne (d : Char) (inside : d ∈ [' ', '\t', '\n', ',', '(', ')', ';', '*']) : c ≠ d :=
    ne_of_apply_ne Class (by rw [h, clear d inside]; decide)
  constructor
  · simp [isSeparator, ne]
  · simp [isMark, ne]

theorem apart_of_isAlpha {c : Char} (h : c.isAlpha = true) :
    isSeparator c = false ∧ isMark c = false ∧ c ≠ '\'' ∧ c ≠ '.' ∧ c.isDigit = false ∧ c ≠ '"' := by
  obtain ⟨separates, mark⟩ := apart_of_class h (by simp [Char.isAlpha, Char.isUpper, Char.isLower])
  have ne (d : Char) (other : d.isAlpha = false) : c ≠ d :=
    ne_of_apply_ne Char.isAlpha (by rw [h, other]; decide)
  refine ⟨separates, mark, ne _ (by decide), ne _ (by decide), ?_, ne _ (by decide)⟩
  by_contra digit
  rw [not_isAlpha_of_isDigit (by simpa using digit)] at h
  cases h

theorem apart_of_isMark {c : Char} (h : isMark c = true) :
    c.isAlpha = false ∧ isSeparator c = false ∧ c.toLower = c := by
  have marks : c = ',' ∨ c = '(' ∨ c = ')' ∨ c = ';' ∨ c = '*' := by
    simpa [isMark, or_assoc] using h
  rcases marks with rfl | rfl | rfl | rfl | rfl <;> decide

theorem takeSymbol_of_isMark {c : Char} (h : isMark c = true) (rest : List Char) :
    takeWord .symbol Symbol.spellings (c :: rest) = some (.lexeme .symbol [c] [c], rest) := by
  have found : longestMatch Symbol.spellings (c :: rest) = some [c] := by
    rw [longestMatch_eq_some_iff]
    refine ⟨mem_symbols_iff.2 ⟨c, h, rfl⟩, by simp, by simp [(apart_of_isMark h).2.2], ?_⟩
    intro word isWord _
    obtain ⟨other, -, rfl⟩ := mem_symbols_iff.1 isWord
    rfl
  simp [takeWord, found]

/-- The first character tells which reader applies, except that a letter starts a keyword or else an
identifier. -/
theorem next?_cons (c : Char) (cs : List Char) :
    Piece.next? (c :: cs) =
      if c.isAlpha then
        takeWord .keyword Keyword.spellings (c :: cs) <|> takePlainIdentifier (c :: cs)
      else if isSeparator c then some (.separator c, cs)
      else if isMark c then some (.lexeme .symbol [c] [c], cs)
      else if c = '\'' then takeDelimited .string '\'' (c :: cs)
      else if c = '"' then takeDelimited .identifier '"' (c :: cs)
      else takeNumeral (c :: cs) := by
  by_cases letter : c.isAlpha = true
  · obtain ⟨separates, mark, quote, period, digit, quote'⟩ := apart_of_isAlpha letter
    simp [Piece.next?, takeSeparator_eq_none separates, takeSymbol_eq_none mark,
      takeDelimited_eq_none quote, takeNumeral_eq_none period digit, takeDelimited_eq_none quote',
      letter]
  have noLetter : c.isAlpha = false := by simpa using letter
  have noKeyword := takeKeyword_eq_none noLetter cs
  have noPlain : takePlainIdentifier (c :: cs) = none := by simp [takePlainIdentifier, noLetter]
  rw [if_neg letter]
  by_cases separates : isSeparator c = true
  · simp [Piece.next?, noKeyword, takeSeparator, separates]
  have noSeparator : takeSeparator (c :: cs) = none :=
    takeSeparator_eq_none (by simpa using separates) cs
  rw [if_neg separates]
  by_cases mark : isMark c = true
  · simp [Piece.next?, noKeyword, noSeparator, takeSymbol_of_isMark mark, mark]
  have noSymbol := takeSymbol_eq_none (by simpa using mark) cs
  rw [if_neg mark]
  by_cases quote : c = '\''
  · subst quote
    simp [Piece.next?, noKeyword, noSeparator, noSymbol, noPlain, takeNumeral_eq_none,
      takeDelimited_eq_none]
  rw [if_neg quote]
  by_cases quote' : c = '"'
  · subst quote'
    simp [Piece.next?, noKeyword, noSeparator, noSymbol, noPlain, takeNumeral_eq_none,
      takeDelimited_eq_none]
  simp [Piece.next?, noKeyword, noSeparator, noSymbol, noPlain, takeDelimited_eq_none quote,
    takeDelimited_eq_none quote', quote']

/-! ## Characters behind a token -/

/-- What the printer puts behind a token that is no symbol. -/
def IsStop (c : Char) : Prop :=
  c = ' ' ∨ c = ',' ∨ c = ')' ∨ c = ';'

theorem IsStop.not_isWordChar {c : Char} (h : IsStop c) : isWordChar c = false := by
  rcases h with rfl | rfl | rfl | rfl <;> decide

theorem IsStop.not_isAlpha {c : Char} (h : IsStop c) : c.isAlpha = false := by
  rcases h with rfl | rfl | rfl | rfl <;> decide

theorem IsStop.endsNumeral {c : Char} (h : IsStop c) : EndsNumeral c := by
  intro phase
  rcases h with rfl | rfl | rfl | rfl <;> cases phase <;> rfl

theorem IsStop.ne_quote {c : Char} (h : IsStop c) : c ≠ '\'' ∧ c ≠ '"' := by
  rcases h with rfl | rfl | rfl | rfl <;> decide

/-! ## Readers that apply -/

/-- A keyword has letters only, so none reaches over a character that is no letter. -/
theorem prefix_of_boundary {word text rest : List Char} (isWord : word ∈ Keyword.spellings)
    {c : Char} (boundary : c.isAlpha = false) (fits : word <+: text ++ c.toLower :: rest) :
    word <+: text := by
  rcases List.prefix_or_prefix_of_prefix fits (List.prefix_append text _) with short | long
  · exact short
  · obtain ⟨more, rfl⟩ := long
    rw [List.prefix_append_right_inj] at fits
    cases more with
    | nil => rw [List.append_nil]
    | cons next more =>
      -- the boundary would be one of the letters of the word
      rw [List.cons_prefix_cons] at fits
      have letter := isAlpha_of_mem_keyword _ isWord next (by simp)
      rw [fits.1, Char.isAlpha_toLower_eq_isAlpha, boundary] at letter
      cases letter

/-- Keywords that start a text do not reach over a character that is no letter. -/
theorem longestMatch_keyword_append (front : List Char) {c : Char} (boundary : c.isAlpha = false)
    (rest : List Char) :
    longestMatch Keyword.spellings (front ++ c :: rest) = longestMatch Keyword.spellings front := by
  have known := longest_longestMatch Keyword.spellings front
  apply (longest_longestMatch Keyword.spellings (front ++ c :: rest)).unique
  rw [List.map_append, List.map_cons]
  cases found : longestMatch Keyword.spellings front with
  | none =>
    rw [found] at known
    exact fun word isWord fits => known word isWord (prefix_of_boundary isWord boundary fits)
  | some best =>
    rw [found] at known
    obtain ⟨isBest, nonempty, fits, longest⟩ := known
    refine ⟨isBest, nonempty, fits.trans (List.prefix_append _ _), fun word isWord fits' => ?_⟩
    exact longest word isWord (prefix_of_boundary isWord boundary fits')

/-- A keyword is read in full in front of a character that is no letter. -/
theorem next?_keyword {text : List Char} (spelled : text.map Char.toLower ∈ Keyword.spellings)
    {c : Char} (boundary : c.isAlpha = false) (rest : List Char) :
    Piece.next? (text ++ c :: rest) =
      some (.lexeme .keyword (text.map Char.toLower) text, c :: rest) := by
  have found : longestMatch Keyword.spellings (text ++ c :: rest) =
      some (text.map Char.toLower) := by
    rw [longestMatch_keyword_append text boundary, longestMatch_eq_some_iff]
    refine ⟨spelled, ?_, List.prefix_rfl, fun word _ fits => fits.length_le⟩
    intro empty
    rw [empty] at spelled
    exact absurd spelled (by decide)
  simp [Piece.next?, takeWord, found]

theorem next?_separator {c : Char} (h : c = ' ' ∨ c = '\t' ∨ c = '\n') (rest : List Char) :
    Piece.next? (c :: rest) = some (.separator c, rest) := by
  have letter : ¬ c.isAlpha = true := by rcases h with rfl | rfl | rfl <;> decide
  have separates : isSeparator c = true := by rcases h with rfl | rfl | rfl <;> decide
  rw [next?_cons, if_neg letter, if_pos separates]

theorem next?_symbol {text : List Char} (h : text ∈ Symbol.spellings) (rest : List Char) :
    Piece.next? (text ++ rest) = some (.lexeme .symbol text text, rest) := by
  obtain ⟨c, mark, rfl⟩ := mem_symbols_iff.1 h
  obtain ⟨letter, separates, -⟩ := apart_of_isMark mark
  rw [List.singleton_append, next?_cons, letter, separates, if_pos mark]
  rfl

theorem readEnclosed_double (d : Char) (value : List Char) {rest : List Char}
    (h : rest.head? ≠ some d) :
    readEnclosed d (double d value ++ d :: rest) = some (value, rest) := by
  induction value with
  | nil =>
    cases rest with
    | nil => simp [double, readEnclosed]
    | cons next rest =>
      have other : next ≠ d := by simpa using h
      simp [double, readEnclosed, other]
  | cons c value ih =>
    have split : double d (c :: value) = (if c = d then [d, d] else [c]) ++ double d value := rfl
    rw [split]
    by_cases same : c = d
    · simp [same, readEnclosed, ih]
    · rw [if_neg same, List.singleton_append, List.cons_append, readEnclosed.eq_def]
      simp [same, ih]

theorem takeDelimited_enclose (kind : Kind) (d : Char) (value : List Char) {rest : List Char}
    (h : rest.head? ≠ some d) : takeDelimited kind d (enclose d value ++ rest) =
      some (.lexeme kind value (enclose d value), rest) := by
  have read : readDelimited d (enclose d value ++ rest) = some (value, rest) := by
    simp [enclose, readDelimited, readEnclosed_double d value h]
  rw [takeDelimited, read, Option.map_some]

theorem next?_apostrophe (cs : List Char) :
    Piece.next? ('\'' :: cs) = takeDelimited .string '\'' ('\'' :: cs) := by
  rw [next?_cons, if_neg (by decide), if_neg (by decide), if_neg (by decide), if_pos rfl]

theorem next?_quotationMark (cs : List Char) :
    Piece.next? ('"' :: cs) = takeDelimited .identifier '"' ('"' :: cs) := by
  rw [next?_cons, if_neg (by decide), if_neg (by decide), if_neg (by decide), if_neg (by decide),
    if_pos rfl]

theorem next?_string (value : List Char) {rest : List Char} (h : rest.head? ≠ some '\'') :
    Piece.next? (enclose '\'' value ++ rest) =
      some (.lexeme .string value (enclose '\'' value), rest) :=
  (next?_apostrophe _).trans (takeDelimited_enclose .string '\'' value h)

theorem next?_quoted (value : List Char) {rest : List Char} (h : rest.head? ≠ some '"') :
    Piece.next? (enclose '"' value ++ rest) =
      some (.lexeme .identifier value (enclose '"' value), rest) :=
  (next?_quotationMark _).trans (takeDelimited_enclose .identifier '"' value h)

theorem next?_of_isDigit {c : Char} (h : c.isDigit = true) (cs : List Char) :
    Piece.next? (c :: cs) = takeNumeral (c :: cs) := by
  obtain ⟨separates, mark⟩ := apart_of_class h (by simp [Char.isDigit])
  have ne (d : Char) (other : d.isDigit = false) : c ≠ d :=
    ne_of_apply_ne Char.isDigit (by rw [h, other]; decide)
  rw [next?_cons, not_isAlpha_of_isDigit h, separates, mark, if_neg (by simp), if_neg (by simp),
    if_neg (by simp), if_neg (ne _ (by decide)), if_neg (ne _ (by decide))]

theorem next?_of_isNumeral {text : List Char} (h : IsNumeral text) (rest : List Char) :
    Piece.next? (text ++ rest) = takeNumeral (text ++ rest) := by
  obtain ⟨first, more, rfl, ⟨rfl, -⟩ | ⟨digit, -⟩⟩ := isNumeral_iff.1 h
  · rw [List.cons_append, next?_cons, if_neg (by decide), if_neg (by decide), if_neg (by decide),
      if_neg (by decide), if_neg (by decide)]
  · exact next?_of_isDigit digit _

theorem takeNumeral_eq_some_iff {cs rest : List Char} {piece : Piece} :
    takeNumeral cs = some (piece, rest) ↔ ∃ text, cs = text ++ rest ∧
      LongestStart IsNumeral text rest ∧ piece = .lexeme .numeric text text := by
  simp only [takeNumeral, Option.map_eq_some_iff, Prod.exists, Prod.mk.injEq,
    readNumeral_eq_some_iff]
  constructor
  · rintro ⟨text, _, ⟨split, start⟩, rfl, rfl⟩
    exact ⟨text, split, start, rfl⟩
  · rintro ⟨text, split, start, rfl⟩
    exact ⟨text, rest, ⟨split, start⟩, rfl, rfl⟩

/-- A numeral is read in full in front of a character that ends it. -/
theorem next?_numeral {text : List Char} (h : IsNumeral text) {c : Char} (ends : EndsNumeral c)
    (rest : List Char) :
    Piece.next? (text ++ c :: rest) = some (.lexeme .numeric text text, c :: rest) := by
  rw [next?_of_isNumeral h]
  exact takeNumeral_eq_some_iff.2 ⟨text, rfl, longestStart_of_ends h ends rest, rfl⟩

theorem isSmallLetter_eq_isLower (c : Char) : isSmallLetter c = c.isLower := rfl

theorem isAlpha_of_isSmallLetter {c : Char} (h : isSmallLetter c = true) :
    c.isAlpha = true ∧ c.isUpper = false := by
  rw [isSmallLetter_eq_isLower] at h
  refine ⟨by rw [Char.isAlpha, h, Bool.or_true], ?_⟩
  simpa using Char.not_isUpper_of_isLower h

theorem toLower_of_isPlain {c : Char} (h : isPlain c = true) :
    c.toLower = c ∧ isWordChar c = true := by
  simp only [isPlain, Bool.or_eq_true, beq_iff_eq, or_assoc] at h
  rcases h with small | digit | rfl | rfl
  · obtain ⟨letter, upper⟩ := isAlpha_of_isSmallLetter small
    exact ⟨Char.toLower_eq_of_not_isUpper (by simp [upper]),
      by simp [isWordChar, Char.isAlphanum, letter]⟩
  · have letter := not_isAlpha_of_isDigit digit
    rw [Char.isAlpha, Bool.or_eq_false_iff] at letter
    exact ⟨Char.toLower_eq_of_not_isUpper (by simp [letter.1]),
      by simp [isWordChar, Char.isAlphanum, digit]⟩
  · decide
  · decide

/-- A word in the form that identifiers have without quotes: a small letter, and plain characters
behind it. -/
def IsSmallWord (cs : List Char) : Prop :=
  ∃ first rest, cs = first :: rest ∧ isSmallLetter first = true ∧ ∀ c ∈ rest, isPlain c = true

theorem IsSmallWord.map_toLower {cs : List Char} (h : IsSmallWord cs) :
    cs.map Char.toLower = cs := by
  obtain ⟨first, rest, rfl, small, plain⟩ := h
  have same : ∀ c ∈ first :: rest, c.toLower = c := by
    intro c inside
    rcases List.mem_cons.1 inside with rfl | inside
    · exact Char.toLower_eq_of_not_isUpper (by simp [(isAlpha_of_isSmallLetter small).2])
    · exact (toLower_of_isPlain (plain c inside)).1
  exact (List.map_congr_left same).trans (List.map_id _)

theorem needsQuotes_eq_false_iff {value : List Char} :
    needsQuotes value = false ↔
      IsSmallWord value ∧ ∀ word ∈ Keyword.spellings, ¬ word <+: value := by
  cases value with
  | nil => simp [needsQuotes, IsSmallWord]
  | cons first rest =>
    simp only [needsQuotes, Bool.or_eq_false_iff, Bool.not_eq_false', List.all_eq_true,
      List.any_eq_false, List.isPrefixOf_iff_prefix, IsSmallWord, List.cons.injEq]
    refine and_congr_left fun _ => ?_
    constructor
    · exact fun ⟨small, plain⟩ => ⟨first, rest, ⟨rfl, rfl⟩, small, plain⟩
    · rintro ⟨_, _, ⟨rfl, rfl⟩, small, plain⟩
      exact ⟨small, plain⟩

theorem not_isAlpha_of_not_isWordChar {c : Char} (h : isWordChar c = false) : c.isAlpha = false := by
  simp only [isWordChar, Char.isAlphanum, Bool.or_eq_false_iff] at h
  exact h.1.1.1

/-- A word is read in full where it does not go on. -/
theorem takePlainIdentifier_of_boundary {first : Char} {tail rest : List Char}
    (letter : first.isAlpha = true) (word : ∀ c ∈ tail, isWordChar c = true)
    (boundary : ∀ c ∈ rest.head?, isWordChar c = false) :
    takePlainIdentifier (first :: tail ++ rest) =
      some (.lexeme .identifier ((first :: tail).map Char.toLower) (first :: tail), rest) := by
  have stop : rest.takeWhile isWordChar = [] ∧ rest.dropWhile isWordChar = rest := by
    cases rest with
    | nil => exact ⟨rfl, rfl⟩
    | cons c rest => simp [boundary c rfl]
  rw [List.cons_append]
  simp only [takePlainIdentifier, letter, if_true, List.takeWhile_append_of_pos word,
    List.dropWhile_append_of_pos word, stop.1, stop.2, List.append_nil]

/-- An identifier that needs no quotes is read in full where it does not go on. -/
theorem next?_plain {value : List Char} (h : needsQuotes value = false) {rest : List Char}
    (boundary : ∀ c ∈ rest.head?, isWordChar c = false) :
    Piece.next? (value ++ rest) = some (.lexeme .identifier value value, rest) := by
  obtain ⟨word, noKeyword⟩ := needsQuotes_eq_false_iff.1 h
  -- without its quotes it must not start with a keyword, which needs no boundary behind it
  have noWord : takeWord .keyword Keyword.spellings (value ++ rest) = none := by
    rw [takeWord, Option.map_eq_none_iff, longestMatch_eq_none_iff, List.map_append,
      word.map_toLower]
    intro keyword isKeyword fits
    refine absurd ?_ (noKeyword keyword isKeyword)
    cases rest with
    | nil => simpa using fits
    | cons c rest =>
      exact prefix_of_boundary isKeyword (not_isAlpha_of_not_isWordChar (boundary c rfl)) fits
  have lower := word.map_toLower
  obtain ⟨first, tail, rfl, small, plain⟩ := word
  have letter := (isAlpha_of_isSmallLetter small).1
  have taken := takePlainIdentifier_of_boundary letter
    (fun c known => (toLower_of_isPlain (plain c known)).2) boundary
  rw [lower] at taken
  rw [List.cons_append] at noWord taken ⊢
  rw [next?_cons, if_pos letter, noWord, taken]
  rfl

/-! ## Tokens as they are written -/

/-- A token whose value some source text has. -/
def IsWritable (token : Token) : Prop :=
  match token.kind with
  | .keyword => token.value.toList ∈ Keyword.spellings
  | .symbol => token.value.toList ∈ Symbol.spellings
  | .numeric => IsNumeral token.value.toList
  | .identifier | .string => True

/-- The piece that the printer makes of a token. -/
def written (token : Token) : Piece :=
  .lexeme token.kind token.value.toList token.toSql.toList

theorem map_toLower_display (word : Keyword) :
    word.display.toList.map Char.toLower = word.spelling.toList := by
  cases word <;> decide

theorem next?_written {token : Token} (h : token.IsWritable) {c : Char} (stop : IsStop c)
    (rest : List Char) :
    Piece.next? (token.toSql.toList ++ c :: rest) = some (token.written, c :: rest) := by
  obtain ⟨kind, value, location⟩ := token
  cases kind with
  | keyword =>
    obtain ⟨word, -, spelled⟩ := List.mem_map.1 h
    obtain rfl : word.spelling = value := String.toList_injective spelled
    have lower := map_toLower_display word
    have isWord : word.display.toList.map Char.toLower ∈ Keyword.spellings := lower ▸ h
    have read := next?_keyword isWord stop.not_isAlpha rest
    rw [lower] at read
    simpa only [written, toSql, word.upper_spelling] using read
  | symbol => exact next?_symbol h _
  | numeric => exact next?_numeral h stop.endsNumeral rest
  | string =>
    simp only [written, toSql, String.toList_ofList]
    exact next?_string _ (by simpa using stop.ne_quote.1)
  | identifier =>
    by_cases quoted : needsQuotes value.toList = true
    · simp only [written, toSql, quoted, if_true, String.toList_ofList]
      exact next?_quoted _ (by simpa using stop.ne_quote.2)
    · simp only [written, toSql, quoted]
      exact next?_plain (by simpa using quoted) (by simpa using stop.not_isWordChar)

end SqlShell.Token
