import SqlShell.Proofs.Lexing.Shift

/-!
# White space between texts

Readers look ahead in ways of their own, but none looks past a space, a tab or a line feed: no
keyword and no identifier has one in it, a numeral ends there, and a closing quote is the last one.
So the piece that ends a text is still taken when the text goes on with a separator
(`next?_append_separator`), and two texts with white space between them have the tokens of the first
and then those of the second, moved (`lex_separated`).

The separator is needed: without it `int` and `o` would be one keyword, and `1e+` and `5` one
numeral.
-/

namespace SqlShell.Token

theorem isSeparator_iff {c : Char} : isSeparator c = true ↔ c = ' ' ∨ c = '\t' ∨ c = '\n' := by
  simp [isSeparator, or_assoc]

/-- A separator belongs to no token that is not quoted. -/
theorem apart_of_isSeparator {c : Char} (h : isSeparator c = true) :
    c.isAlpha = false ∧ isWordChar c = false ∧ EndsNumeral c ∧ c ≠ '\'' ∧ c ≠ '"' := by
  rcases isSeparator_iff.1 h with rfl | rfl | rfl
  all_goals exact ⟨rfl, rfl, fun phase => by cases phase <;> rfl, by decide, by decide⟩

/-! ## Readers at the end of a text -/

theorem takePlainIdentifier_append {c : Char} (other : isWordChar c = false) (d : Char)
    (cs more : List Char) :
    takePlainIdentifier (d :: cs ++ c :: more) =
      (takePlainIdentifier (d :: cs)).map (withMore (c :: more)) := by
  have word : (cs ++ c :: more).takeWhile isWordChar = cs.takeWhile isWordChar := by
    rw [List.takeWhile_append]
    split
    · next all =>
      rw [List.IsPrefix.eq_of_length (List.takeWhile_prefix _) all]
      simp [other]
    · rfl
  have rest : (cs ++ c :: more).dropWhile isWordChar = cs.dropWhile isWordChar ++ c :: more := by
    rw [List.dropWhile_append]
    split
    · next all => simp [other, List.isEmpty_iff.1 all]
    · rfl
  simp only [List.cons_append, takePlainIdentifier, word, rest]
  split <;> rfl

theorem takeNumeral_append {c : Char} (ends : EndsNumeral c) {cs : List Char}
    {taken : Piece × List Char} (h : takeNumeral cs = some taken) (more : List Char) :
    takeNumeral (cs ++ c :: more) = some (withMore (c :: more) taken) := by
  obtain ⟨piece, rest⟩ := taken
  obtain ⟨text, rfl, start, rfl⟩ := takeNumeral_eq_some_iff.1 h
  refine takeNumeral_eq_some_iff.2 ⟨text, List.append_assoc _ _ _, ?_, rfl⟩
  -- the character matters only if the numeral was all there was
  cases rest with
  | nil => exact longestStart_of_ends start.member ends more
  | cons d rest => exact longestStart_iff.2 (longestStart_iff.1 start)

theorem takeDelimited_append {kind : Kind} {delimiter c : Char} (other : c ≠ delimiter)
    {cs : List Char} {taken : Piece × List Char} (h : takeDelimited kind delimiter cs = some taken)
    (more : List Char) :
    takeDelimited kind delimiter (cs ++ c :: more) = some (withMore (c :: more) taken) := by
  obtain ⟨piece, rest⟩ := taken
  have closed : (rest ++ c :: more).head? ≠ some delimiter := by
    cases rest with
    | nil => simpa using other
    | cons next rest => simpa using head?_of_takeDelimited h
  simp only [takeDelimited, Option.map_eq_some_iff, Prod.exists, Prod.mk.injEq] at h
  obtain ⟨value, _, read, rfl, rfl⟩ := h
  -- the text is the written form of the value, with no further delimiter behind it
  rw [← append_of_readDelimited read, List.append_assoc]
  exact takeDelimited_enclose kind delimiter value closed

/-- What is taken off a text is taken off it when it goes on with a separator. -/
theorem next?_append_separator {c : Char} (h : isSeparator c = true) {cs : List Char}
    {taken : Piece × List Char} (found : Piece.next? cs = some taken) (more : List Char) :
    Piece.next? (cs ++ c :: more) = some (withMore (c :: more) taken) := by
  obtain ⟨boundary, outside, ends, quote, quote'⟩ := apart_of_isSeparator h
  cases cs with
  | nil => cases found
  | cons d cs =>
    rw [List.cons_append, next?_cons, ← List.cons_append]
    rw [next?_cons] at found
    by_cases letter : d.isAlpha = true
    · rw [if_pos letter] at found ⊢
      rw [takeKeyword_append boundary, takePlainIdentifier_append outside]
      cases word : takeWord .keyword Keyword.spellings (d :: cs) <;> simp_all
    rw [if_neg letter] at found ⊢
    by_cases separates : isSeparator d = true
    · rw [if_pos separates] at found ⊢
      cases found
      rfl
    rw [if_neg separates] at found ⊢
    by_cases mark : isMark d = true
    · rw [if_pos mark] at found ⊢
      cases found
      rfl
    rw [if_neg mark] at found ⊢
    by_cases isString : d = '\''
    · rw [if_pos isString] at found ⊢
      exact takeDelimited_append quote found more
    rw [if_neg isString] at found ⊢
    by_cases isName : d = '"'
    · rw [if_pos isName] at found ⊢
      exact takeDelimited_append quote' found more
    rw [if_neg isName] at found ⊢
    exact takeNumeral_append ends found more

end SqlShell.Token

namespace SqlShell

open Token (Piece isSeparator)

/-! ## Rows at the end of a text -/

/-- A row that ends a text is read back in front of a separator. -/
theorem ReadsBack.before_separator {pieces : List Piece} (h : ReadsBack pieces []) {c : Char}
    (separates : isSeparator c = true) (more : List Char) : ReadsBack pieces (c :: more) := by
  induction pieces with
  | nil => trivial
  | cons piece pieces ih =>
    obtain ⟨first, rest⟩ := h
    rw [List.append_nil] at first
    refine ⟨?_, ih rest⟩
    rw [← List.append_assoc]
    exact Token.next?_append_separator separates first more

/-- White space, and some of it: spaces, tabs and line feeds. -/
def IsGap (gap : String) : Prop :=
  gap ≠ "" ∧ ∀ c ∈ gap.toList, c = ' ' ∨ c = '\t' ∨ c = '\n'

/-- The pieces of white space. -/
def blankPieces (blank : List Char) : List Piece :=
  blank.map Piece.separator

@[simp] theorem textOf_blankPieces (blank : List Char) : textOf (blankPieces blank) = blank := by
  induction blank with
  | nil => rfl
  | cons c blank ih => rw [blankPieces, List.map_cons, textOf_cons, ← blankPieces, ih]; rfl

@[simp] theorem tokensOf_blankPieces (before blank : List Char) :
    tokensOf before (blankPieces blank) = [] := by
  induction blank generalizing before with
  | nil => rfl
  | cons c blank ih => exact ih _

theorem readsBack_blankPieces {blank : List Char}
    (h : ∀ c ∈ blank, c = ' ' ∨ c = '\t' ∨ c = '\n') (rest : List Char) :
    ReadsBack (blankPieces blank) rest := by
  induction blank with
  | nil => trivial
  | cons c blank ih =>
    exact ⟨Token.next?_separator (h c List.mem_cons_self) _,
      ih fun d inside => h d (List.mem_cons_of_mem c inside)⟩

/-- A text that is scanned to its end, and white space behind it: the row is read back in front of
any text, and has the tokens of the first text. -/
theorem exists_readsBack_gap {front gap : String} {tokens : List Token}
    (lexed : lex front = .ok tokens) (isGap : IsGap gap) (back : List Char) :
    ∃ pieces, textOf pieces = (front ++ gap).toList ∧ ReadsBack pieces back ∧
      tokensOf [] pieces = tokens := by
  obtain ⟨pieces, whole, reads, rfl⟩ := exists_readsBack_of_lex lexed
  obtain ⟨nonempty, blank⟩ := isGap
  refine ⟨pieces ++ blankPieces gap.toList, ?_, ?_, ?_⟩
  · rw [textOf_append, textOf_blankPieces, whole, String.toList_append]
  · refine readsBack_append ?_ (readsBack_blankPieces blank back)
    rw [textOf_blankPieces]
    obtain ⟨c, rest, shape⟩ := List.exists_cons_of_ne_nil (mt String.toList_eq_nil_iff.1 nonempty)
    rw [shape] at blank ⊢
    exact reads.before_separator (Token.isSeparator_iff.2 (blank c List.mem_cons_self)) _
  · rw [tokensOf_append, tokensOf_blankPieces, List.append_nil]

/-! ## Two texts -/

/-- Two texts with white space between them, each of which has tokens, have the tokens of the first,
where they are, and then those of the second, moved behind the white space. Which white space it is
makes no difference to their kinds and values. -/
theorem lex_separated {front back : String} {tokens more : List Token}
    (lexed : lex front = .ok tokens) (lexed' : lex back = .ok more) :
    (∀ gap, IsGap gap → lex (front ++ gap ++ back) =
      .ok (tokens ++ more.map (·.behind (place (front ++ gap).toList)))) ∧
    ∀ gap other, IsGap gap → IsGap other →
      (lex (front ++ gap ++ back)).map (·.map (·.unplaced)) =
        (lex (front ++ other ++ back)).map (·.map (·.unplaced)) := by
  have whole : ∀ gap, IsGap gap → lex (front ++ gap ++ back) =
      .ok (tokens ++ more.map (·.behind (place (front ++ gap).toList))) := by
    intro gap isGap
    obtain ⟨pieces, shape, reads, rfl⟩ := exists_readsBack_gap lexed isGap back.toList
    rw [lex_append_of_readsBack shape reads, lexed']
    rfl
  refine ⟨whole, fun gap other isGap isGap' => ?_⟩
  -- moving a token changes its place only
  have moved (start : Location) : (Token.unplaced ∘ Token.behind start) = Token.unplaced := rfl
  simp only [whole gap isGap, whole other isGap', Except.map, List.map_append, List.map_map, moved]

/-- An exponent without digits does not take those that stand behind a line feed. -/
theorem lex_separated_by_line_feeds :
    let front := "INT 1e+"
    let back := "5\n'it''s'"
    let tokens : List Token := [⟨.keyword, "int", ⟨0, 0⟩⟩, ⟨.numeric, "1e+", ⟨0, 4⟩⟩]
    let more : List Token := [⟨.numeric, "5", ⟨0, 0⟩⟩, ⟨.string, "it's", ⟨1, 0⟩⟩]
    lex front = .ok tokens ∧ lex back = .ok more ∧ IsGap "\n \t" ∧
      lex (front ++ "\n \t" ++ back) =
        .ok (tokens ++ [⟨.numeric, "5", ⟨1, 2⟩⟩, ⟨.string, "it's", ⟨2, 0⟩⟩]) := by
  intro front back tokens more
  have lexed : lex front = .ok tokens := by decide +kernel
  have lexed' : lex back = .ok more := by decide +kernel
  have isGap : IsGap "\n \t" := ⟨by decide, by simp⟩
  have whole := (lex_separated lexed lexed').1 "\n \t" isGap
  have moved : more.map (·.behind (place (front ++ "\n \t").toList)) =
      [⟨.numeric, "5", ⟨1, 2⟩⟩, ⟨.string, "it's", ⟨2, 0⟩⟩] := by decide +kernel
  exact ⟨lexed, lexed', isGap, by rw [whole, moved]⟩

end SqlShell
