import SqlShell.Proofs.Grammar.CorrectPrefix
import SqlShell.Proofs.Lexing.Shift
import SqlShell.Proofs.Text.Lines

/-!
# The caret stands under the offending character

An error tells a place, and shows the line of the place with a caret under the column. The places
come from the lexer, which counts line feeds and the characters behind the last of them. The line is
looked up in a list of lines, which are cut by a rule of their own: they lose a carriage return in
front of the line feed, and a text that ends with a line feed has no further line behind it.

Where a character stands that is no line feed, the two agree (`CutInto.hasLine`), and an error
always stands at such a character: at the one that cannot be scanned, or at the first of a token.
-/

namespace SqlShell

open Token (Piece)

/-! ## Lines and places -/

/-- The line with a given number: what stands between the line feeds in front of it and the next, or
the end, less a carriage return that belongs to the line feed. Behind the last line feed nothing is
no line. -/
def LineAt (text : List Char) (number : Nat) (line : List Char) : Prop :=
  ∃ front ending back, text = front ++ line ++ ending ++ back ∧ '\n' ∉ line ∧
    (front = [] ∨ ∃ earlier, front = earlier ++ ['\n']) ∧ front.count '\n' = number ∧
    (ending = ['\r', '\n'] ∨ (ending = ['\n'] ∧ line.getLast? ≠ some '\r') ∨
      (ending = [] ∧ back = [] ∧ line ≠ []))

theorem LineAt.behind {text line front ending : List Char} {number : Nat}
    (h : LineAt text number line) (free : '\n' ∉ front) (feed : ending = [] ∨ ending = ['\r']) :
    LineAt (front ++ ending ++ '\n' :: text) (number + 1) line := by
  obtain ⟨before, after, back, rfl, stops, starts, rfl, ends⟩ := h
  refine ⟨front ++ ending ++ '\n' :: before, after, back, by simp, stops, .inr ?_, ?_, ends⟩
  · rcases starts with rfl | ⟨earlier, rfl⟩
    · exact ⟨front ++ ending, rfl⟩
    · exact ⟨front ++ ending ++ '\n' :: earlier, by simp⟩
  · have none_ : front.count '\n' = 0 := List.count_eq_zero.2 free
    rcases feed with rfl | rfl <;> simp [List.count_append, none_]

theorem place_behind_feed {line : List Char} (free : '\n' ∉ line) (before : List Char) :
    place (line ++ '\n' :: before) = ⟨(place before).line + 1, (place before).column⟩ := by
  have feed : place (line ++ ['\n']) = ⟨1, 0⟩ := by
    rw [place_concat, place_of_free free]
    rfl
  have split : line ++ '\n' :: before = line ++ ['\n'] ++ before := by simp
  rw [split, place_append, feed]
  simp [Location.behind, Nat.add_comm]

section

variable {before after : List Char} {c : Char}

/-- Where a character stands in its line: at the column of its place, or behind the line as a
carriage return that belongs to the line feed. -/
def StandsIn (shown before : List Char) (c : Char) (after : List Char) : Prop :=
  shown[(place before).column]? = some c ∨
    c = '\r' ∧ after.head? = some '\n' ∧ shown.length = (place before).column

/-- Among the lines of a text there is that of the place behind `before`, where `c` stands. -/
def HasLine (text : List Char) (lines : List (List Char)) (before : List Char) (c : Char)
    (after : List Char) : Prop :=
  ∃ shown, lines[(place before).line]? = some shown ∧ LineAt text (place before).line shown ∧
    StandsIn shown before c after

/-- A character of a text stands behind the first line feed, or it stands in the first line. -/
theorem split_at_feed {line ending rest : List Char} (free : '\n' ∉ line)
    (feed : ending = [] ∨ ending = ['\r']) (other : c ≠ '\n')
    (split : line ++ ending ++ '\n' :: rest = before ++ c :: after) :
    (∃ more, before = line ++ ending ++ '\n' :: more ∧ rest = more ++ c :: after) ∨
      (place before).line = 0 ∧ StandsIn line before c after := by
  rcases List.append_eq_append_iff.1 split with ⟨more, rfl, tail⟩ | ⟨more, front, tail⟩
  · cases more with
    | nil => exact absurd (List.cons.inj tail).1.symm other
    | cons first more =>
      obtain ⟨rfl, rfl⟩ := List.cons.inj tail
      exact .inl ⟨more, rfl, rfl⟩
  · cases more with
    | nil => exact absurd (List.cons.inj tail).1 other
    | cons first more =>
      obtain ⟨rfl, rfl⟩ := List.cons.inj tail
      have unfed : '\n' ∉ before := fun inside => by
        have : '\n' ∈ line ++ ending := by simp [front, inside]
        rcases feed with rfl | rfl <;> simp [free] at this
      have placed := place_of_free unfed
      have here : (line ++ ending)[before.length]? = some c := by simp [front]
      have lengths := congrArg List.length front
      simp only [List.length_append, List.length_cons] at lengths
      refine .inr ⟨by rw [placed], ?_⟩
      simp only [StandsIn, placed]
      by_cases inside : before.length < line.length
      · exact .inl (by rwa [List.getElem?_append_left inside] at here)
      · -- past the line there is room for the carriage return only
        rcases feed with rfl | rfl
        · simp only [List.length_nil] at lengths
          omega
        · simp only [List.length_singleton] at lengths
          have last : before.length = line.length := by omega
          have nothing : more = [] := List.length_eq_zero_iff.1 (by omega)
          rw [last, List.getElem?_append_right (Nat.le_refl _), Nat.sub_self] at here
          cases here
          exact .inr ⟨rfl, by simp [nothing], last.symm⟩

/-- The first line is that of the characters in it, and the other lines are those of the text behind
its line feed. -/
theorem hasLine_of_feed {line ending rest : List Char} {lines : List (List Char)}
    (free : '\n' ∉ line) (feed : ending = [] ∨ ending = ['\r'])
    (first : LineAt (line ++ ending ++ '\n' :: rest) 0 line) (other : c ≠ '\n')
    (ih : ∀ {more : List Char}, rest = more ++ c :: after → HasLine rest lines more c after)
    (split : line ++ ending ++ '\n' :: rest = before ++ c :: after) :
    HasLine (line ++ ending ++ '\n' :: rest) (line :: lines) before c after := by
  rcases split_at_feed free feed other split with ⟨more, rfl, tail⟩ | ⟨zero, stands⟩
  · obtain ⟨shown, found, known, stands⟩ := ih tail
    have free' : '\n' ∉ line ++ ending := by rcases feed with rfl | rfl <;> simpa using free
    simp only [HasLine, StandsIn, place_behind_feed free' more]
    exact ⟨shown, found, known.behind free feed, stands⟩
  · rw [HasLine, zero]
    exact ⟨line, rfl, first, stands⟩

theorem Text.CutInto.hasLine {text : List Char} {lines : List (List Char)}
    (cut : CutInto text lines) (split : text = before ++ c :: after) (other : c ≠ '\n') :
    HasLine text lines before c after := by
  induction cut generalizing before with
  | empty => simp at split
  | @unended line nonempty free =>
    have placed : place before = ⟨0, before.length⟩ :=
      place_of_free fun inside => free (by simp [split, inside])
    have first : LineAt line 0 line :=
      ⟨[], [], [], by simp, free, .inl rfl, rfl, .inr (.inr ⟨rfl, rfl, nonempty⟩)⟩
    simp only [HasLine, StandsIn, placed]
    exact ⟨line, rfl, first, .inl (by simp [split])⟩
  | @feed line rest lines free bare cut ih =>
    have whole : line ++ '\n' :: rest = line ++ [] ++ '\n' :: rest := by simp
    rw [whole] at split ⊢
    have first : LineAt (line ++ [] ++ '\n' :: rest) 0 line :=
      ⟨[], ['\n'], rest, by simp, free, .inl rfl, rfl, .inr (.inl ⟨rfl, bare⟩)⟩
    exact hasLine_of_feed free (.inl rfl) first other ih split
  | @carriageFeed line rest lines free cut ih =>
    have whole : line ++ '\r' :: '\n' :: rest = line ++ ['\r'] ++ '\n' :: rest := by simp
    rw [whole] at split ⊢
    have first : LineAt (line ++ ['\r'] ++ '\n' :: rest) 0 line :=
      ⟨[], ['\r', '\n'], rest, by simp, free, .inl rfl, rfl, .inl rfl⟩
    exact hasLine_of_feed free (.inr rfl) first other ih split

end

/-! ## The offending character -/

theorem not_isSeparator_of_lexeme {kind : Kind} {value text cs rest : List Char} {c : Char}
    (taken : Piece.next? (c :: cs) = some (.lexeme kind value text, rest)) :
    Token.isSeparator c = false := by
  rw [Token.next?_cons] at taken
  by_cases letter : c.isAlpha = true
  · exact (Token.apart_of_isAlpha letter).1
  · cases separates : Token.isSeparator c with
    | false => rfl
    | true => simp [letter, separates] at taken

/-- The token at a position of a row that is read back, with the lexeme that it comes from. -/
theorem exists_lexeme {pieces : List Piece} (reads : ReadsBack pieces []) {before : List Char}
    {i : Nat} {token : Token} (here : (tokensOf before pieces)[i]? = some token) :
    ∃ front kind value c lexeme back, pieces = front ++ .lexeme kind value (c :: lexeme) :: back ∧
      (tokensOf before front).length = i ∧ token.location = place (before ++ textOf front) ∧
      Token.isSeparator c = false := by
  induction pieces generalizing before i with
  | nil => cases here
  | cons piece pieces ih =>
    cases piece with
    | separator d =>
      have here' : (tokensOf (before ++ [d]) pieces)[i]? = some token := here
      obtain ⟨front, kind, value, c, lexeme, back, rfl, count, placed, other⟩ := ih reads.2 here'
      refine ⟨.separator d :: front, kind, value, c, lexeme, back, rfl, count, ?_, other⟩
      rw [placed, List.append_assoc]
      rfl
    | lexeme kind value text =>
      have nonempty := (reads.wellFormed _ List.mem_cons_self).text_ne_nil
      obtain ⟨c, lexeme, rfl⟩ := List.exists_cons_of_ne_nil nonempty
      cases i with
      | zero =>
        cases here
        refine ⟨[], kind, value, c, lexeme, pieces, rfl, rfl, ?_, not_isSeparator_of_lexeme reads.1⟩
        simp [textOf]
      | succ i =>
        have here' : (tokensOf (before ++ c :: lexeme) pieces)[i]? = some token := here
        obtain ⟨front, kind', value', d, lexeme', back, rfl, count, placed, other⟩ :=
          ih reads.2 here'
        refine ⟨.lexeme kind value (c :: lexeme) :: front, kind', value', d, lexeme', back, rfl,
          congrArg Nat.succ count, ?_, other⟩
        rw [placed, List.append_assoc]
        rfl

/-- The token at the position `i` of a text is written as `lexeme`, behind `before`. -/
def WrittenAt (text : List Char) (tokens : List Token) (i : Nat) (before lexeme : List Char) :
    Prop :=
  ∃ front kind value back,
    (∀ piece ∈ front ++ .lexeme kind value lexeme :: back, piece.WellFormed) ∧
    text = textOf (front ++ .lexeme kind value lexeme :: back) ∧
    tokens = tokensOf [] (front ++ .lexeme kind value lexeme :: back) ∧
    before = textOf front ∧ (tokensOf [] front).length = i

/-- The position of the token that an error is about: the first wrong one, or the last if the tokens
end too early. -/
def IsBlamed (tokens : List Token) (i : Nat) : Prop :=
  (Grammar.FirstWrong tokens i ∧ i < tokens.length) ∨
    (Grammar.FirstWrong tokens tokens.length ∧ i + 1 = tokens.length)

/-- The character `c` behind `before` is the one that an error is about: the first that cannot be
scanned, or the first of the token to blame. -/
def Offends (text : String) (before : List Char) (c : Char) (after : List Char) : Prop :=
  match lex text with
  | .error fault => fault.offending = c ∧ NoPiece (c :: after)
  | .ok tokens => ∃ i lexeme, IsBlamed tokens i ∧
      WrittenAt text.toList tokens i before (c :: lexeme)

/-- A reading that fails stands at the token to blame. -/
theorem exists_blamed {text : String} {tokens : List Token} {error : ParseError}
    (failed : (Source.scriptFrom ⟨text, tokens⟩ ⟨0, tokens⟩ {}).1 = .error error) :
    ∃ i token, IsBlamed tokens i ∧ tokens[i]? = some token ∧ error.location = token.location := by
  obtain ⟨passed, rest, rfl, stuck⟩ := Grammar.stuck_of_scriptFrom _ failed
  have wrong := stuck.firstWrong
  cases rest with
  | cons token rest =>
    refine ⟨passed.length, token, .inl ⟨wrong, by simp⟩, by simp, ?_⟩
    exact stuck.location_eq
  | nil =>
    have nonempty : passed ++ [] ≠ [] := fun empty => stuck.wrong [] rfl [] (by simp [empty])
    have last := List.getLast?_eq_some_getLast nonempty
    have count := List.length_pos_iff.2 nonempty
    have blamed : IsBlamed (passed ++ []) ((passed ++ []).length - 1) :=
      .inr ⟨by simpa using wrong, by omega⟩
    refine ⟨_, (passed ++ []).getLast nonempty, blamed, ?_, stuck.location_of_last _ last⟩
    rw [← List.getLast?_eq_getElem?]
    exact last

/-- Wherever parsing fails, the error stands at a character that is no line feed, and is shown with
the line of its place. -/
theorem exists_offending {text : String} {error : ParseError}
    (failed : Script.parse text = .error error) :
    error.context = SourceLine.find? text error.location ∧
      ∃ before c after, text.toList = before ++ c :: after ∧ place before = error.location ∧
        c ≠ '\n' ∧ Offends text before c after := by
  have other {c : Char} (h : Token.isSeparator c = false) : c ≠ '\n' := by
    rintro rfl
    cases h
  cases lexed : lex text with
  | error fault =>
    rw [Grammar.parse_eq_of_lex_error lexed] at failed
    cases failed
    obtain ⟨pieces, tiled⟩ := ofChars_tiles none [] text.toList
    obtain ⟨rest, split, placed, -, stuck⟩ :=
      tiled.failure fault (Grammar.error_of_lex_eq lexed)
    refine ⟨rfl, textOf pieces, fault.offending, rest, split, placed.symm, ?_, ?_⟩
    · exact other (by simpa [Token.takeSeparator] using stuck.separator)
    · rw [Offends, lexed]
      exact ⟨rfl, stuck⟩
  | ok tokens =>
    rw [Grammar.parse_eq_of_lex_eq lexed] at failed
    obtain ⟨derivation, left, -, -, fails⟩ := Grammar.exists_failing_statement _ failed
    have shown : error.context = SourceLine.find? text error.location := by
      cases fails <;> rfl
    obtain ⟨i, token, blamed, here, at_⟩ := exists_blamed failed
    obtain ⟨pieces, whole, reads, rfl⟩ := exists_readsBack_of_lex lexed
    obtain ⟨front, kind, value, c, lexeme, back, rfl, count, placed, separates⟩ :=
      exists_lexeme reads here
    refine ⟨shown, textOf front, c, lexeme ++ textOf back, ?_, ?_, other separates, ?_⟩
    · rw [← whole, textOf_append]
      rfl
    · rw [at_, placed]
      rfl
    · rw [Offends, lexed]
      exact ⟨i, lexeme, blamed, front, kind, value, back, reads.wellFormed, whole.symm, rfl, rfl,
        count⟩

/-! ## The picture -/

/-- What is shown of the character `c` behind `before`, where an error stands: the numbered line
`shown`, and a caret in the row below. -/
structure Pictured (text : String) (error : ParseError) (before : List Char) (c : Char)
    (after shown : List Char) : Prop where
  split : text.toList = before ++ c :: after
  placed : place before = error.location
  offends : Offends text before c after
  line : LineAt text.toList error.location.line shown
  picture :
    let number := toString (error.location.line + 1)
    let row := "  " ++ number ++ " | " ++ String.ofList shown
    let margin := "  " ++ SourceLine.spaces number.length ++ " | " ++
      SourceLine.spaces error.location.column
    error.context.map (·.display false) = some (row ++ "\n" ++ margin ++ "^") ∧
      -- the caret stands as far in its row as the character in the row above
      (row.toList[margin.length]? = some c ∨
        c = '\r' ∧ after.head? = some '\n' ∧ row.length = margin.length)

/-- Every parse error shows its place. The character there is the first that cannot be scanned, or
the first of the token to blame. Its line is shown under its number, and the caret stands under the
character itself, or behind the line when it is a carriage return that the line has lost. -/
theorem parse_errors_are_pictured {text : String} {error : ParseError}
    (failed : Script.parse text = .error error) :
    ∃ before c after shown, Pictured text error before c after shown := by
  obtain ⟨context, before, c, after, split, placed, other, offends⟩ := exists_offending failed
  obtain ⟨shown, found, line, stands⟩ :=
    (Text.cutInto_textLines text.toList).hasLine split other
  rw [placed] at found line
  refine ⟨before, c, after, shown, split, placed, offends, line, ?_, ?_⟩
  · rw [context, SourceLine.find?, found]
    simp only [Option.map_some, SourceLine.display, Text.paint, Bool.false_eq_true, if_false,
      String.append_assoc]
  · -- both rows start with as many characters as the number has, and five more
    rw [StandsIn, placed] at stands
    have spaces (count : Nat) : (SourceLine.spaces count).length = count := by
      simp [SourceLine.spaces]
    have margin (number : String) : ("  " ++ SourceLine.spaces number.length ++ " | " ++
        SourceLine.spaces error.location.column).length =
        ("  " ++ number ++ " | ").length + error.location.column := by
      simp [String.length_append, spaces]
    have row (number : String) : ("  " ++ number ++ " | " ++ String.ofList shown).toList =
        ("  " ++ number ++ " | ").toList ++ shown := by
      simp [String.toList_append]
    refine stands.imp (fun here => ?_) fun ⟨carriage, feed, last⟩ => ⟨carriage, feed, ?_⟩
    · rw [row, margin, ← String.length_toList, List.getElem?_append_right (Nat.le_add_right _ _),
        Nat.add_sub_cancel_left]
      exact here
    · rw [margin, String.length_append, String.length_ofList, last]

/-- A carriage return separates nothing, and the line that is shown has lost it. -/
theorem carriage_return_is_pictured :
    let text := "SELECT 1;\r\nSELECT 2;"
    let error : ParseError := ⟨.lex ⟨⟨0, 9⟩, some ⟨.symbol, ";", ⟨0, 8⟩⟩, '\r'⟩, ⟨0, 9⟩, none,
      some ⟨"SELECT 1;", ⟨0, 9⟩⟩⟩
    Script.parse text = .error error ∧
      error.context.map (·.display false) = some "  1 | SELECT 1;\n    |          ^" ∧
      ∃ before c after shown, Pictured text error before c after shown := by
  intro text error
  have failed : Script.parse text = .error error := by decide +kernel
  exact ⟨failed, by decide +kernel, parse_errors_are_pictured failed⟩

end SqlShell
