import SqlShell.Token.Basic
import SqlShell.Token.Delimited
import SqlShell.Token.Numeral
import SqlShell.Token.Word

/-!
# From source text to tokens

A source text is a row of pieces: separators, which become nothing, and lexemes, which become one
token each. `Piece.next?` takes the first piece off a text, trying in turn a keyword, a separator, a
symbol, a string, a numeral and an identifier; `Scan.ofChars` repeats it and keeps track of the place.
Scanning stops at the first character where no piece starts.

Main statement: a piece is the start of the text it was taken from, and never empty
(`append_of_next?`), which is why scanning ends.
-/

namespace SqlShell

namespace Token

/-! ## Pieces -/

/-- A stretch of source text: one separator, or the text of one token with the token's kind and
value. -/
inductive Piece where
  | separator (c : Char)
  | lexeme (kind : Kind) (value : List Char) (text : List Char)

/-- The source text of a piece. -/
def Piece.text : Piece → List Char
  | .separator c => [c]
  | .lexeme _ _ text => text

/-- The token of a piece that stands at `location`. -/
def Piece.token? (location : Location) : Piece → Option Token
  | .separator _ => none
  | .lexeme kind value _ => some { kind, value := String.ofList value, location }

/-- A character that separates tokens and belongs to none. A carriage return does not. -/
def isSeparator (c : Char) : Bool :=
  c == ' ' || c == '\t' || c == '\n'

/-- A character that an unquoted identifier may hold after its first letter. -/
def isWordChar (c : Char) : Bool :=
  c.isAlphanum || c == '$' || c == '_'

/-- Take one of some words off the start of a text; the word itself is the value. -/
def takeWord (kind : Kind) (words : List (List Char)) (cs : List Char) :
    Option (Piece × List Char) :=
  (longestMatch words cs).map fun word =>
    (.lexeme kind word (cs.take word.length), cs.drop word.length)

/-- Take a separator off the start of a text. -/
def takeSeparator : List Char → Option (Piece × List Char)
  | [] => none
  | c :: rest => if isSeparator c then some (.separator c, rest) else none

/-- Take a delimited literal off the start of a text. -/
def takeDelimited (kind : Kind) (delimiter : Char) (cs : List Char) : Option (Piece × List Char) :=
  (readDelimited delimiter cs).map fun (value, rest) =>
    (.lexeme kind value (enclose delimiter value), rest)

/-- Take a numeral off the start of a text. -/
def takeNumeral (cs : List Char) : Option (Piece × List Char) :=
  (readNumeral cs).map fun (text, rest) => (.lexeme .numeric text text, rest)

/-- Take an unquoted identifier off the start of a text; its value is in lower case. -/
def takePlainIdentifier : List Char → Option (Piece × List Char)
  | [] => none
  | c :: rest =>
    if c.isAlpha then
      let text := c :: rest.takeWhile isWordChar
      some (.lexeme .identifier (text.map Char.toLower) text, rest.dropWhile isWordChar)
    else
      none

/-- Take the first piece off a text. -/
def Piece.next? (cs : List Char) : Option (Piece × List Char) :=
  takeWord .keyword Keyword.spellings cs
    <|> takeSeparator cs
    <|> takeWord .symbol Symbol.spellings cs
    <|> takeDelimited .string '\'' cs
    <|> takeNumeral cs
    <|> takeDelimited .identifier '"' cs
    <|> takePlainIdentifier cs

/-! ## Pieces tile the text -/

/-- A reader of pieces takes a non-empty start of the text. -/
def Tiles (take : List Char → Option (Piece × List Char)) : Prop :=
  ∀ ⦃cs piece rest⦄, take cs = some (piece, rest) → piece.text ++ rest = cs ∧ piece.text ≠ []

theorem Tiles.orElse {take other : List Char → Option (Piece × List Char)} (h : Tiles take)
    (h' : Tiles other) : Tiles fun cs => take cs <|> other cs := by
  intro cs piece rest taken
  cases first : take cs with
  | none => exact h' (by simpa [first] using taken)
  | some found => exact h (first.trans (by simpa [first] using taken))

theorem tiles_takeWord (kind : Kind) (words : List (List Char)) : Tiles (takeWord kind words) := by
  intro cs piece rest taken
  simp only [takeWord, Option.map_eq_some_iff, Prod.mk.injEq] at taken
  obtain ⟨word, found, rfl, rfl⟩ := taken
  refine ⟨by simp [Piece.text], fun empty => ?_⟩
  rcases List.take_eq_nil_iff.1 empty with short | ended
  · exact longestMatch_ne_nil found (List.length_eq_zero_iff.1 short)
  · simp [ended] at found

theorem tiles_takeSeparator : Tiles takeSeparator := by
  intro cs piece rest taken
  cases cs with
  | nil => cases taken
  | cons c cs =>
    simp only [takeSeparator] at taken
    split at taken
    · cases taken; simp [Piece.text]
    · cases taken

theorem tiles_takeDelimited (kind : Kind) (delimiter : Char) :
    Tiles (takeDelimited kind delimiter) := by
  intro cs piece rest taken
  simp only [takeDelimited, Option.map_eq_some_iff, Prod.exists, Prod.mk.injEq] at taken
  obtain ⟨value, rest, read, rfl, rfl⟩ := taken
  exact ⟨append_of_readDelimited read, by simp [Piece.text, enclose]⟩

theorem tiles_takeNumeral : Tiles takeNumeral := by
  intro cs piece rest taken
  simp only [takeNumeral, Option.map_eq_some_iff, Prod.exists, Prod.mk.injEq] at taken
  obtain ⟨text, rest, read, rfl, rfl⟩ := taken
  exact append_of_readNumeral read

theorem tiles_takePlainIdentifier : Tiles takePlainIdentifier := by
  intro cs piece rest taken
  cases cs with
  | nil => cases taken
  | cons c cs =>
    simp only [takePlainIdentifier] at taken
    split at taken
    · cases taken; simp [Piece.text]
    · cases taken

/-- A piece is the start of the text it was taken from, and is never empty. -/
theorem append_of_next? {cs rest : List Char} {piece : Piece}
    (h : Piece.next? cs = some (piece, rest)) : piece.text ++ rest = cs ∧ piece.text ≠ [] :=
  ((tiles_takeWord _ _).orElse <| tiles_takeSeparator.orElse <| (tiles_takeWord _ _).orElse <|
    (tiles_takeDelimited _ _).orElse <| tiles_takeNumeral.orElse <|
    (tiles_takeDelimited _ _).orElse tiles_takePlainIdentifier) h

/-- Taking a piece shortens the text. -/
theorem length_of_next? {cs rest : List Char} {piece : Piece}
    (h : Piece.next? cs = some (piece, rest)) : rest.length < cs.length := by
  obtain ⟨tile, nonempty⟩ := append_of_next? h
  have := List.length_pos_iff.2 nonempty
  rw [← tile, List.length_append]
  omega

end Token

/-! ## Scanning -/

/-- No piece starts at a character of the text. -/
structure LexError where
  /-- Where that character stands. -/
  location : Location
  /-- The token before it, if any. -/
  previous : Option Token
  /-- The character. -/
  offending : Char
  deriving Repr, DecidableEq

/-- What was read last, and what could not be read. -/
def LexError.hint (error : LexError) : String :=
  let quoted := "'" ++ String.singleton error.offending ++ "'"
  match error.previous with
  | some token => " after " ++ token.value ++ ": " ++ quoted
  | none => " " ++ quoted

/-- The whole message. -/
def LexError.message (error : LexError) : String :=
  "unable to lex token" ++ error.hint ++ ", at " ++ error.location.text

/-- The tokens read from a text, and why reading stopped when it did not reach the end. -/
structure Scan where
  tokens : List Token
  error : Option LexError

namespace Scan

/-- Scan a text that starts at `location`, behind the token `previous`. -/
def ofChars (previous : Option Token) (location : Location) (cs : List Char) : Scan :=
  match _taken : Token.Piece.next? cs with
  | none =>
    match cs with
    | [] => ⟨[], none⟩
    | offending :: _ => ⟨[], some { location, previous, offending }⟩
  | some (piece, rest) =>
    match piece.token? location with
    | none => Scan.ofChars previous (location.advance piece.text) rest
    | some token =>
      let scan := Scan.ofChars (some token) (location.advance piece.text) rest
      ⟨token :: scan.tokens, scan.error⟩
termination_by cs.length
decreasing_by all_goals exact Token.length_of_next? _taken

/-- Scan a whole text. -/
def ofText (text : String) : Scan :=
  Scan.ofChars none {} text.toList

/-- The tokens of a text that was scanned to its end. -/
def toExcept (scan : Scan) : Except LexError (List Token) :=
  match scan.error with
  | none => .ok scan.tokens
  | some error => .error error

end Scan

/-- The tokens of a source text. -/
def lex (text : String) : Except LexError (List Token) :=
  (Scan.ofText text).toExcept

end SqlShell
