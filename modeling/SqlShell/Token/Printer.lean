import SqlShell.Text.Upper
import SqlShell.Token.Basic
import SqlShell.Token.Delimited

/-!
# Writing tokens

* `Token.toSql` writes a token the way it is read: keywords in upper case, strings in single quotes,
  identifiers plain where that is safe and in double quotes elsewhere.
* `needsQuotes` decides which identifiers are not safe. Since a keyword needs no word boundary
  behind it, `intern` would be read as `INT` followed by `ern`.
* `Token.describe` names a token in a message about what was expected.
-/

namespace SqlShell.Token

/-- A small ASCII letter. -/
def isSmallLetter (c : Char) : Bool :=
  'a' ≤ c && c ≤ 'z'

/-- A character that a plain identifier in canonical form may hold after its first. -/
def isPlain (c : Char) : Bool :=
  isSmallLetter c || c.isDigit || c == '$' || c == '_'

/-- Whether an identifier would be read back as something else without its quotes: it is not made
of a small letter and plain characters, or it starts with a keyword. -/
def needsQuotes (value : List Char) : Bool :=
  match value with
  | [] => true
  | first :: tail =>
    !isSmallLetter first || !tail.all isPlain || Keyword.spellings.any (·.isPrefixOf value)

/-- The token as source text. -/
def toSql (token : Token) : String :=
  match token.kind with
  | .keyword => Text.upper token.value
  | .symbol | .numeric => token.value
  | .string => String.ofList (enclose '\'' token.value.toList)
  | .identifier =>
    if needsQuotes token.value.toList then String.ofList (enclose '"' token.value.toList)
    else token.value

/-- The token as a message names it. -/
def describe (token : Token) : String :=
  match token.kind with
  | .keyword => Text.upper token.value
  | .symbol => "'" ++ token.value ++ "'"
  | .identifier | .string | .numeric => token.value

end SqlShell.Token

namespace SqlShell

theorem Keyword.upper_spelling (word : Keyword) : Text.upper word.spelling = word.display := by
  cases word <;> decide +kernel

end SqlShell
