import SqlShell.Location

/-!
# Tokens

The vocabulary of the language and the tokens built from it:

* `Keyword` and `Symbol` are the reserved words and the punctuation, each with its one spelling;
* `Token` is a classified value with the place where it was read;
* `Token.Agrees` compares two tokens by kind and value only, since the place is there for
  messages. A token built by `Token.keyword` or `Token.symbol` stands for every such token.

A token's value is what the text means, not how it was written: keywords and plain identifiers are
in lower case and the quotes of a literal are gone. Nothing ties the value to the kind, so a token
may hold text that no source text yields.
-/

namespace SqlShell

/-! ## Vocabulary -/

/-- Reserved words. -/
inductive Keyword where
  | select
  | insert
  | values
  | table
  | create
  | «where»
  | «from»
  | into
  | int
  | text
  deriving Repr, DecidableEq

namespace Keyword

/-- The word in lower case. -/
def spelling : Keyword → String
  | .select => "select"
  | .insert => "insert"
  | .values => "values"
  | .table => "table"
  | .create => "create"
  | .where => "where"
  | .from => "from"
  | .into => "into"
  | .int => "int"
  | .text => "text"

/-- The word in upper case, as messages show it. -/
def display : Keyword → String
  | .select => "SELECT"
  | .insert => "INSERT"
  | .values => "VALUES"
  | .table => "TABLE"
  | .create => "CREATE"
  | .where => "WHERE"
  | .from => "FROM"
  | .into => "INTO"
  | .int => "INT"
  | .text => "TEXT"

/-- Every keyword once. The order decides between keywords that a misspelling resembles equally. -/
def all : List Keyword :=
  [.select, .insert, .values, .table, .create, .where, .from, .into, .int, .text]

/-- The spellings as lists of characters. -/
def spellings : List (List Char) :=
  all.map (·.spelling.toList)

end Keyword

/-- Punctuation. -/
inductive Symbol where
  | comma
  | leftParen
  | rightParen
  | semicolon
  | asterisk
  deriving Repr, DecidableEq

namespace Symbol

/-- The one character of a symbol. -/
def spelling : Symbol → String
  | .comma => ","
  | .leftParen => "("
  | .rightParen => ")"
  | .semicolon => ";"
  | .asterisk => "*"

/-- The symbol in quotes, as messages show it. -/
def display (symbol : Symbol) : String :=
  "'" ++ symbol.spelling ++ "'"

/-- Every symbol once. -/
def all : List Symbol :=
  [.comma, .leftParen, .rightParen, .semicolon, .asterisk]

/-- The spellings as lists of characters. -/
def spellings : List (List Char) :=
  all.map (·.spelling.toList)

end Symbol

/-! ## Tokens -/

/-- What a token is. -/
inductive Kind where
  | keyword
  | symbol
  | identifier
  | string
  | numeric
  deriving Repr, DecidableEq

/-- The name of a kind. -/
def Kind.name : Kind → String
  | .keyword => "Keyword"
  | .symbol => "Symbol"
  | .identifier => "Identifier"
  | .string => "String"
  | .numeric => "Numeric"

/-- A kind, a value, and the place of the first character. -/
structure Token where
  kind : Kind
  value : String
  location : Location := {}
  deriving Repr, DecidableEq

namespace Token

/-- A keyword at no place in particular. -/
def keyword (word : Keyword) : Token :=
  { kind := .keyword, value := word.spelling }

/-- A symbol at no place in particular. -/
def symbol (mark : Symbol) : Token :=
  { kind := .symbol, value := mark.spelling }

/-- Same kind and same value, wherever the two stand. -/
def Agrees (a b : Token) : Prop :=
  a.kind = b.kind ∧ a.value = b.value

instance (a b : Token) : Decidable (a.Agrees b) :=
  inferInstanceAs (Decidable (_ ∧ _))

/-- Whether the token is a given keyword. -/
def IsKeyword (token : Token) (word : Keyword) : Prop :=
  token.Agrees (keyword word)

/-- Whether the token is a given symbol. -/
def IsSymbol (token : Token) (mark : Symbol) : Prop :=
  token.Agrees (symbol mark)

instance (token : Token) (word : Keyword) : Decidable (token.IsKeyword word) :=
  inferInstanceAs (Decidable (token.Agrees _))

instance (token : Token) (mark : Symbol) : Decidable (token.IsSymbol mark) :=
  inferInstanceAs (Decidable (token.Agrees _))

/-- Whether the token may stand alone as an expression. -/
def IsLiteral (token : Token) : Prop :=
  token.kind = .identifier ∨ token.kind = .numeric ∨ token.kind = .string

instance (token : Token) : Decidable token.IsLiteral :=
  inferInstanceAs (Decidable (_ ∨ _))

/-- The token moved to the start of the text, so that equality compares kind and value alone. -/
def unplaced (token : Token) : Token :=
  { token with location := {} }

/-- The kind with the value in brackets. -/
def display (token : Token) : String :=
  token.kind.name ++ "(" ++ token.value ++ ")"

end Token

end SqlShell
