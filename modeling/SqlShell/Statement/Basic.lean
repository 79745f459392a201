import SqlShell.Token.Basic

/-!
# Statements

The three statements of the language. Names, types and expressions are the tokens they were read
from; an expression is always a single token. A `Script` is a list of statements in the order of
the text.

Nothing here restricts the tokens: a statement may hold a symbol where a name belongs. What the
grammar can build is the matter of `SqlShell.Grammar`.
-/

namespace SqlShell

/-- A column's name and the word for its type. -/
structure ColumnDefinition where
  name : Token
  datatype : Token
  deriving Repr, DecidableEq

/-- A statement. -/
inductive Statement where
  /-- `CREATE TABLE name (columns)` -/
  | createTable (name : Token) (columns : List ColumnDefinition)
  /-- `INSERT INTO table VALUES (values)` -/
  | insert (table : Token) (values : List Token)
  /-- `SELECT items FROM source`, the source being optional -/
  | select (items : List Token) (source : Option Token)
  deriving Repr, DecidableEq

/-- Statements in the order of the text. -/
abbrev Script := List Statement

/-- The definition with its tokens unplaced. -/
def ColumnDefinition.unplaced (column : ColumnDefinition) : ColumnDefinition :=
  ⟨column.name.unplaced, column.datatype.unplaced⟩

namespace Statement

/-- What kind of statement it is, for a reader of events. -/
def name : Statement → String
  | createTable .. => "create table"
  | insert .. => "insert"
  | select .. => "select"

/-- The statement with all its tokens unplaced, so that equality ignores where they stood. -/
def unplaced : Statement → Statement
  | createTable name columns => .createTable name.unplaced (columns.map (·.unplaced))
  | insert table values => .insert table.unplaced (values.map (·.unplaced))
  | select items source => .select (items.map (·.unplaced)) (source.map (·.unplaced))

end Statement

/-- The same statements, wherever their tokens stand. -/
def Script.Agrees (a b : Script) : Prop :=
  a.map (·.unplaced) = b.map (·.unplaced)

instance (a b : Script) : Decidable (a.Agrees b) :=
  inferInstanceAs (Decidable (_ = _))

end SqlShell
