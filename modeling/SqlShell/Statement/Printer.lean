import SqlShell.Statement.Basic
import SqlShell.Token.Printer

/-!
# Writing statements

The canonical text of statements: keywords in upper case, one space between words, a comma and a
space between the items of a list, and a semicolon and a line feed behind each statement of a
script.
-/

namespace SqlShell

/-- The texts with a comma and a space between them. -/
def commaSeparated (texts : List String) : String :=
  String.intercalate ", " texts

/-- A column's name and type. -/
def ColumnDefinition.toSql (column : ColumnDefinition) : String :=
  column.name.toSql ++ " " ++ column.datatype.toSql

/-- The statement without a semicolon. -/
def Statement.toSql : Statement → String
  | .createTable name columns =>
    "CREATE TABLE " ++ name.toSql ++ " (" ++ commaSeparated (columns.map (·.toSql)) ++ ")"
  | .insert table values =>
    "INSERT INTO " ++ table.toSql ++ " VALUES (" ++ commaSeparated (values.map (·.toSql)) ++ ")"
  | .select items source =>
    "SELECT" ++
      (if items.isEmpty then "" else " " ++ commaSeparated (items.map (·.toSql))) ++
      (match source with
        | none => ""
        | some table => " FROM " ++ table.toSql)

/-- Each statement with its semicolon on a line of its own. -/
def Script.toSql (script : Script) : String :=
  String.join (script.map fun statement => statement.toSql ++ ";\n")

end SqlShell
