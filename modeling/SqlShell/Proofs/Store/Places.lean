import SqlShell.Statement.Printer
import SqlShell.Store.Execute

/-!
# Places do not matter to the store

A statement does the same, and is written the same, wherever its tokens stand.
-/

namespace SqlShell

variable (columns : List ColumnDefinition) (tokens : List Token)

theorem Table.ofDefinitions_unplaced :
    Table.ofDefinitions (columns.map (·.unplaced)) = Table.ofDefinitions columns := by
  rw [Table.ofDefinitions, List.foldlM_map]
  rfl

theorem cellsFor_unplaced (datatypes : List Datatype) :
    cellsFor datatypes (tokens.map (·.unplaced)) = cellsFor datatypes tokens := by
  rw [cellsFor, List.zip_map_left, List.mapM_map]
  rfl

theorem Table.select_unplaced (table : Table) :
    table.select (tokens.map (·.unplaced)) = table.select tokens := by
  rw [Table.select, List.mapM_map]
  rfl

theorem Store.select_unplaced (store : Store) (source : Option Token) :
    store.select (tokens.map (·.unplaced)) (source.map (·.unplaced)) =
      store.select tokens source := by
  cases source with
  | none => exact Table.select_unplaced tokens Table.single
  | some name =>
    have found : store.find name.unplaced = store.find name := rfl
    simp only [Store.select, Option.map, Table.select_unplaced, found]

theorem Statement.execution_unplaced (statement : Statement) :
    statement.unplaced.execution = statement.execution := by
  cases statement with
  | createTable name columns =>
    simp only [unplaced, execution, Execution.create, Table.ofDefinitions_unplaced]
    rfl
  | insert table values =>
    simp only [unplaced, execution, Execution.insert, cellsFor_unplaced, List.length_map]
    rfl
  | select items source =>
    simp only [unplaced, execution, Execution.select, Store.select_unplaced]

theorem Store.execute_unplaced (store : Store) (statement : Statement) :
    store.execute statement.unplaced = store.execute statement := by
  rw [execute, Statement.execution_unplaced]
  rfl

theorem Statement.toSql_unplaced (statement : Statement) :
    statement.unplaced.toSql = statement.toSql := by
  have names (tokens : List Token) :
      (tokens.map (·.unplaced)).map (·.toSql) = tokens.map (·.toSql) := by
    rw [List.map_map]
    rfl
  have definitions (columns : List ColumnDefinition) :
      (columns.map (·.unplaced)).map (·.toSql) = columns.map (·.toSql) := by
    rw [List.map_map]
    rfl
  cases statement with
  | createTable name columns =>
    show "CREATE TABLE " ++ name.toSql ++ " (" ++
      commaSeparated ((columns.map (·.unplaced)).map (·.toSql)) ++ ")" = _
    rw [definitions]
    rfl
  | insert table values =>
    show "INSERT INTO " ++ table.toSql ++ " VALUES (" ++
      commaSeparated ((values.map (·.unplaced)).map (·.toSql)) ++ ")" = _
    rw [names]
    rfl
  | select items source =>
    have listed : (if (items.map (·.unplaced)).isEmpty then "" else
        " " ++ commaSeparated ((items.map (·.unplaced)).map (·.toSql))) =
        if items.isEmpty then "" else " " ++ commaSeparated (items.map (·.toSql)) := by
      rw [names, List.isEmpty_map]
    cases source with
    | none => exact congrArg ("SELECT" ++ · ++ "") listed
    | some table => exact congrArg ("SELECT" ++ · ++ (" FROM " ++ table.toSql)) listed

end SqlShell
