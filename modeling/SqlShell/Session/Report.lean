import SqlShell.Event
import SqlShell.Store.Execute
import SqlShell.Text.Grid

/-!
# What a statement reports

The text that a successful statement prints, and the event an observer hears: `ok` for a change of
the store, a grid and the number of rows for a selection. A selection of nothing has no grid.
-/

namespace SqlShell

/-- The number of rows in words. -/
def rowCount (rows : Nat) : String :=
  "(" ++ toString rows ++ " row" ++ (if rows = 1 then "" else "s") ++ ")"

/-- The grid of the results, unless there is no column, and the number of rows. -/
def Results.report (results : Results) : String :=
  let grid :=
    if results.columns.isEmpty then []
    else
      Text.gridLines (results.columns.map (·.name)) (results.rows.map (·.map (·.display)))
  String.ofList (grid.flatMap (· ++ ['\n'])) ++ rowCount results.rows.length ++ "\n"

/-- What the statement prints. -/
def Outcome.report : Outcome → String
  | created .. | inserted .. => "ok\n"
  | selected results => results.report

/-- What an observer hears of the change. -/
def Outcome.events : Outcome → List Event
  | created table columns => [.createdTable table columns]
  | inserted table rows => [.insertedRow table rows]
  | selected _ => []

end SqlShell
