import SqlShell.Statement.Basic
import SqlShell.Store.Basic

/-!
# Executing statements

What each statement does to a store and what it yields.

* `CREATE TABLE` builds a table column by column and puts it under its name, in place of any table
  there.
* `INSERT` adds a row to a table, if there are as many values as columns and each fits its column.
* `SELECT` resolves its items against a table in order, a name to the first column called so and a
  literal to a constant, and evaluates them on every row. Without `FROM` it works on
  `Table.single`, which has no column to name and one row to evaluate constants on.

An `Execution` works on the store itself, so what it has done before it fails stays done. A lookup
behind the end of a list ends it with `ExecutionError.outOfBounds`.
-/

namespace SqlShell

/-- Why a statement cannot be executed. -/
inductive ExecutionError where
  | unknownTable (name : String)
  | unknownColumn (name : String)
  | invalidDatatype (fault : DatatypeFault)
  | valueCount (expected found : Nat)
  /-- A list was to be read behind its end. -/
  | outOfBounds (position length : Nat)
  deriving Repr, DecidableEq

/-- The error in words. -/
def ExecutionError.message : ExecutionError → String
  | unknownTable name => "table does not exist: " ++ name
  | unknownColumn name => "column does not exist: " ++ name
  | invalidDatatype fault => "invalid datatype: " ++ fault.detail
  | valueCount expected found =>
    "missing values: table has " ++ toString expected ++ " columns, got " ++ toString found ++
      " values"
  | outOfBounds position length =>
    "index out of bounds: the len is " ++ toString length ++ " but the index is " ++
      toString position

/-- What a statement yields: the columns of the table created, the rows of the table inserted into,
or the rows selected. -/
inductive Outcome where
  | created (table : String) (columns : Nat)
  | inserted (table : String) (rows : Nat)
  | selected (results : Results)
  deriving Repr, DecidableEq

/-- A fault of a token as a fault of its statement. -/
def liftFault {α : Type} : Except DatatypeFault α → Except ExecutionError α :=
  Except.mapError .invalidDatatype

/-- The entry of a list at a position. -/
def entry {α : Type} (list : List α) (position : Nat) : Except ExecutionError α :=
  match list[position]? with
  | some a => .ok a
  | none => .error (.outOfBounds position list.length)

/-! ## New tables -/

/-- The table with one more column. -/
def Table.addColumn (table : Table) (definition : ColumnDefinition) :
    Except ExecutionError Table := do
  let datatype ← liftFault (Datatype.ofToken definition.datatype)
  return { table with
    columns := table.columns ++ [definition.name.value]
    datatypes := table.datatypes ++ [datatype] }

/-- The table with given columns and no row. -/
def Table.ofDefinitions (definitions : List ColumnDefinition) : Except ExecutionError Table :=
  definitions.foldlM Table.addColumn {}

/-! ## New rows -/

/-- The cells that literals make in columns of given types, as far as there are both. -/
def cellsFor (datatypes : List Datatype) (values : List Token) :
    Except ExecutionError (List Cell) :=
  (values.zip datatypes).mapM fun (value, datatype) => liftFault (Cell.forColumn datatype value)

/-- The table of a given name, or the error that there is none. -/
def Store.find (store : Store) (name : Token) : Except ExecutionError Table :=
  match store.table? name.value with
  | some table => .ok table
  | none => .error (.unknownTable name.value)

/-! ## Selection -/

/-- Where a result column takes its cells from. -/
inductive Projection where
  /-- The cell at a position of the row. -/
  | column (position : Nat)
  /-- The same cell for every row. -/
  | constant (cell : Cell)
  deriving Repr, DecidableEq

/-- The cell for a row. -/
def Projection.cell (row : List Cell) : Projection → Except ExecutionError Cell
  | column position => entry row position
  | constant cell => .ok cell

/-- A select item as a result column. -/
def Table.resolve (table : Table) (item : Token) : Except ExecutionError (Column × Projection) :=
  if item.kind = .identifier then
    match table.position? item.value with
    | some position => do
      let datatype ← entry table.datatypes position
      return (⟨item.value, datatype⟩, .column position)
    | none => .error (.unknownColumn item.value)
  else do
    let cell ← liftFault (Cell.ofConstant item)
    return (⟨item.value, cell.datatype⟩, .constant cell)

/-- Evaluate select items on every row of a table. -/
def Table.select (table : Table) (items : List Token) : Except ExecutionError Results := do
  let resolved ← items.mapM table.resolve
  let rows ← table.rows.toList.mapM fun row => resolved.mapM (·.2.cell row)
  return { columns := resolved.map (·.1), rows }

/-- One row and no column. -/
def Table.single : Table :=
  { rows := #[[]] }

/-- The results of a `SELECT`. -/
def Store.select (store : Store) (items : List Token) (source : Option Token) :
    Except ExecutionError Results := do
  let table ← match source with
    | none => pure Table.single
    | some name => store.find name
  table.select items

/-! ## Statements -/

/-- An action on a store, which may fail. -/
abbrev Execution := EStateM ExecutionError Store

namespace Execution

/-- Put a new, empty table under a name. -/
def create (name : Token) (definitions : List ColumnDefinition) : Execution Outcome := do
  let table ← MonadExcept.ofExcept (Table.ofDefinitions definitions)
  modify (·.put name.value table)
  return .created name.value table.columns.length

/-- Add a row to the table of a name. -/
def insert (name : Token) (values : List Token) : Execution Outcome := do
  let table ← MonadExcept.ofExcept ((← get).find name)
  if values.length ≠ table.columns.length then
    throw (.valueCount table.columns.length values.length)
  let row ← MonadExcept.ofExcept (cellsFor table.datatypes values)
  let table := { table with rows := table.rows.push row }
  modify (·.put name.value table)
  return .inserted name.value table.rows.size

/-- Select from the store. -/
def select (items : List Token) (source : Option Token) : Execution Outcome := do
  let results ← MonadExcept.ofExcept ((← get).select items source)
  return .selected results

end Execution

/-- What a statement does. -/
def Statement.execution : Statement → Execution Outcome
  | .createTable name columns => Execution.create name columns
  | .insert table values => Execution.insert table values
  | .select items source => Execution.select items source

/-- Execute a statement: what it yields or why it fails, and the store it leaves. -/
def Store.execute (store : Store) (statement : Statement) :
    EStateM.Result ExecutionError Store Outcome :=
  statement.execution.run store

/-- The store after a statement, whether it fails or not. -/
def Store.after (store : Store) (statement : Statement) : Store :=
  match store.execute statement with
  | .ok _ store | .error _ store => store

end SqlShell
