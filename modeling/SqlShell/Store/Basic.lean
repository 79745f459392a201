import SqlShell.Store.Cell
import Std.Data.ExtHashMap

/-!
# Tables and the store

A `Table` has the names of its columns, their types, and rows of cells in the order of insertion.
Nothing in its type says that the three fit together; that they do is a property of the tables that
statements make (`SqlShell.Proofs.Store.WellTyped`). The `Store` maps names to tables. Two stores
are equal exactly when they hold the same tables under the same names (`Store.ext_table?`), whatever
order those were put there.
-/

namespace SqlShell

/-- The names of the columns, their types, and the rows. -/
structure Table where
  columns : List String := []
  datatypes : List Datatype := []
  rows : Array (List Cell) := #[]
  deriving Repr, DecidableEq

/-- The position of the first column of a given name. -/
def Table.position? (table : Table) (name : String) : Option Nat :=
  table.columns.findIdx? (· = name)

/-- A column of a result. -/
structure Column where
  name : String
  datatype : Datatype
  deriving Repr, DecidableEq

/-- What a `SELECT` yields. -/
structure Results where
  columns : List Column
  rows : List (List Cell)
  deriving Repr, DecidableEq

/-- Tables by name. -/
structure Store where
  tables : Std.ExtHashMap String Table := ∅

namespace Store

/-- The store without tables. -/
def empty : Store := {}

/-- The table of a given name. -/
def table? (store : Store) (name : String) : Option Table :=
  store.tables[name]?

/-- The store with a table under a name, in place of any table that had this name. -/
def put (store : Store) (name : String) (table : Table) : Store :=
  ⟨store.tables.insert name table⟩

@[simp] theorem table?_empty (name : String) : empty.table? name = none := by
  simp [empty, table?]

@[simp] theorem table?_put (store : Store) (name other : String) (table : Table) :
    (store.put name table).table? other = if name = other then some table else store.table? other := by
  simp [put, table?, Std.ExtHashMap.getElem?_insert]

/-- Stores with the same tables are equal. -/
theorem ext_table? {a b : Store} (h : ∀ name, a.table? name = b.table? name) : a = b := by
  obtain ⟨a⟩ := a
  obtain ⟨b⟩ := b
  exact congrArg mk (Std.ExtHashMap.ext_getElem? fun name => h name)

end Store

end SqlShell
