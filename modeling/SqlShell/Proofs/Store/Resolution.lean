import SqlShell.Grammar.Statement
import SqlShell.Proofs.Store.Literals

/-!
# How a selection is resolved

A selection first resolves its items, each to a column and to where the cells of it come from
(`Table.Resolves`), and then reads every row (`Table.select_eq_ok`).
-/

namespace SqlShell

/-! ## Entries -/

theorem entry_of_lt {α : Type} {list : List α} {position : Nat} (h : position < list.length) :
    entry list position = .ok list[position] := by
  simp [entry, h]

theorem entry_eq_ok {α : Type} {list : List α} {position : Nat} {a : α}
    (h : entry list position = .ok a) : list[position]? = some a := by
  simp only [entry] at h
  split at h
  · next found =>
    cases h
    exact found
  · cases h

theorem entry_eq_error {α : Type} {list : List α} {position : Nat} {error : ExecutionError}
    (h : entry list position = .error error) : error = .outOfBounds position list.length := by
  simp only [entry] at h
  split at h
  · cases h
  · cases h
    rfl

/-! ## Items -/

/-- What a select item resolves to: a name to the column at its position, a literal to the cell that
it stands for. -/
inductive Table.Resolves (table : Table) (item : Token) : Column × Projection → Prop where
  | column {position : Nat} {datatype : Datatype}
      (found : table.position? item.value = some position)
      (typed : table.datatypes[position]? = some datatype) :
      Resolves table item (⟨item.value, datatype⟩, .column position)
  | constant {cell : Cell} (denotes : item.Denotes cell) :
      Resolves table item (⟨item.value, cell.datatype⟩, .constant cell)

theorem Table.resolves_of_ok {table : Table} {item : Token} {resolved : Column × Projection}
    (h : table.resolve item = .ok resolved) : table.Resolves item resolved := by
  simp only [resolve] at h
  split at h
  · split at h
    · next position found =>
      obtain ⟨datatype, typed, h⟩ := Cursor.ok_of_bind_eq_ok h
      cases h
      exact .column found (entry_eq_ok typed)
    · cases h
  · obtain ⟨cell, made, h⟩ := Cursor.ok_of_bind_eq_ok h
    cases h
    exact .constant (ofConstant_eq_ok_iff.1 (liftFault_eq_ok_iff.1 made))

theorem Table.Resolves.name_eq {table : Table} {item : Token} {resolved : Column × Projection}
    (h : table.Resolves item resolved) : resolved.1.name = item.value := by
  cases h <;> rfl

/-! ## Selections -/

/-- The table that a selection works on. -/
theorem Store.select_eq (store : Store) (items : List Token) (source : Option Token) :
    store.select items source =
      match source with
      | none => Table.single.select items
      | some name =>
        match store.table? name.value with
        | some table => table.select items
        | none => .error (.unknownTable name.value) := by
  cases source with
  | none => rfl
  | some name =>
    simp only [Store.select, Store.find]
    cases store.table? name.value <;> rfl

/-- A selection that yields results worked on a table of the store, or on the single row. -/
theorem Store.select_eq_ok {store : Store} {items : List Token} {source : Option Token}
    {results : Results} (h : store.select items source = .ok results) :
    ∃ table, table.select items = .ok results ∧
      (table = .single ∨ ∃ name, store.table? name = some table) := by
  rw [Store.select_eq] at h
  split at h
  · exact ⟨.single, h, .inl rfl⟩
  · split at h
    · next table found => exact ⟨table, h, .inr ⟨_, found⟩⟩
    · cases h

/-- A selection resolves its items, and then reads every row. -/
theorem Table.select_eq_ok {table : Table} {items : List Token} {results : Results}
    (h : table.select items = .ok results) :
    ∃ resolved, items.mapM table.resolve = .ok resolved ∧
      results.columns = resolved.map (·.1) ∧
      table.rows.toList.mapM (fun row => resolved.mapM (·.2.cell row)) = .ok results.rows := by
  obtain ⟨resolved, named, h⟩ := Cursor.ok_of_bind_eq_ok h
  obtain ⟨rows, read, h⟩ := Cursor.ok_of_bind_eq_ok h
  cases h
  exact ⟨resolved, named, rfl, read⟩

theorem name_of_mem_columns {table : Table} {items : List Token} {results : Results}
    (h : table.select items = .ok results) {column : Column} (inside : column ∈ results.columns) :
    ∃ item ∈ items, column.name = item.value := by
  obtain ⟨resolved, named, columns, -⟩ := Table.select_eq_ok h
  rw [columns, List.mem_map] at inside
  obtain ⟨part, inside, rfl⟩ := inside
  obtain ⟨item, known, made⟩ := exists_of_mem_of_mapM_eq_ok named part inside
  exact ⟨item, known, (Table.resolves_of_ok made).name_eq⟩

end SqlShell
