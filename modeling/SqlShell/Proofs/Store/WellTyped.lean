import SqlShell.Proofs.Store.Resolution
import SqlShell.Proofs.Store.Steps

/-!
# Tables and results are well typed

A table is kept as three lists that could drift apart. `Table.WellTyped` says that they do not: there
are as many types as column names, and each row has the types of the columns, cell by cell. Every
statement that succeeds preserves this, so it holds after every run (`wellTyped_afterAll`).

A selection reads the lists by position. On a well-typed table every position that it uses is within
bounds, and each cell that it yields has the type that the header announces.
-/

namespace SqlShell

structure Table.WellTyped (table : Table) : Prop where
  columns : table.datatypes.length = table.columns.length
  rows : ∀ row ∈ table.rows.toList, row.map Cell.datatype = table.datatypes

def Store.WellTyped (store : Store) : Prop :=
  ∀ name table, store.table? name = some table → table.WellTyped

/-! ## The invariant -/

theorem Store.WellTyped.put {store : Store} (h : store.WellTyped) {table : Table}
    (typed : table.WellTyped) (name : String) : (store.put name table).WellTyped := by
  intro other found put
  rw [Store.table?_put] at put
  split at put
  · cases put
    exact typed
  · exact h other found put

theorem Table.WellTyped.push {table : Table} (h : table.WellTyped) {row : List Cell}
    (types : row.map Cell.datatype = table.datatypes) :
    Table.WellTyped { table with rows := table.rows.push row } where
  columns := h.columns
  rows other inside := by
    rw [Array.toList_push, List.mem_append, List.mem_singleton] at inside
    rcases inside with old | rfl
    · exact h.rows other old
    · exact types

theorem Store.Step.wellTyped {store after : Store} {statement : Statement} {outcome : Outcome}
    (h : store.WellTyped) (step : store.Step statement outcome after) : after.WellTyped := by
  cases step with
  | @create name definitions table columns datatypes rows =>
    refine h.put ⟨?_, ?_⟩ name.value
    · -- both lists are as long as the list of definitions
      have names := congrArg List.length columns
      have types := congrArg List.length datatypes
      simp only [List.length_map] at names types
      omega
    · simp [rows]
  | @insert name values table row found count made =>
    have typed := h name.value table found
    have fits := (cellsFor_eq_ok_iff (count.trans typed.columns.symm)).1 made
    exact h.put (typed.push fits.2) name.value
  | select => exact h

theorem Store.wellTyped_afterAll (statements : List Statement) :
    (Store.empty.afterAll statements).WellTyped := by
  apply Store.afterAll_induction Store.Step.wellTyped
  intro name table found
  rw [Store.table?_empty] at found
  cases found

/-! ## Positions -/

theorem Table.position?_lt {table : Table} {name : String} {position : Nat}
    (h : table.position? name = some position) : position < table.columns.length := by
  rw [Table.position?, List.findIdx?_eq_some_iff_getElem] at h
  exact h.1

/-- The positions that a well-typed table gives out are within its types and within its rows. -/
theorem Table.WellTyped.position_lt {table : Table} (h : table.WellTyped) {name : String}
    {position : Nat} (found : table.position? name = some position) :
    position < table.datatypes.length ∧ ∀ row ∈ table.rows.toList, position < row.length := by
  have inside : position < table.datatypes.length := h.columns ▸ Table.position?_lt found
  refine ⟨inside, fun row member => ?_⟩
  have width := congrArg List.length (h.rows row member)
  rw [List.length_map] at width
  omega

/-! ## Selection -/

/-- On rows of some types, a projection delivers a cell of its column's type. -/
def Delivers (datatypes : List Datatype) (resolved : Column × Projection) : Prop :=
  ∀ row : List Cell, row.map Cell.datatype = datatypes →
    ∃ cell, resolved.2.cell row = .ok cell ∧ cell.datatype = resolved.1.datatype

theorem Table.resolve_eq_ok {table : Table} {item : Token} {resolved : Column × Projection}
    (h : table.resolve item = .ok resolved) :
    resolved.1.name = item.value ∧ Delivers table.datatypes resolved := by
  have resolves := Table.resolves_of_ok h
  refine ⟨resolves.name_eq, fun row types => ?_⟩
  cases resolves with
  | column found typed =>
    -- the row has the type at this position, so it has a cell there
    rw [← types, List.getElem?_map, Option.map_eq_some_iff] at typed
    obtain ⟨cell, cellThere, same⟩ := typed
    exact ⟨cell, by simp [Projection.cell, entry, cellThere], same⟩
  | @constant cell => exact ⟨cell, rfl, rfl⟩

theorem Table.resolve_inBounds {table : Table} (h : table.WellTyped) (item : Token)
    (position length : Nat) : table.resolve item ≠ .error (.outOfBounds position length) := by
  intro failed
  simp only [Table.resolve] at failed
  split at failed
  · split at failed
    · next found =>
      rw [entry_of_lt (h.position_lt found).1] at failed
      cases failed
    · cases failed
  · cases made : liftFault (Cell.ofConstant item) with
    | error error =>
      obtain ⟨fault, rfl⟩ := liftFault_eq_error made
      rw [made] at failed
      cases failed
    | ok cell =>
      rw [made] at failed
      cases failed

/-- Resolved items yield a row of the types that their columns announce. -/
theorem project_of_delivers {datatypes : List Datatype} {resolved : List (Column × Projection)}
    (h : ∀ part ∈ resolved, Delivers datatypes part) {row : List Cell}
    (types : row.map Cell.datatype = datatypes) :
    ∃ cells, resolved.mapM (·.2.cell row) = .ok cells ∧
      cells.map Cell.datatype = resolved.map (·.1.datatype) := by
  simp only [mapM_eq_ok_iff]
  induction resolved with
  | nil => exact ⟨[], .nil, rfl⟩
  | cons part resolved ih =>
    obtain ⟨cell, yielded, same⟩ := h part List.mem_cons_self row types
    obtain ⟨cells, more, sames⟩ := ih fun other inside => h other (List.mem_cons_of_mem _ inside)
    exact ⟨cell :: cells, .cons yielded more, congrArg₂ List.cons same sames⟩

/-- Once its items are resolved, a selection from a well-typed table succeeds, with a row of the
announced types for each row of the table. -/
theorem Table.WellTyped.exists_rows {table : Table} (h : table.WellTyped)
    {resolved : List (Column × Projection)}
    (delivers : ∀ part ∈ resolved, Delivers table.datatypes part) :
    ∃ rows, table.rows.toList.mapM (fun row => resolved.mapM (·.2.cell row)) = .ok rows ∧
      rows.length = table.rows.size ∧
      ∀ row ∈ rows, row.map Cell.datatype = resolved.map (·.1.datatype) := by
  simp only [@mapM_eq_ok_iff _ _ _ _ table.rows.toList, ← Array.length_toList]
  have typed := h.rows
  generalize table.rows.toList = stored at typed
  induction stored with
  | nil => exact ⟨[], .nil, rfl, by simp⟩
  | cons row stored ih =>
    obtain ⟨cells, projected, types⟩ :=
      project_of_delivers delivers (typed row List.mem_cons_self)
    obtain ⟨rows, more, count, all⟩ := ih fun other inside =>
      typed other (List.mem_cons_of_mem _ inside)
    refine ⟨cells :: rows, .cons projected more, congrArg Nat.succ count, fun other inside => ?_⟩
    rcases List.mem_cons.1 inside with rfl | inside
    · exact types
    · exact all other inside

theorem Table.delivers_of_resolved {table : Table} {items : List Token}
    {resolved : List (Column × Projection)} (h : items.mapM table.resolve = .ok resolved) :
    ∀ part ∈ resolved, Delivers table.datatypes part := by
  intro part inside
  obtain ⟨item, -, made⟩ := exists_of_mem_of_mapM_eq_ok h part inside
  exact (Table.resolve_eq_ok made).2

theorem Table.select_of_unresolved {table : Table} {items : List Token} {error : ExecutionError}
    (h : items.mapM table.resolve = .error error) : table.select items = .error error := by
  rw [select, h]
  rfl

theorem Table.select_of_rows {table : Table} {items : List Token}
    {resolved : List (Column × Projection)} {rows : List (List Cell)}
    (h : items.mapM table.resolve = .ok resolved)
    (read : table.rows.toList.mapM (fun row => resolved.mapM (·.2.cell row)) = .ok rows) :
    table.select items = .ok ⟨resolved.map (·.1), rows⟩ := by
  rw [select, h]
  change (table.rows.toList.mapM (fun row => resolved.mapM (·.2.cell row)) >>= fun rows =>
    Except.ok (⟨resolved.map (·.1), rows⟩ : Results)) = _
  rw [read]
  rfl

/-- What a selection from a well-typed table comes to. -/
theorem Table.WellTyped.select {table : Table} (h : table.WellTyped) (items : List Token) :
    (∃ error, table.select items = .error error ∧
      ∃ item ∈ items, table.resolve item = .error error) ∨
    ∃ results, table.select items = .ok results ∧
      results.columns.map (·.name) = items.map (·.value) ∧
      results.rows.length = table.rows.size ∧
      ∀ row ∈ results.rows, row.map Cell.datatype = results.columns.map (·.datatype) := by
  cases named : items.mapM table.resolve with
  | error error =>
    exact .inl ⟨error, Table.select_of_unresolved named, exists_of_mapM_eq_error named⟩
  | ok resolved =>
    have names : resolved.map (·.1.name) = items.map (·.value) := by
      have each := mapM_eq_ok_iff.1 named
      clear named
      induction each with
      | nil => rfl
      | cons first _ ih => exact congrArg₂ List.cons (Table.resolve_eq_ok first).1 ih
    obtain ⟨rows, read, count, types⟩ := h.exists_rows (Table.delivers_of_resolved named)
    refine .inr ⟨⟨resolved.map (·.1), rows⟩, Table.select_of_rows named read, ?_, count, ?_⟩
    · rw [List.map_map]
      exact names
    · simp only [List.map_map]
      exact types

theorem Table.single_wellTyped : Table.single.WellTyped :=
  ⟨rfl, by simp [Table.single]⟩

theorem Table.WellTyped.select_inBounds {table : Table} (h : table.WellTyped) (items : List Token)
    (position length : Nat) : table.select items ≠ .error (.outOfBounds position length) := by
  intro failed
  rcases h.select items with ⟨error, failed', item, -, unresolved⟩ | ⟨results, selected, -⟩
  · rw [failed'] at failed
    cases failed
    exact table.resolve_inBounds h item position length unresolved
  · rw [selected] at failed
    cases failed

/-- After any run the tables are well typed, and so are the results of a selection.

* There are as many types as columns, and every row has the types of the columns, cell by cell.
* No selection reads behind the end of a list: a position at which a name is found is within the
  types and within every row.
* A selection that succeeds announces one column for each of its items, every row has the announced
  types, cell by cell, and there are as many rows as in the table, or one without a table. -/
theorem tables_and_results_are_well_typed (statements : List Statement) :
    let store := Store.empty.afterAll statements
    (∀ name table, store.table? name = some table →
      table.datatypes.length = table.columns.length ∧
        ∀ row ∈ table.rows.toList, row.length = table.columns.length ∧
          row.map Cell.datatype = table.datatypes) ∧
    (∀ name table column position, store.table? name = some table →
      table.position? column = some position →
        position < table.datatypes.length ∧ ∀ row ∈ table.rows.toList, position < row.length) ∧
    (∀ items source position length,
      store.select items source ≠ .error (.outOfBounds position length)) ∧
    ∀ items source results, store.select items source = .ok results →
      results.columns.map (·.name) = items.map (·.value) ∧
      (∀ row ∈ results.rows, row.length = results.columns.length ∧
        row.map Cell.datatype = results.columns.map (·.datatype)) ∧
      match source with
      | none => results.rows.length = 1
      | some name => ∃ table, store.table? name.value = some table ∧
          results.rows.length = table.rows.size := by
  intro store
  have typed : store.WellTyped := Store.wellTyped_afterAll statements
  have width {row : List Cell} {types : List Datatype} (h : row.map Cell.datatype = types) :
      row.length = types.length := by
    rw [← h, List.length_map]
  refine ⟨fun name table found => ?_, fun name table column position found at_ => ?_,
    fun items source position length => ?_, fun items source results selected => ?_⟩
  · have ok := typed name table found
    refine ⟨ok.columns, fun row inside => ?_⟩
    exact ⟨(width (ok.rows row inside)).trans ok.columns, ok.rows row inside⟩
  · exact (typed name table found).position_lt at_
  · rw [Store.select_eq]
    split
    · exact Table.single_wellTyped.select_inBounds items position length
    · split
      · next table found =>
        exact (typed _ table found).select_inBounds items position length
      · nofun
  · -- what holds of every selection from a well-typed table
    have shape {table : Table} (ok : table.WellTyped) (h : table.select items = .ok results) :
        results.columns.map (·.name) = items.map (·.value) ∧
          (∀ row ∈ results.rows, row.length = results.columns.length ∧
            row.map Cell.datatype = results.columns.map (·.datatype)) ∧
          results.rows.length = table.rows.size := by
      rcases ok.select items with ⟨error, failed, -⟩ | ⟨results', selected', names, count, types⟩
      · rw [failed] at h
        cases h
      · rw [selected'] at h
        cases h
        refine ⟨names, fun row inside => ⟨?_, types row inside⟩, count⟩
        rw [width (types row inside), List.length_map]
    rw [Store.select_eq] at selected
    cases source with
    | none => exact shape Table.single_wellTyped selected
    | some name =>
      cases found : store.table? name.value with
      | none =>
        simp only [found] at selected
        cases selected
      | some table =>
        simp only [found] at selected
        obtain ⟨names, rows, count⟩ := shape (typed _ table found) selected
        exact ⟨names, rows, table, found, count⟩

end SqlShell
