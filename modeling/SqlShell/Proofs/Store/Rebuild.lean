import SqlShell.Proofs.Printing.RoundTrip
import SqlShell.Proofs.Session.Batch
import SqlShell.Proofs.Store.Spelled

/-!
# Rebuilding a table from its text

A table is written as a script: a `CREATE TABLE` with its columns, and an `INSERT` for each of its
rows, whose cells are written as literals. When the cells are spelled, the script is well formed, so
its text is read back as the same script; and running it makes the same table under any name and in
any store. Stores that source texts make have only such tables.
-/

namespace SqlShell

open Token (IsNumeral)

/-! ## Literals -/

/-- The literal that stands for a cell. -/
def Cell.literal : Cell → Token
  | .int value => { kind := .numeric, value := toString value.toInt }
  | .text value => { kind := .string, value }

theorem isNumeral_toDigits (n : Nat) : IsNumeral (Nat.toDigits 10 n) :=
  .plain (.whole (isDecimal_toDigits n).digit (isDecimal_toDigits n).nonempty)

theorem Cell.Spelled.literal_denotes {cell : Cell} (h : cell.Spelled) :
    cell.literal.Denotes cell := by
  cases cell with
  | int value => exact .numeral rfl (integer?_toString value)
  | text value => exact .string rfl

theorem Cell.Spelled.literal_isExpression {cell : Cell} (h : cell.Spelled) :
    cell.literal.IsExpression := by
  cases cell with
  | int value =>
    have nonneg : 0 ≤ value.toInt := h
    refine .inr (.inr ⟨rfl, ?_⟩)
    show IsNumeral (toString value.toInt).toList
    rw [Int.toString_eq_repr, Int.repr_eq_if, if_pos nonneg, Nat.toList_repr]
    exact isNumeral_toDigits _
  | text value => exact .inr (.inl rfl)

/-! ## Tables as scripts -/

def nameToken (name : String) : Token :=
  { kind := .identifier, value := name }

/-- A column definition with a name and the word for a type. -/
def definitionOf (column : String × Datatype) : ColumnDefinition :=
  { name := nameToken column.1, datatype := { kind := .keyword, value := column.2.name } }

namespace Table

def creation (table : Table) (name : String) : Statement :=
  .createTable (nameToken name) ((table.columns.zip table.datatypes).map definitionOf)

def insertion (name : String) (row : List Cell) : Statement :=
  .insert (nameToken name) (row.map Cell.literal)

/-- The statements that make a table under a name: one for the table, and one for each row. -/
def rebuilding (table : Table) (name : String) : Script :=
  table.creation name :: table.rows.toList.map (insertion name)

theorem rebuilding_wellFormed {table : Table} (spelled : AllSpelled table.rows.toList)
    (name : String) : (table.rebuilding name).WellFormed := by
  intro statement inside
  rcases List.mem_cons.1 inside with rfl | inside
  · refine ⟨rfl, fun column member => ?_⟩
    obtain ⟨⟨columnName, datatype⟩, -, rfl⟩ := List.mem_map.1 member
    refine ⟨rfl, rfl, ?_⟩
    cases datatype with
    | int => exact ⟨.int, rfl⟩
    | text => exact ⟨.text, rfl⟩
  · obtain ⟨row, stored, rfl⟩ := List.mem_map.1 inside
    refine ⟨rfl, fun value member => ?_⟩
    obtain ⟨cell, held, rfl⟩ := List.mem_map.1 member
    exact (spelled row stored cell held).literal_isExpression

/-! ## Running them -/

theorem step_creation {table : Table} (typed : table.WellTyped) (name : String) (store : Store) :
    ∃ outcome, store.Step (table.creation name) outcome
      (store.put name { table with rows := #[] }) := by
  refine ⟨_, @Store.Step.create store (nameToken name) _ { table with rows := #[] } ?_ ?_ rfl⟩
  · rw [List.map_map]
    exact (List.map_fst_zip typed.columns.ge).symm
  · have types := List.map_snd_zip typed.columns.le
    rw [List.map_map, ← types, List.map_map, types]
    rfl

theorem step_insertion {store : Store} {name : String} {table : Table} (typed : table.WellTyped)
    (found : store.table? name = some table) {row : List Cell}
    (types : row.map Cell.datatype = table.datatypes) (spelled : ∀ cell ∈ row, cell.Spelled) :
    ∃ outcome, store.Step (insertion name row) outcome
      (store.put name { table with rows := table.rows.push row }) := by
  have width : (row.map Cell.literal).length = table.datatypes.length := by
    rw [← types, List.length_map, List.length_map]
  have denotes : List.Forall₂ Token.Denotes (row.map Cell.literal) row := by
    rw [List.forall₂_map_left_iff, List.forall₂_same]
    exact fun cell inside => (spelled cell inside).literal_denotes
  exact ⟨_, @Store.Step.insert store (nameToken name) _ table row found (width.trans typed.columns)
    ((cellsFor_eq_ok_iff width).2 ⟨denotes, types⟩)⟩

/-- Inserting rows one after the other puts them behind the rows that are there. -/
theorem afterAll_insertions {name : String} {rows : List (List Cell)} {store : Store} {table : Table}
    (typed : table.WellTyped) (found : store.table? name = some table)
    (types : ∀ row ∈ rows, row.map Cell.datatype = table.datatypes) (spelled : AllSpelled rows) :
    store.AcceptsAll (rows.map (insertion name)) ∧
      ∀ other, (store.afterAll (rows.map (insertion name))).table? other =
        if name = other then some { table with rows := table.rows ++ rows.toArray }
        else store.table? other := by
  induction rows generalizing store table with
  | nil =>
    refine ⟨trivial, fun other => ?_⟩
    split
    · next same => simp [← same, found]
    · rfl
  | cons row rows ih =>
    have typesRow := types row List.mem_cons_self
    obtain ⟨outcome, step⟩ := step_insertion typed found typesRow (spelled row List.mem_cons_self)
    have after : store.after (insertion name row) =
        store.put name { table with rows := table.rows.push row } := by
      rw [Store.after, Store.execute_eq_ok_iff.2 step]
    have found' : (store.after (insertion name row)).table? name =
        some { table with rows := table.rows.push row } := by simp [after]
    obtain ⟨accepts, tables⟩ := ih (typed.push typesRow) found'
      (fun other inside => types other (List.mem_cons_of_mem _ inside))
      (fun other inside => spelled other (List.mem_cons_of_mem _ inside))
    refine ⟨⟨step.accepts, accepts⟩, fun other => ?_⟩
    rw [List.map_cons, Store.afterAll_cons, tables]
    split
    · simp
    · next different => simp [after, different]

/-- The script of a table makes that table under its name, and leaves the others alone. -/
theorem afterAll_rebuilding {table : Table} (typed : table.WellTyped)
    (spelled : AllSpelled table.rows.toList) (name : String) (store : Store) :
    store.AcceptsAll (table.rebuilding name) ∧
      ∀ other, (store.afterAll (table.rebuilding name)).table? other =
        if name = other then some table else store.table? other := by
  obtain ⟨outcome, step⟩ := step_creation typed name store
  have after : store.after (table.creation name) = store.put name { table with rows := #[] } := by
    rw [Store.after, Store.execute_eq_ok_iff.2 step]
  have found : (store.after (table.creation name)).table? name =
      some { table with rows := #[] } := by simp [after]
  have empty : Table.WellTyped { table with rows := #[] } := ⟨typed.columns, by simp⟩
  obtain ⟨accepts, tables⟩ := afterAll_insertions empty found typed.rows spelled
  refine ⟨⟨step.accepts, accepts⟩, fun other => ?_⟩
  rw [rebuilding, Store.afterAll_cons, tables]
  split
  · simp
  · next different => simp [after, different]

end Table

/-- What the text of a table does when a shell runs it. -/
theorem effect_rebuilding {table : Table} (typed : table.WellTyped)
    (spelled : AllSpelled table.rows.toList) (settings : Settings) (store : Store) (name : String) :
    let effect := (Shell.runScript settings (table.rebuilding name).toSql).effect store
    effect.result = .ok () ∧ ∀ other, effect.store.table? other =
      if name = other then some table else store.table? other := by
  obtain ⟨parsed, read, agrees⟩ := (Table.rebuilding_wellFormed spelled name).parse_toSql
  obtain ⟨accepts, tables⟩ := Table.afterAll_rebuilding typed spelled name store
  obtain ⟨succeeded, final⟩ := Shell.effect_runStatements_accepted settings accepts
  simp only [Shell.effect_runScript, read, Shell.effect_runStatements_of_agrees settings agrees]
  exact ⟨succeeded, fun other => by rw [final, tables]⟩

/-- What source texts can store, a source text can rebuild. After any texts, run statement by
statement from the empty store:

* every integer in a table, and in the result of a selection that a further text asks for behind
  other statements, is between zero and 2147483647;
* the text of any table, under any name and on any store, runs without a failure and makes the same
  table under that name, and the tables of other names are as before. -/
theorem texts_rebuild_what_texts_store (texts : List String) :
    let store := Store.empty.afterTexts texts
    (∀ name table, store.table? name = some table → ∀ row ∈ table.rows.toList,
      ∀ value, .int value ∈ row → 0 ≤ value.toInt ∧ value.toInt ≤ 2147483647) ∧
    (∀ text before items source later results,
      Script.parse text = .ok (before ++ .select items source :: later) →
      (store.afterAll before).select items source = .ok results → ∀ row ∈ results.rows,
        ∀ value, .int value ∈ row → 0 ≤ value.toInt ∧ value.toInt ≤ 2147483647) ∧
    ∀ original table, store.table? original = some table →
      ∀ (settings : Settings) (target : Store) (name : String),
        let effect := (Shell.runScript settings (table.rebuilding name).toSql).effect target
        effect.result = .ok () ∧ effect.store.table? name = some table ∧
          ∀ other, other ≠ name → effect.store.table? other = target.table? other := by
  intro store
  have textual : store.Textual := Store.textual_empty.afterTexts texts
  have bounds {rows : List (List Cell)} (spelled : AllSpelled rows) :
      ∀ row ∈ rows, ∀ value, .int value ∈ row → 0 ≤ value.toInt ∧ value.toInt ≤ 2147483647 :=
    fun row stored value inside =>
      ⟨spelled row stored _ inside, Int.le_of_lt_add_one value.toInt_lt⟩
  refine ⟨fun name table found => bounds (textual.spelled name table found), ?_, ?_⟩
  · intro text before items source later results read selected
    have wellFormed := Script.wellFormed_of_parse read
    have before' := textual.afterAll fun statement inside =>
      wellFormed statement (List.mem_append_left _ inside)
    exact bounds (before'.select (wellFormed _ (by simp)) selected)
  · intro original table found settings target name effect
    obtain ⟨succeeded, tables⟩ := effect_rebuilding (textual.typed original table found)
      (textual.spelled original table found) settings target name
    refine ⟨succeeded, by simp [effect, tables], fun other different => ?_⟩
    simp [effect, tables, different.symm]

end SqlShell
