import SqlShell.Proofs.Store.WellTyped

/-!
# The store replays what succeeded

The log of a run is the list of its statements that succeeded. A table can be read off the log: the
last `CREATE TABLE` of its name decides the columns, and the `INSERT`s into it behind that one are
its rows (`Table.RecordedIn`). Statements that failed, and selections, play no part.

The step lemma is `records_step`: whatever statement is added to the log, the store it leaves is
still the one that the log tells.
-/

namespace SqlShell

/-- The statements of a run that succeed, in order. -/
def Store.accepted (store : Store) : List Statement → List Statement
  | [] => []
  | statement :: rest =>
    if store.Accepts statement then statement :: (store.after statement).accepted rest
    else (store.after statement).accepted rest

namespace Statement

def Creates (name : String) : Statement → Prop
  | createTable token _ => token.value = name
  | insert .. | select .. => False

/-- The values that a statement inserts into the table of a name. -/
def valuesInto? (name : String) : Statement → Option (List Token)
  | insert token values => if token.value = name then some values else none
  | createTable .. | select .. => none

def isSelect : Statement → Bool
  | select .. => true
  | createTable .. | insert .. => false

end Statement

/-- The table of a name as a log tells it. -/
def Table.RecordedIn (table : Table) (name : String) (log : List Statement) : Prop :=
  ∃ earlier token definitions later,
    log = earlier ++ .createTable token definitions :: later ∧ token.value = name ∧
    (∀ statement ∈ later, ¬ statement.Creates name) ∧
    table.columns = definitions.map (·.name.value) ∧
    table.datatypes.map Datatype.name = definitions.map (·.datatype.value) ∧
    List.Forall₂ (List.Forall₂ Token.Denotes) (later.filterMap (·.valuesInto? name))
      table.rows.toList

/-- What a store holds under a name is what a log tells. -/
def Records (name : String) (log : List Statement) : Option Table → Prop
  | none => ∀ statement ∈ log, ¬ statement.Creates name
  | some table => table.RecordedIn name log

/-! ## One more statement -/

theorem Records.keep {name : String} {log : List Statement} {found : Option Table}
    {statement : Statement} (h : Records name log found) (created : ¬ statement.Creates name)
    (inserted : statement.valuesInto? name = none) : Records name (log ++ [statement]) found := by
  cases found with
  | none =>
    intro other inside
    rcases List.mem_append.1 inside with old | new
    · exact h other old
    · exact List.mem_singleton.1 new ▸ created
  | some table =>
    obtain ⟨earlier, token, definitions, later, rfl, named, last, columns, datatypes, rows⟩ := h
    refine ⟨earlier, token, definitions, later ++ [statement], by simp, named, ?_, columns,
      datatypes, ?_⟩
    · intro other inside
      rcases List.mem_append.1 inside with old | new
      · exact last other old
      · exact List.mem_singleton.1 new ▸ created
    · simpa [List.filterMap_append, inserted] using rows

theorem Table.RecordedIn.insert {table : Table} {name : Token} {log : List Statement}
    (h : table.RecordedIn name.value log) {values : List Token} {row : List Cell}
    (denotes : List.Forall₂ Token.Denotes values row) :
    Table.RecordedIn { table with rows := table.rows.push row } name.value
      (log ++ [.insert name values]) := by
  obtain ⟨earlier, token, definitions, later, rfl, named, last, columns, datatypes, rows⟩ := h
  refine ⟨earlier, token, definitions, later ++ [.insert name values], by simp, named, ?_, columns,
    datatypes, ?_⟩
  · intro other inside
    rcases List.mem_append.1 inside with old | new
    · exact last other old
    · exact List.mem_singleton.1 new ▸ id
  · rw [List.filterMap_append, Array.toList_push]
    apply List.rel_append rows
    simpa [Statement.valuesInto?] using denotes

theorem records_step {store after : Store} {log : List Statement} {statement : Statement}
    {outcome : Outcome} (typed : store.WellTyped)
    (h : ∀ name, Records name log (store.table? name))
    (step : store.Step statement outcome after) (name : String) :
    Records name (log ++ [statement]) (after.table? name) := by
  cases step with
  | @create token definitions table columns datatypes rows =>
    rw [Store.table?_put]
    split
    · next same =>
      -- the new table starts afresh: nothing stands behind it in the log
      exact ⟨log, token, definitions, [], rfl, same, by simp, columns, datatypes, by simp [rows]⟩
    · next other => exact (h name).keep other rfl
  | @insert token values table row found count made =>
    have fits := (cellsFor_eq_ok_iff (count.trans (typed _ table found).columns.symm)).1 made
    have known := h token.value
    rw [found] at known
    rw [Store.table?_put]
    split
    · next same =>
      subst same
      exact Table.RecordedIn.insert known fits.1
    · next other => exact (h name).keep id (if_neg other)
  | select => exact (h name).keep id rfl

/-! ## Runs -/

theorem records_afterAll {store : Store} {log : List Statement} (typed : store.WellTyped)
    (h : ∀ name, Records name log (store.table? name)) (statements : List Statement)
    (name : String) :
    Records name (log ++ store.accepted statements) ((store.afterAll statements).table? name) := by
  induction statements generalizing store log with
  | nil => simpa [Store.accepted] using h name
  | cons statement statements ih =>
    rw [Store.accepted, Store.afterAll_cons]
    rcases store.accepts_or_rejects statement with ⟨outcome, step⟩ | ⟨rejected, same⟩
    · have more := ih (step.wellTyped typed) (records_step typed h step)
      rw [if_pos step.accepts]
      rwa [List.append_assoc, List.singleton_append] at more
    · rw [if_neg rejected, same]
      exact ih typed h

/-- Statements that fail and selections may be left out of a run. -/
theorem afterAll_writes (store : Store) (statements : List Statement) :
    store.afterAll ((store.accepted statements).filter (!·.isSelect)) =
      store.afterAll statements := by
  induction statements generalizing store with
  | nil => rfl
  | cons statement statements ih =>
    rw [Store.accepted, Store.afterAll_cons]
    rcases store.accepts_or_rejects statement with ⟨outcome, step⟩ | ⟨rejected, same⟩
    · rw [if_pos step.accepts, ← ih]
      generalize left : store.after statement = after at step
      cases step with
      | create | insert =>
        simp only [Statement.isSelect, Bool.not_false, List.filter_cons_of_pos,
          Store.afterAll_cons, left]
      | select => simp [Statement.isSelect]
    · rw [if_neg rejected, same, ih]

theorem after_of_isSelect {store : Store} {statement : Statement} (h : statement.isSelect = true) :
    store.after statement = store := by
  rcases store.accepts_or_rejects statement with ⟨outcome, step⟩ | ⟨-, same⟩
  · generalize store.after statement = after at step
    cases step with
    | create | insert => cases h
    | select => rfl
  · exact same

/-! ## What succeeds -/

theorem accepts_createTable_iff (store : Store) (name : Token)
    (definitions : List ColumnDefinition) :
    store.Accepts (.createTable name definitions) ↔ ∀ definition ∈ definitions,
      definition.datatype.value = "int" ∨ definition.datatype.value = "text" := by
  rw [← exists_ofDefinitions_iff, Store.Accepts, Store.execute_createTable]
  constructor
  · rintro ⟨outcome, after, executed⟩
    split at executed
    · next table built => exact ⟨table, built⟩
    · cases executed
  · rintro ⟨table, built⟩
    exact ⟨_, _, by rw [built]⟩

theorem accepts_insert_iff {store : Store} (typed : store.WellTyped) (name : Token)
    (values : List Token) :
    store.Accepts (.insert name values) ↔ ∃ table, store.table? name.value = some table ∧
      values.length = table.columns.length ∧ List.Forall₂ Token.Fits values table.datatypes := by
  constructor
  · rintro ⟨outcome, after, executed⟩
    cases Store.execute_eq_ok_iff.1 executed with
    | @insert _ _ table row found count made =>
      have width := count.trans (typed _ table found).columns.symm
      exact ⟨table, found, count, (exists_cellsFor_iff width).1 ⟨row, made⟩⟩
  · rintro ⟨table, found, count, fits⟩
    have width := count.trans (typed _ table found).columns.symm
    obtain ⟨row, made⟩ := (exists_cellsFor_iff width).2 fits
    exact (Store.Step.insert found count made).accepts

/-- The store is the replay of the statements that succeeded, and those that fail leave no trace.

* There is no table of a name exactly when no `CREATE TABLE` of that name has succeeded. Otherwise
  the table has the columns and types of the last one, and its rows are, in order, the cells that
  the `INSERT`s into that name stand for that succeeded after it.
* A `CREATE TABLE` succeeds exactly when each type is `int` or `text`; an `INSERT`, when the table
  exists, there are as many values as columns, and each literal fits its column.
* A statement that fails and a selection leave the store as it was, so a run may leave them out. -/
theorem store_replays_successful_writes (statements : List Statement) :
    let log := Store.empty.accepted statements
    let store := Store.empty.afterAll statements
    (∀ name, store.table? name = none ↔ ∀ statement ∈ log, ¬ statement.Creates name) ∧
    (∀ name table, store.table? name = some table →
      ∃ earlier token definitions later,
        log = earlier ++ .createTable token definitions :: later ∧ token.value = name ∧
        (∀ statement ∈ later, ¬ statement.Creates name) ∧
        table.columns = definitions.map (·.name.value) ∧
        table.datatypes.map Datatype.name = definitions.map (·.datatype.value) ∧
        List.Forall₂ (List.Forall₂ Token.Denotes) (later.filterMap (·.valuesInto? name))
          table.rows.toList) ∧
    (∀ name definitions, store.Accepts (.createTable name definitions) ↔
      ∀ definition ∈ definitions,
        definition.datatype.value = "int" ∨ definition.datatype.value = "text") ∧
    (∀ name values, store.Accepts (.insert name values) ↔
      ∃ table, store.table? name.value = some table ∧ values.length = table.columns.length ∧
        List.Forall₂ Token.Fits values table.datatypes) ∧
    (∀ statement, (¬ store.Accepts statement ∨ statement.isSelect = true) →
      store.after statement = store) ∧
    Store.empty.afterAll (log.filter (!·.isSelect)) = store := by
  intro log store
  have typed : store.WellTyped := Store.wellTyped_afterAll statements
  have records (name : String) : Records name log (store.table? name) := by
    have start : ∀ name, Records name [] (Store.empty.table? name) := by
      intro name
      rw [Store.table?_empty]
      exact fun _ inside => nomatch inside
    exact records_afterAll (Store.wellTyped_afterAll []) start statements name
  refine ⟨fun name => ?_, fun name table found => ?_, accepts_createTable_iff store,
    accepts_insert_iff typed, fun statement => ?_, afterAll_writes _ statements⟩
  · have known := records name
    cases found : store.table? name with
    | none =>
      rw [found] at known
      exact iff_of_true rfl known
    | some table =>
      rw [found] at known
      obtain ⟨earlier, token, definitions, later, split, named, -⟩ := known
      refine iff_of_false nofun fun never => ?_
      have inside : .createTable token definitions ∈ log := by simp [split]
      exact never _ inside named
  · have known := records name
    rwa [found] at known
  · rintro (rejected | selects)
    · exact Store.after_of_not_accepts rejected
    · exact after_of_isSelect selects

end SqlShell
