import SqlShell.Proofs.Store.Literals

/-!
# What a statement does to a store

`Store.Step` gives one rule for each statement that succeeds, with all that must hold of the store
and of the statement, and `execute_eq_ok_iff` says that a statement succeeds exactly by one of the
rules. A statement that fails leaves the store as it found it (`execute_eq_error`).

A run executes statements in order and goes on after those that fail. What one step preserves, a run
preserves (`afterAll_induction`).
-/

namespace SqlShell

/-- A statement that succeeds on a store, what it yields, and the store it leaves. -/
inductive Store.Step (store : Store) : Statement → Outcome → Store → Prop where
  | create {name : Token} {definitions : List ColumnDefinition} {table : Table}
      (columns : table.columns = definitions.map (·.name.value))
      (datatypes : table.datatypes.map Datatype.name = definitions.map (·.datatype.value))
      (rows : table.rows = #[]) :
      Step store (.createTable name definitions) (.created name.value table.columns.length)
        (store.put name.value table)
  | insert {name : Token} {values : List Token} {table : Table} {row : List Cell}
      (found : store.table? name.value = some table)
      (count : values.length = table.columns.length)
      (made : cellsFor table.datatypes values = .ok row) :
      Step store (.insert name values) (.inserted name.value (table.rows.size + 1))
        (store.put name.value { table with rows := table.rows.push row })
  | select {items : List Token} {source : Option Token} {results : Results}
      (selected : store.select items source = .ok results) :
      Step store (.select items source) (.selected results) store

namespace Store

variable {store : Store}

/-! ## One statement -/

theorem execute_createTable (name : Token) (definitions : List ColumnDefinition) :
    store.execute (.createTable name definitions) =
      match Table.ofDefinitions definitions with
      | .ok table => .ok (.created name.value table.columns.length) (store.put name.value table)
      | .error error => .error error store := by
  simp only [execute, Statement.execution, Execution.create]
  cases Table.ofDefinitions definitions <;> rfl

theorem execute_insert (name : Token) (values : List Token) :
    store.execute (.insert name values) =
      match store.table? name.value with
      | none => .error (.unknownTable name.value) store
      | some table =>
        if values.length = table.columns.length then
          match cellsFor table.datatypes values with
          | .ok row => .ok (.inserted name.value (table.rows.size + 1))
              (store.put name.value { table with rows := table.rows.push row })
          | .error error => .error error store
        else
          .error (.valueCount table.columns.length values.length) store := by
  have opened : store.execute (.insert name values) =
      ((MonadExcept.ofExcept (store.find name) : Execution Table) >>= fun table => do
        if values.length ≠ table.columns.length then
          throw (.valueCount table.columns.length values.length)
        let row ← MonadExcept.ofExcept (cellsFor table.datatypes values)
        let table := { table with rows := table.rows.push row }
        modify (·.put name.value table)
        return .inserted name.value table.rows.size).run store := rfl
  rw [opened, find]
  cases store.table? name.value with
  | none => rfl
  | some table =>
    have reached : (MonadExcept.ofExcept (.ok table) : Execution Table) = pure table := rfl
    by_cases count : values.length = table.columns.length
    · -- past the guard, only the literals can still be wrong
      simp only [reached, pure_bind, count, ne_eq, not_true_eq_false, ↓reduceIte, Array.size_push]
      cases cellsFor table.datatypes values <;> rfl
    · simp only [reached, pure_bind, count, ne_eq, not_false_eq_true, ↓reduceIte]
      rfl

theorem execute_select (items : List Token) (source : Option Token) :
    store.execute (.select items source) =
      match store.select items source with
      | .ok results => .ok (.selected results) store
      | .error error => .error error store := by
  have opened : store.execute (.select items source) =
      ((MonadExcept.ofExcept (store.select items source) : Execution Results) >>=
        fun results => return .selected results).run store := rfl
  rw [opened]
  cases store.select items source <;> rfl

theorem step_of_execute_eq_ok {statement : Statement} {outcome : Outcome} {after : Store}
    (h : store.execute statement = .ok outcome after) : store.Step statement outcome after := by
  cases statement with
  | createTable name definitions =>
    rw [execute_createTable] at h
    split at h
    · next table built =>
      cases h
      obtain ⟨columns, datatypes, rows⟩ := ofDefinitions_eq_ok_iff.1 built
      exact .create columns datatypes rows
    · cases h
  | insert name values =>
    rw [execute_insert] at h
    split at h
    · cases h
    · next table found =>
      split at h
      · next count =>
        split at h
        · next row made =>
          cases h
          exact .insert found count made
        · cases h
      · cases h
  | select items source =>
    rw [execute_select] at h
    split at h
    · next results selected =>
      cases h
      exact .select selected
    · cases h

theorem execute_eq_ok_of_step {statement : Statement} {outcome : Outcome} {after : Store}
    (h : store.Step statement outcome after) : store.execute statement = .ok outcome after := by
  cases h with
  | create columns datatypes rows =>
    rw [execute_createTable, ofDefinitions_eq_ok_iff.2 ⟨columns, datatypes, rows⟩]
  | insert found count made =>
    simp only [execute_insert, found, count, ↓reduceIte, made]
  | select selected => rw [execute_select, selected]

/-- The interpreter follows the rules. -/
theorem execute_eq_ok_iff {statement : Statement} {outcome : Outcome} {after : Store} :
    store.execute statement = .ok outcome after ↔ store.Step statement outcome after :=
  ⟨step_of_execute_eq_ok, execute_eq_ok_of_step⟩

/-- A statement that fails, at whichever stage, leaves the store as it found it. -/
theorem execute_eq_error {statement : Statement} {error : ExecutionError} {after : Store}
    (h : store.execute statement = .error error after) : after = store := by
  cases statement with
  | createTable name definitions =>
    rw [execute_createTable] at h
    split at h
    · cases h
    · cases h; rfl
  | insert name values =>
    rw [execute_insert] at h
    split at h
    · cases h; rfl
    · split at h
      · split at h
        · cases h
        · cases h; rfl
      · cases h; rfl
  | select items source =>
    rw [execute_select] at h
    split at h
    · cases h
    · cases h; rfl

/-- Whether a statement succeeds. -/
def Accepts (store : Store) (statement : Statement) : Prop :=
  ∃ outcome after, store.execute statement = .ok outcome after

theorem accepts_or_rejects (store : Store) (statement : Statement) :
    (∃ outcome, store.Step statement outcome (store.after statement)) ∨
      ¬ store.Accepts statement ∧ store.after statement = store := by
  cases executed : store.execute statement with
  | ok outcome after =>
    have left : store.after statement = after := by rw [Store.after, executed]
    exact .inl ⟨outcome, left ▸ execute_eq_ok_iff.1 executed⟩
  | error error after =>
    have left : store.after statement = after := by rw [Store.after, executed]
    refine .inr ⟨?_, left.trans (execute_eq_error executed)⟩
    rintro ⟨outcome, after', succeeded⟩
    rw [executed] at succeeded
    cases succeeded

instance (store : Store) (statement : Statement) : Decidable (store.Accepts statement) :=
  match executed : store.execute statement with
  | .ok outcome after => isTrue ⟨outcome, after, executed⟩
  | .error _ _ => isFalse fun ⟨_, _, succeeded⟩ => nomatch executed.symm.trans succeeded

theorem Step.accepts {statement : Statement} {outcome : Outcome} {after : Store}
    (h : store.Step statement outcome after) : store.Accepts statement :=
  ⟨outcome, after, execute_eq_ok_iff.2 h⟩

theorem after_of_not_accepts {statement : Statement} (h : ¬ store.Accepts statement) :
    store.after statement = store := by
  rcases store.accepts_or_rejects statement with ⟨outcome, step⟩ | ⟨-, same⟩
  · exact absurd step.accepts h
  · exact same

/-- What comes of a statement: what it yields, or why it fails. -/
def answer (store : Store) (statement : Statement) : Except ExecutionError Outcome :=
  match store.execute statement with
  | .ok outcome _ => .ok outcome
  | .error error _ => .error error

/-- A statement comes to an answer and to the store after it, which is the old one if it fails. -/
theorem execute_eq (statement : Statement) :
    store.execute statement = match store.answer statement with
      | .ok outcome => .ok outcome (store.after statement)
      | .error error => .error error store := by
  rw [answer, after]
  cases executed : store.execute statement with
  | ok outcome after => rfl
  | error error after => rw [execute_eq_error executed]

theorem accepts_iff {statement : Statement} :
    store.Accepts statement ↔ ∃ outcome, store.answer statement = .ok outcome := by
  rw [Accepts, execute_eq]
  cases store.answer statement <;> simp

/-! ## Runs -/

/-- The statements of a run with what comes of each. A run goes on after those that fail. -/
def answers (store : Store) : List Statement → List (Statement × Except ExecutionError Outcome)
  | [] => []
  | statement :: rest =>
    (statement, store.answer statement) :: (store.after statement).answers rest

/-- The store after statements in order, those that fail included. -/
def afterAll (store : Store) (statements : List Statement) : Store :=
  statements.foldl Store.after store

@[simp] theorem afterAll_nil : store.afterAll [] = store := rfl

@[simp] theorem afterAll_cons (statement : Statement) (statements : List Statement) :
    store.afterAll (statement :: statements) = (store.after statement).afterAll statements := rfl

theorem answers_append (front back : List Statement) :
    store.answers (front ++ back) =
      store.answers front ++ (store.afterAll front).answers back := by
  induction front generalizing store with
  | nil => rfl
  | cons statement front ih =>
    rw [List.cons_append, answers, answers, ih, afterAll_cons, List.cons_append]

/-- What every step that succeeds preserves holds after any run. -/
theorem afterAll_induction {Inv : Store → Prop}
    (preserved : ∀ {store statement outcome after}, Inv store →
      Step store statement outcome after → Inv after)
    (start : Inv store) (statements : List Statement) : Inv (store.afterAll statements) := by
  induction statements generalizing store with
  | nil => exact start
  | cons statement statements ih =>
    apply ih
    rcases store.accepts_or_rejects statement with ⟨outcome, step⟩ | ⟨-, same⟩
    · exact preserved start step
    · rw [same]
      exact start

/-! ## Where a script stops -/

/-- Every statement succeeds on the store that the ones before it leave. -/
def AcceptsAll (store : Store) : List Statement → Prop
  | [] => True
  | statement :: rest => store.Accepts statement ∧ (store.after statement).AcceptsAll rest

/-- The statements of a script up to the first that fails, and its error. -/
structure StopsAt (store : Store) (script before : List Statement) (error : ExecutionError) :
    Prop where
  accepts : store.AcceptsAll before
  rejects : ∃ statement later, script = before ++ statement :: later ∧
    (store.afterAll before).execute statement = .error error (store.afterAll before)

theorem StopsAt.exists_failure {script before : List Statement} {error : ExecutionError}
    (stops : store.StopsAt script before error) :
    ∃ failed later, script = before ++ failed :: later ∧
      (store.afterAll before).answer failed = .error error := by
  obtain ⟨failed, later, split, rejects⟩ := stops.rejects
  exact ⟨failed, later, split, by rw [answer, rejects]⟩

theorem acceptsAll_or_stopsAt (store : Store) (script : List Statement) :
    store.AcceptsAll script ∨ ∃ before error, store.StopsAt script before error := by
  induction script generalizing store with
  | nil => exact .inl trivial
  | cons statement script ih =>
    cases executed : store.execute statement with
    | error error after =>
      refine .inr ⟨[], error, trivial, statement, script, rfl, ?_⟩
      rw [afterAll_nil, executed, execute_eq_error executed]
    | ok outcome after =>
      have accepts : store.Accepts statement := ⟨outcome, after, executed⟩
      rcases ih (store.after statement) with all | ⟨before, error, stops⟩
      · exact .inl ⟨accepts, all⟩
      · obtain ⟨other, later, rfl, rejects⟩ := stops.rejects
        exact .inr ⟨statement :: before, error, ⟨accepts, stops.accepts⟩, other, later, rfl, rejects⟩

end Store

end SqlShell
