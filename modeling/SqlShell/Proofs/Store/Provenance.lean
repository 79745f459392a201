import SqlShell.Proofs.Grammar.Leaves
import SqlShell.Proofs.Store.Resolution
import SqlShell.Proofs.Store.Steps

/-!
# Where cells and errors come from

A statement makes nothing up. The cells that it puts into a store, or yields, were in the store before
or are what its literals stand for (`Store.AllCells.step`, `Store.AllCells.yielded`). An error quotes
no text but that of one of the statement's tokens (`quotes_of_execute`).
-/

namespace SqlShell

/-! ## Cells -/

/-- All cells of some rows have a property. -/
def AllCells (P : Cell → Prop) (rows : List (List Cell)) : Prop :=
  ∀ row ∈ rows, ∀ cell ∈ row, P cell

/-- All cells of a store have a property. -/
def Store.AllCells (P : Cell → Prop) (store : Store) : Prop :=
  ∀ name table, store.table? name = some table → SqlShell.AllCells P table.rows.toList

/-- The tokens of a statement that are stored or selected. -/
def Statement.expressions : Statement → List Token
  | .createTable .. => []
  | .insert _ values => values
  | .select items _ => items

/-- What the literals of a statement stand for has a property. -/
def Statement.AllDenote (P : Cell → Prop) (statement : Statement) : Prop :=
  ∀ token ∈ statement.expressions, ∀ cell, token.Denotes cell → P cell

section

variable {P : Cell → Prop} {store : Store}

theorem Store.allCells_empty : Store.empty.AllCells P := by
  intro name table found
  rw [Store.table?_empty] at found
  cases found

theorem Store.AllCells.put (h : store.AllCells P) (name : String) {table : Table}
    (cells : SqlShell.AllCells P table.rows.toList) : (store.put name table).AllCells P := by
  intro other found put
  rw [Store.table?_put] at put
  split at put
  · cases put
    exact cells
  · exact h other found put

theorem denotes_of_mem_cellsFor {datatypes : List Datatype} {values : List Token} {row : List Cell}
    (made : cellsFor datatypes values = .ok row) {cell : Cell} (inside : cell ∈ row) :
    ∃ value ∈ values, value.Denotes cell := by
  obtain ⟨⟨value, datatype⟩, paired, fits⟩ := exists_of_mem_of_mapM_eq_ok made cell inside
  exact ⟨value, (List.of_mem_zip paired).1, (forColumn_eq_ok_iff.1 (liftFault_eq_ok_iff.1 fits)).1⟩

theorem Store.AllCells.step {after : Store} {statement : Statement} {outcome : Outcome}
    (h : store.AllCells P) (literals : statement.AllDenote P)
    (step : store.Step statement outcome after) : after.AllCells P := by
  cases step with
  | create columns datatypes rows => exact h.put _ (by simp [SqlShell.AllCells, rows])
  | @insert name values table row found count made =>
    refine h.put _ fun other inside => ?_
    rw [Array.toList_push, List.mem_append, List.mem_singleton] at inside
    rcases inside with old | rfl
    · exact h name.value table found other old
    · intro cell inside
      obtain ⟨value, known, denotes⟩ := denotes_of_mem_cellsFor made inside
      exact literals value known cell denotes
  | select => exact h

theorem Store.AllCells.afterAll {script : List Statement} (h : store.AllCells P)
    (literals : ∀ statement ∈ script, statement.AllDenote P) : (store.afterAll script).AllCells P := by
  induction script generalizing store with
  | nil => exact h
  | cons statement script ih =>
    have ⟨here, behind⟩ := List.forall_mem_cons.1 literals
    rcases store.accepts_or_rejects statement with ⟨outcome, step⟩ | ⟨-, same⟩
    · exact ih (h.step here step) behind
    · rw [Store.afterAll_cons, same]
      exact ih h behind

/-- A cell that is selected is one of the table, or a literal of the selection. -/
theorem allCells_of_select {table : Table} {items : List Token} {results : Results}
    (literals : ∀ item ∈ items, ∀ cell, item.Denotes cell → P cell)
    (cells : AllCells P table.rows.toList) (h : table.select items = .ok results) :
    AllCells P results.rows := by
  obtain ⟨resolved, named, -, read⟩ := Table.select_eq_ok h
  intro cells' inside cell member
  obtain ⟨row, stored, projected⟩ := exists_of_mem_of_mapM_eq_ok read cells' inside
  obtain ⟨part, inside, taken⟩ := exists_of_mem_of_mapM_eq_ok projected cell member
  obtain ⟨item, selects, resolves⟩ := exists_of_mem_of_mapM_eq_ok named part inside
  cases Table.resolves_of_ok resolves with
  | column => exact cells row stored cell (List.mem_of_getElem? (entry_eq_ok taken))
  | constant denotes =>
    cases taken
    exact literals item selects cell denotes

theorem Store.AllCells.yielded (h : store.AllCells P) {items : List Token} {source : Option Token}
    {results : Results} (literals : (Statement.select items source).AllDenote P)
    (selected : store.select items source = .ok results) : SqlShell.AllCells P results.rows := by
  obtain ⟨table, selected, rfl | ⟨name, found⟩⟩ := Store.select_eq_ok selected
  · exact allCells_of_select literals (by simp [SqlShell.AllCells, Table.single]) selected
  · exact allCells_of_select literals (h name table found) selected

end

/-! ## Errors -/

/-- The text that a fault quotes. -/
def DatatypeFault.quoted : DatatypeFault → String
  | unknownType text | notInteger text | notValue text | misfit text _ => text

/-- The text that an error quotes, if it does. -/
def ExecutionError.quoted? : ExecutionError → Option String
  | unknownTable name | unknownColumn name => some name
  | invalidDatatype fault => some fault.quoted
  | valueCount .. | outOfBounds .. => none

/-- What an error quotes is the text of one of some tokens. -/
def ExecutionError.Quotes (tokens : List Token) (error : ExecutionError) : Prop :=
  ∀ text ∈ error.quoted?, ∃ token ∈ tokens, token.value = text

theorem ExecutionError.quotes_of_mem {error : ExecutionError} {tokens : List Token} {token : Token}
    (inside : token ∈ tokens) (quoted : error.quoted? = some token.value) : error.Quotes tokens := by
  intro text found
  rw [quoted] at found
  exact ⟨token, inside, Option.some.inj found⟩

theorem ExecutionError.Quotes.mono {error : ExecutionError} {tokens more : List Token}
    (h : error.Quotes tokens) (inside : tokens ⊆ more) : error.Quotes more := by
  intro text quoted
  obtain ⟨token, known, same⟩ := h text quoted
  exact ⟨token, inside known, same⟩

theorem quoted_of_ofToken {token : Token} {fault : DatatypeFault}
    (h : Datatype.ofToken token = .error fault) : fault.quoted = token.value := by
  rw [Datatype.ofToken] at h
  split at h <;> cases h
  rfl

theorem quoted_of_ofNumeral {token : Token} {fault : DatatypeFault}
    (h : Cell.ofNumeral token = .error fault) : fault.quoted = token.value := by
  rw [Cell.ofNumeral] at h
  split at h <;> cases h
  rfl

theorem quoted_of_ofConstant {token : Token} {fault : DatatypeFault}
    (h : Cell.ofConstant token = .error fault) : fault.quoted = token.value := by
  rw [Cell.ofConstant] at h
  split at h
  · exact quoted_of_ofNumeral h
  · cases h
  · cases h
    rfl

theorem quoted_of_forColumn {token : Token} {datatype : Datatype} {fault : DatatypeFault}
    (h : Cell.forColumn datatype token = .error fault) : fault.quoted = token.value := by
  unfold Cell.forColumn at h
  split at h
  · exact quoted_of_ofNumeral h
  · cases h
  · cases h
    rfl

theorem quotes_of_liftFault {α : Type} {result : Except DatatypeFault α} {error : ExecutionError}
    {token : Token} (h : liftFault result = .error error)
    (quoted : ∀ fault, result = .error fault → fault.quoted = token.value) : error.Quotes [token] := by
  cases result with
  | ok a => cases h
  | error fault =>
    cases h
    exact ExecutionError.quotes_of_mem (List.mem_singleton_self _) (congrArg some (quoted fault rfl))

theorem error_of_bind_eq_error {ε α β : Type} {first : Except ε α} {next : α → Except ε β} {e : ε}
    (h : (first >>= next) = .error e) : first = .error e ∨ ∃ a, next a = .error e := by
  cases first with
  | error => cases h; exact .inl rfl
  | ok a => exact .inr ⟨a, h⟩

theorem quotes_of_entry {α : Type} {list : List α} {position : Nat} {error : ExecutionError}
    (h : entry list position = .error error) (tokens : List Token) : error.Quotes tokens := by
  rw [entry_eq_error h]
  nofun

theorem quotes_of_resolve {table : Table} {item : Token} {error : ExecutionError}
    (h : table.resolve item = .error error) : error.Quotes [item] := by
  simp only [Table.resolve] at h
  split at h
  · split at h
    · rcases error_of_bind_eq_error h with untyped | ⟨_, h⟩
      · exact quotes_of_entry untyped _
      · cases h
    · cases h
      exact ExecutionError.quotes_of_mem (List.mem_singleton_self _) rfl
  · rcases error_of_bind_eq_error h with failed | ⟨_, h⟩
    · exact quotes_of_liftFault failed fun _ => quoted_of_ofConstant
    · cases h

theorem Table.quotes_of_select {table : Table} {items : List Token} {error : ExecutionError}
    (h : table.select items = .error error) : error.Quotes items := by
  rcases error_of_bind_eq_error h with unresolved | ⟨resolved, h⟩
  · obtain ⟨item, inside, failed⟩ := exists_of_mapM_eq_error unresolved
    exact (quotes_of_resolve failed).mono (by simpa using inside)
  rcases error_of_bind_eq_error h with unread | ⟨_, h⟩
  · obtain ⟨row, -, unread⟩ := exists_of_mapM_eq_error unread
    obtain ⟨⟨column, projection⟩, -, failed⟩ := exists_of_mapM_eq_error unread
    cases projection with
    | column position => exact quotes_of_entry failed _
    | constant cell => cases failed
  · cases h

theorem quotes_of_ofDefinitions {definitions : List ColumnDefinition} {error : ExecutionError}
    (h : Table.ofDefinitions definitions = .error error) :
    error.Quotes (definitions.map (·.datatype)) := by
  rw [Table.ofDefinitions] at h
  generalize ({} : Table) = start at h
  induction definitions generalizing start with
  | nil => cases h
  | cons definition definitions ih =>
    rw [List.foldlM_cons] at h
    rcases error_of_bind_eq_error h with failed | ⟨table, h⟩
    · rcases error_of_bind_eq_error failed with untyped | ⟨_, h⟩
      · exact (quotes_of_liftFault untyped fun _ => quoted_of_ofToken).mono (by simp)
      · cases h
    · exact (ih table h).mono (by simp)

theorem quotes_of_cellsFor {datatypes : List Datatype} {values : List Token} {error : ExecutionError}
    (h : cellsFor datatypes values = .error error) : error.Quotes values := by
  obtain ⟨⟨value, datatype⟩, paired, failed⟩ := exists_of_mapM_eq_error h
  refine (quotes_of_liftFault failed fun _ => quoted_of_forColumn).mono ?_
  simpa using (List.of_mem_zip paired).1

theorem Store.quotes_of_select {store : Store} {items : List Token} {source : Option Token}
    {error : ExecutionError} (h : store.select items source = .error error) :
    error.Quotes (items ++ source.toList) := by
  rw [Store.select_eq] at h
  split at h
  · exact (Table.quotes_of_select h).mono (List.subset_append_left _ _)
  · next name =>
    split at h
    · exact (Table.quotes_of_select h).mono (List.subset_append_left _ _)
    · cases h
      exact ExecutionError.quotes_of_mem (List.mem_append_right _ (Option.mem_toList.2 rfl)) rfl

/-- What an error quotes is the text of a token of the statement. -/
theorem quotes_of_execute {store after : Store} {statement : Statement} {error : ExecutionError}
    (h : store.execute statement = .error error after) : error.Quotes statement.leaves := by
  cases statement with
  | createTable name definitions =>
    rw [Store.execute_createTable] at h
    split at h
    · cases h
    · next failed =>
      cases h
      refine (quotes_of_ofDefinitions failed).mono fun token inside => ?_
      obtain ⟨definition, known, rfl⟩ := List.mem_map.1 inside
      exact List.mem_cons_of_mem _ (List.mem_flatMap.2 ⟨definition, known, by simp⟩)
  | insert name values =>
    rw [Store.execute_insert] at h
    split at h
    · cases h
      exact ExecutionError.quotes_of_mem List.mem_cons_self rfl
    · split at h
      · split at h
        · cases h
        · next failed =>
          cases h
          exact (quotes_of_cellsFor failed).mono (List.subset_cons_self _ _)
      · cases h
        nofun
  | select items source =>
    rw [Store.execute_select] at h
    split at h
    · cases h
    · next failed =>
      cases h
      exact Store.quotes_of_select failed

end SqlShell
