import SqlShell.Proofs.Store.Steps

/-!
# Tables are isolated

What a statement does depends on the table that it names and on nothing else in the store, and it
changes no other table. So a run, seen from one table, is the run of the statements that name the
table: what comes of them, and the table that they leave, is the same whatever statements on other
tables stand between them, and whether those succeed or fail.

`Store.AgreeOn` is the relation that the run and the part of it keep up. The step lemmas say that a
statement on the table keeps it when both execute it, and that any other statement keeps it when one
of them does.
-/

namespace SqlShell

/-- The table that a statement names. A selection without a source names none. -/
def Statement.table? : Statement → Option String
  | createTable name _ => some name.value
  | insert table _ => some table.value
  | select _ source => source.map (·.value)

namespace Store

/-- Two stores have the same table of a name, if there is a name. -/
def AgreeOn (key : Option String) (a b : Store) : Prop :=
  ∀ name ∈ key, a.table? name = b.table? name

variable {a b store : Store} {key : Option String} {statement : Statement}

/-! ## One statement -/

theorem find_congr {token : Token} (agree : AgreeOn (some token.value) a b) :
    a.find token = b.find token := by
  rw [find, find, agree token.value rfl]

theorem select_congr {items : List Token} {source : Option Token}
    (agree : AgreeOn (Statement.select items source).table? a b) :
    a.select items source = b.select items source := by
  cases source with
  | none => rfl
  | some token => rw [select, select, find_congr agree]

/-- What comes of a statement depends on the table that it names only. -/
theorem answer_congr (agree : AgreeOn statement.table? a b) :
    a.answer statement = b.answer statement := by
  cases statement with
  | createTable name definitions =>
    simp only [answer, execute_createTable]
    cases Table.ofDefinitions definitions <;> rfl
  | insert token values =>
    simp only [answer, execute_insert, agree token.value rfl]
    cases b.table? token.value with
    | none => rfl
    | some table =>
      by_cases count : values.length = table.columns.length
      · simp only [count, if_true]
        cases cellsFor table.datatypes values <;> rfl
      · simp only [count, if_false]
  | select items source =>
    simp only [answer, execute_select, select_congr agree]
    cases b.select items source <;> rfl

/-- A statement leaves every table alone that it does not name. -/
theorem table?_after_of_ne {name : String} (other : statement.table? ≠ some name) :
    (store.after statement).table? name = store.table? name := by
  rcases store.accepts_or_rejects statement with ⟨outcome, step⟩ | ⟨-, same⟩
  · generalize store.after statement = after at step
    cases step with
    | create | insert => rw [table?_put, if_neg fun same => other (congrArg some same)]
    | select => rfl
  · rw [same]

/-- On stores that agree on its table, a statement leaves stores that agree on it. -/
theorem after_congr (agree : AgreeOn statement.table? a b) :
    AgreeOn statement.table? (a.after statement) (b.after statement) := by
  intro name named
  cases statement with
  | createTable token definitions =>
    simp only [after, execute_createTable]
    cases Table.ofDefinitions definitions with
    | error error => exact agree name named
    | ok table => simp only [table?_put, if_pos (Option.some.inj named)]
  | insert token values =>
    simp only [after, execute_insert, agree token.value rfl]
    cases found : b.table? token.value with
    | none => exact agree name named
    | some table =>
      by_cases count : values.length = table.columns.length
      · simp only [count, if_true]
        cases cellsFor table.datatypes values with
        | error error => exact agree name named
        | ok row => simp only [table?_put, if_pos (Option.some.inj named)]
      · simp only [count, if_false]
        exact agree name named
  | select items source =>
    simp only [after, execute_select]
    cases a.select items source <;> cases b.select items source <;> exact agree name named

/-! ## Runs -/

/-- Of a run, the statements that name a table make a run of their own. -/
theorem answers_of_agreeOn (statements : List Statement) (agree : AgreeOn key a b) :
    (a.answers statements).filter (·.1.table? = key) =
      b.answers (statements.filter (·.table? = key)) ∧
    AgreeOn key (a.afterAll statements) (b.afterAll (statements.filter (·.table? = key))) := by
  induction statements generalizing a b with
  | nil => exact ⟨rfl, agree⟩
  | cons statement statements ih =>
    by_cases named : statement.table? = key
    · -- both stores execute the statement
      subst named
      obtain ⟨same, agree'⟩ := ih (after_congr agree)
      simp only [answers, decide_true, List.filter_cons_of_pos, afterAll_cons, answer_congr agree,
        same]
      exact ⟨trivial, agree'⟩
    · -- only the first does, and its table of the name stays
      have agree' : AgreeOn key (a.after statement) b := by
        intro name inside
        rw [table?_after_of_ne fun same => named (same.trans inside.symm)]
        exact agree name inside
      simpa [answers, named] using ih agree'

end Store

/-- Tables are isolated from each other, whatever store a run starts on.

* What comes of the statements that name a table, and the table in the end, is what it is when only
  these statements are executed.
* Runs that have the same statements on each table, in the same order but interleaved in any way,
  answer each of them alike and end in the same store.
* A selection without a source is answered alike on all stores. -/
theorem tables_are_isolated (store : Store) :
    (∀ statements name,
      let naming := statements.filter (·.table? = some name)
      (store.answers statements).filter (·.1.table? = some name) = store.answers naming ∧
        (store.afterAll statements).table? name = (store.afterAll naming).table? name) ∧
    (∀ statements others,
      (∀ name, statements.filter (·.table? = some name) = others.filter (·.table? = some name)) →
      (∀ name, (store.answers statements).filter (·.1.table? = some name) =
        (store.answers others).filter (·.1.table? = some name)) ∧
      store.afterAll statements = store.afterAll others) ∧
    ∀ items (other : Store),
      other.answer (.select items none) = store.answer (.select items none) := by
  have alone (statements : List Statement) (name : String) :=
    Store.answers_of_agreeOn statements fun name' (_ : name' ∈ some name) =>
      (rfl : store.table? name' = store.table? name')
  refine ⟨fun statements name => ?_, fun statements others same => ⟨fun name => ?_, ?_⟩, ?_⟩
  · obtain ⟨answers, agree⟩ := alone statements name
    exact ⟨answers, agree name rfl⟩
  · rw [(alone statements name).1, (alone others name).1, same]
  · apply Store.ext_table?
    intro name
    rw [(alone statements name).2 name rfl, (alone others name).2 name rfl, same]
  · intro items other
    exact Store.answer_congr fun name unnamed => nomatch unnamed

end SqlShell
