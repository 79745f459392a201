import SqlShell.Proofs.Session.Scripts
import SqlShell.Proofs.Store.Steps

/-!
# How far a script comes

A script that can be read is executed statement by statement, up to the first that fails. About each
statement a session says the statement itself, if that is asked for, and behind it what the statement
reports. One that fails has nothing to report.

The store and the text are those of the statements that succeed, whatever is to follow the one that
fails.
-/

namespace SqlShell

namespace Shell

variable (settings : Settings) {store : Store}

/-- What a session says about a statement, given what comes of it. -/
def said : Statement × Except ExecutionError Outcome → String
  | (statement, .ok outcome) => echoed settings statement ++ outcome.report
  | (statement, .error _) => echoed settings statement

/-- What it says about statements in a row. -/
def saidOn (attempts : List (Statement × Except ExecutionError Outcome)) : String :=
  String.join (attempts.map (said settings))

theorem saidOn_cons (attempt : Statement × Except ExecutionError Outcome)
    (attempts : List (Statement × Except ExecutionError Outcome)) :
    saidOn settings (attempt :: attempts) = said settings attempt ++ saidOn settings attempts := by
  rw [saidOn, List.map_cons, String.join_cons]
  rfl

/-! ## One statement -/

theorem effect_runStatement_ok {statement : Statement} {outcome : Outcome}
    (answered : store.answer statement = .ok outcome) :
    (runStatement settings statement).effect store =
      ⟨.ok (), store.after statement, said settings (statement, store.answer statement)⟩ := by
  rw [effect_runStatement, Store.execute_eq, answered]
  rfl

theorem effect_runStatement_error {statement : Statement} {error : ExecutionError}
    (answered : store.answer statement = .error error) :
    (runStatement settings statement).effect store =
      ⟨.error (.execution error), store, echoed settings statement⟩ := by
  rw [effect_runStatement, Store.execute_eq, answered]
  simp only [reported, String.append_empty]

/-! ## Statements in a row -/

theorem effect_runStatements_of_acceptsAll {script : Script} (accepts : store.AcceptsAll script) :
    (runStatements settings script).effect store =
      ⟨.ok (), store.afterAll script, saidOn settings (store.answers script)⟩ := by
  induction script generalizing store with
  | nil => exact effect_runStatements_nil settings store
  | cons statement script ih =>
    obtain ⟨outcome, answered⟩ := Store.accepts_iff.1 accepts.1
    rw [effect_runStatements_cons, effect_runStatement_ok settings answered]
    simp only [Effect.andThen, ih accepts.2, Store.answers, saidOn_cons, Store.afterAll_cons]

/-- A script stops at the first statement that fails. What comes behind it plays no part. -/
theorem effect_runStatements_of_failure {before : Script} {failed : Statement}
    {error : ExecutionError} (accepts : store.AcceptsAll before)
    (answered : (store.afterAll before).answer failed = .error error) (later : Script) :
    (runStatements settings (before ++ failed :: later)).effect store =
      ⟨.error (.execution error), store.afterAll before,
        saidOn settings (store.answers before) ++ echoed settings failed⟩ := by
  induction before generalizing store with
  | nil =>
    rw [Store.afterAll_nil] at answered ⊢
    rw [List.nil_append, effect_runStatements_cons, effect_runStatement_error settings answered]
    simp [Effect.andThen, saidOn, Store.answers]
  | cons statement before ih =>
    obtain ⟨outcome, succeeded⟩ := Store.accepts_iff.1 accepts.1
    rw [List.cons_append, effect_runStatements_cons, effect_runStatement_ok settings succeeded]
    simp only [Effect.andThen, ih accepts.2 answered, Store.answers, saidOn_cons,
      Store.afterAll_cons, String.append_assoc]

/-! ## Whole scripts -/

theorem acceptsAll_of_runScript_ok {text : String}
    (succeeded : ((runScript settings text).effect store).result = .ok ()) :
    ∃ script, Script.parse text = .ok script ∧ store.AcceptsAll script := by
  rw [effect_runScript] at succeeded
  cases read : Script.parse text with
  | error error =>
    rw [read] at succeeded
    cases succeeded
  | ok script =>
    simp only [read] at succeeded
    cases store.acceptsAll_or_stopsAt script with
    | inl accepts => exact ⟨script, rfl, accepts⟩
    | inr stopped =>
      obtain ⟨before, error, stops⟩ := stopped
      obtain ⟨failed, later, rfl, answered⟩ := stops.exists_failure
      rw [effect_runStatements_of_failure settings stops.accepts answered] at succeeded
      cases succeeded

theorem stopsAt_of_runScript_error {text : String} {error : ExecutionError}
    (failed : ((runScript settings text).effect store).result = .error (.execution error)) :
    ∃ script before, Script.parse text = .ok script ∧ store.StopsAt script before error := by
  rw [effect_runScript] at failed
  cases read : Script.parse text with
  | error error =>
    rw [read] at failed
    cases failed
  | ok script =>
    simp only [read] at failed
    cases store.acceptsAll_or_stopsAt script with
    | inl accepts =>
      rw [effect_runStatements_of_acceptsAll settings accepts] at failed
      cases failed
    | inr stopped =>
      obtain ⟨before, other, stops⟩ := stopped
      obtain ⟨statement, later, rfl, answered⟩ := stops.exists_failure
      rw [effect_runStatements_of_failure settings stops.accepts answered] at failed
      cases failed
      exact ⟨_, before, rfl, stops⟩

end Shell

/-- A selection reports its results, and a statement that changes the store reports that it went
well. -/
theorem report_of_answer {store : Store} {statement : Statement} {outcome : Outcome}
    (answered : store.answer statement = .ok outcome) :
    (∃ items source results, statement = .select items source ∧
      store.select items source = .ok results ∧ outcome.report = results.report) ∨
    (∀ items source, statement ≠ .select items source) ∧ outcome.report = "ok\n" := by
  have executed : store.execute statement = .ok outcome (store.after statement) := by
    rw [Store.execute_eq, answered]
  generalize store.after statement = after at executed
  cases Store.execute_eq_ok_iff.1 executed with
  | create | insert => exact .inr ⟨nofun, rfl⟩
  | select selected => exact .inl ⟨_, _, _, rfl, selected, rfl⟩

/-- A text that cannot be read is not executed at all, and nothing is said. The script of any other
text is executed statement by statement, each on the store that the ones before it leave.

* When all of them succeed, so does the script, with the store after all of them, and the text is
  what is said about each in turn: the statement itself if that is asked for, and behind it what it
  reports.
* Otherwise the script fails with the error of the first that fails. The store is the one after the
  statements in front of it, and the text is what is said about these, with the failing statement
  itself behind it if that is asked for. Whatever else comes behind it makes no difference.

A selection reports its results, and any other statement reports `ok`. -/
theorem script_runs_up_to_first_failure (settings : Settings) (store : Store) (text : String) :
    let effect := (Shell.runScript settings text).effect store
    (∀ error, Script.parse text = .error error → effect = ⟨.error (.parse error), store, ""⟩) ∧
    (∀ script, Script.parse text = .ok script →
      (store.AcceptsAll script ∧
        effect = ⟨.ok (), store.afterAll script,
          Shell.saidOn settings (store.answers script)⟩) ∨
      ∃ before failed later error, script = before ++ failed :: later ∧
        store.AcceptsAll before ∧ (store.afterAll before).answer failed = .error error ∧
        effect = ⟨.error (.execution error), store.afterAll before,
          Shell.saidOn settings (store.answers before) ++ Shell.echoed settings failed⟩ ∧
        ∀ others, (Shell.runStatements settings (before ++ failed :: others)).effect store =
          effect) ∧
    ∀ (state : Store) statement outcome, state.answer statement = .ok outcome →
      (∃ items source results, statement = .select items source ∧
        state.select items source = .ok results ∧ outcome.report = results.report) ∨
      (∀ items source, statement ≠ .select items source) ∧ outcome.report = "ok\n" := by
  intro effect
  have runs : effect = _ := Shell.effect_runScript settings store text
  refine ⟨fun error unread => ?_, fun script read => ?_, fun _ _ _ => report_of_answer⟩
  · rw [runs, unread]
  simp only [read] at runs
  cases store.acceptsAll_or_stopsAt script with
  | inl accepts =>
    exact .inl ⟨accepts, runs.trans (Shell.effect_runStatements_of_acceptsAll settings accepts)⟩
  | inr stopped =>
    obtain ⟨before, error, stops⟩ := stopped
    obtain ⟨failed, later, rfl, answered⟩ := stops.exists_failure
    have fails := Shell.effect_runStatements_of_failure settings stops.accepts answered
    have same := runs.trans (fails later)
    exact .inr ⟨before, failed, later, error, rfl, stops.accepts, answered, same,
      fun others => (fails others).trans same.symm⟩

end SqlShell
