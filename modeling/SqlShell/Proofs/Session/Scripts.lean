import SqlShell.Proofs.Session.Effects

/-!
# Effects of statements and scripts

A statement says what it is asked to repeat, then what it yields. A script has the effects of its
statements up to the first that fails, and none at all when it cannot be read. Submitting a script
never fails while there is room: what went wrong is only said.
-/

namespace SqlShell

variable {α β : Type}

/-- The output did not fail. -/
def Effect.Unbroken (effect : Effect α) : Prop :=
  ∀ error, effect.result ≠ .error (.channel error)

theorem Effect.Unbroken.andThen {first : Effect α} {next : α → Store → Effect β}
    (unbroken : first.Unbroken) (goesOn : ∀ value, (next value first.store).Unbroken) :
    (first.andThen next).Unbroken := by
  obtain ⟨result, store, text⟩ := first
  cases result with
  | ok value => exact goesOn value
  | error error => intro other; exact fun failed => unbroken other (by cases failed; rfl)

namespace Shell

variable (settings : Settings) (store : Store)

/-! ## Statements -/

/-- What a session repeats of a statement before it executes it. -/
def echoed (statement : Statement) : String :=
  if settings.echo then
    Text.paint settings.color .dimmed (statement.toSql ++ ";") ++ "\n"
  else ""

/-- The effect of a statement that the store has executed, without its repetition. -/
def reported : EStateM.Result ExecutionError Store Outcome → Effect Unit
  | .ok outcome store => ⟨.ok (), store, outcome.report⟩
  | .error error store => ⟨.error (.execution error), store, ""⟩

theorem does_report (statement : Statement) :
    (do
      let outcome ← perform statement
      say outcome.report
      observe [.executedStatement statement] : Shell Unit).Does store
      (reported (store.execute statement)) := by
  have performs := does_perform statement store
  cases executed : store.execute statement with
  | ok outcome store' =>
    rw [executed] at performs
    have reports := (does_say outcome.report store').seq
      (does_observe [.executedStatement statement] store')
    rw [String.append_empty] at reports
    simpa [reported] using Does.bind_ok performs reports
  | error error store' =>
    rw [executed] at performs
    exact Does.bind_error performs

theorem does_runStatement (statement : Statement) :
    (runStatement settings statement).Does store
      { reported (store.execute statement) with
        text := echoed settings statement ++ (reported (store.execute statement)).text } := by
  have report := does_report store statement
  unfold runStatement
  by_cases echo : settings.echo = true
  · rw [if_pos echo, echoed, if_pos echo]
    exact (does_say _ store).seq report
  · rw [if_neg echo, echoed, if_neg echo, String.empty_append]
    exact report

theorem effect_runStatement (statement : Statement) :
    (runStatement settings statement).effect store =
      { reported (store.execute statement) with
        text := echoed settings statement ++ (reported (store.execute statement)).text } :=
  (does_runStatement settings store statement).effect_eq

theorem steady_runStatement (statement : Statement) : (runStatement settings statement).Steady :=
  Does.steady fun store => does_runStatement settings store statement

theorem unbroken_runStatement (statement : Statement) :
    ((runStatement settings statement).effect store).Unbroken := by
  intro error failed
  rw [effect_runStatement] at failed
  cases executed : store.execute statement <;> simp [executed, reported] at failed

/-! ## Scripts -/

theorem steady_runStatements (script : Script) : (runStatements settings script).Steady := by
  induction script with
  | nil => exact Does.steady (does_pure ())
  | cons statement script ih => exact (steady_runStatement settings statement).bind fun _ => ih

theorem effect_runStatements_nil : (runStatements settings []).effect store = ⟨.ok (), store, ""⟩ :=
  (does_pure () store).effect_eq

theorem effect_runStatements_cons (statement : Statement) (script : Script) :
    (runStatements settings (statement :: script)).effect store =
      ((runStatement settings statement).effect store).andThen
        fun _ => (runStatements settings script).effect :=
  effect_bind (steady_runStatement settings statement)
    (fun _ => steady_runStatements settings script) store

theorem unbroken_runStatements (script : Script) :
    ((runStatements settings script).effect store).Unbroken := by
  induction script generalizing store with
  | nil => simp [effect_runStatements_nil, Effect.Unbroken]
  | cons statement script ih =>
    rw [effect_runStatements_cons]
    exact (unbroken_runStatement settings store statement).andThen fun _ => ih _

theorem does_runScript (text : String) :
    (runScript settings text).Does store (match Script.parse text with
      | .error error => ⟨.error (.parse error), store, ""⟩
      | .ok script => (runStatements settings script).effect store) := by
  have observes := does_observe (Script.read text).2 store
  unfold runScript Script.parse
  cases read : (Script.read text).1 with
  | error error =>
    simp only [read]
    exact observes.seq (does_throw (.parse error) store)
  | ok script =>
    have runs := observes.seq (steady_runStatements settings script store)
    rw [String.empty_append] at runs
    simp only [read]
    exact runs

theorem effect_runScript (text : String) :
    (runScript settings text).effect store = match Script.parse text with
      | .error error => ⟨.error (.parse error), store, ""⟩
      | .ok script => (runStatements settings script).effect store :=
  (does_runScript settings store text).effect_eq

theorem steady_runScript (text : String) : (runScript settings text).Steady :=
  Does.steady fun store => does_runScript settings store text

theorem unbroken_runScript (text : String) : ((runScript settings text).effect store).Unbroken := by
  rw [effect_runScript]
  cases Script.parse text with
  | error error => simp [Effect.Unbroken]
  | ok script => exact unbroken_runStatements settings store script

/-! ## Submitted scripts -/

/-- What a conversation says about the way a script ended. -/
def complaint : Except ShellError Unit → String
  | .ok () => ""
  | .error error => Text.paint settings.color .red (error.text settings.color) ++ "\n"

/-- The effect of a script whose failure is only said. -/
def forgiven (effect : Effect Unit) : Effect Unit :=
  ⟨.ok (), effect.store, effect.text ++ complaint settings effect.result⟩

theorem does_submit (text : String) :
    (submit settings text).Does store (forgiven settings ((runScript settings text).effect store)) := by
  have runs := steady_runScript settings text store
  have unbroken := unbroken_runScript settings store text
  generalize (runScript settings text).effect store = effect at runs unbroken ⊢
  obtain ⟨result, store', said⟩ := effect
  have complains (error : ShellError) :=
    (does_observe [.statementFailed (error.text settings.color)] store').seq
      (does_say (Text.paint settings.color .red (error.text settings.color) ++ "\n") store')
  simp only [String.empty_append] at complains
  unfold submit
  match result with
  | .ok () => simpa [forgiven, complaint] using runs.tryCatch_ok
  | .error (.channel error) => exact absurd rfl (unbroken error)
  | .error (.parse error) => exact runs.tryCatch_error (complains (.parse error))
  | .error (.execution error) => exact runs.tryCatch_error (complains (.execution error))

end Shell

end SqlShell
