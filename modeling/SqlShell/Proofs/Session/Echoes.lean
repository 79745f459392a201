import SqlShell.Proofs.Session.Batch

/-!
# Echoes are a log

A session that repeats each statement before it executes it leaves a log in its output: the echoes,
in their order, are the script in canonical form. The log is read back as the script and does to a
store what the script does, and the session says the same without the echoes when it is not asked
for them.
-/

namespace SqlShell

/-! ## What is said, remark by remark -/

/-- Something that a session says about a statement. -/
inductive Remark where
  /-- The statement itself. -/
  | echo (statement : Statement)
  /-- What it reports. -/
  | report (outcome : Outcome)

namespace Remark

def text (color : Bool) : Remark → String
  | echo statement => Text.paint color .dimmed (statement.toSql ++ ";") ++ "\n"
  | report outcome => outcome.report

def isEcho : Remark → Bool
  | echo _ => true
  | report _ => false

/-- All that is said. -/
def texts (color : Bool) (remarks : List Remark) : String :=
  String.join (remarks.map (text color))

variable (color : Bool)

@[simp] theorem texts_nil : texts color [] = "" := rfl

@[simp] theorem texts_cons (remark : Remark) (remarks : List Remark) :
    texts color (remark :: remarks) = remark.text color ++ texts color remarks := by
  rw [texts, List.map_cons, String.join_cons]
  rfl

@[simp] theorem texts_append (front back : List Remark) :
    texts color (front ++ back) = texts color front ++ texts color back := by
  simp [texts, String.join_append]

end Remark

/-- A script with its statements behind each other, each with a semicolon and a gap behind it. -/
def Script.log (gap : String) (script : Script) : String :=
  String.join (script.map fun statement => statement.toSql ++ ";" ++ gap)

namespace Shell

/-- What is said about a statement that is repeated, given what comes of it. One that fails has
nothing to report. -/
def remarks : Statement × Except ExecutionError Outcome → List Remark
  | (statement, .ok outcome) => [.echo statement, .report outcome]
  | (statement, .error _) => [.echo statement]

def remarksOn (attempts : List (Statement × Except ExecutionError Outcome)) : List Remark :=
  attempts.flatMap remarks

theorem remarksOn_cons (attempt : Statement × Except ExecutionError Outcome)
    (attempts : List (Statement × Except ExecutionError Outcome)) :
    remarksOn (attempt :: attempts) = remarks attempt ++ remarksOn attempts :=
  List.flatMap_cons

theorem filter_remarksOn (attempts : List (Statement × Except ExecutionError Outcome)) :
    (remarksOn attempts).filter (·.isEcho) = (attempts.map (·.1)).map .echo := by
  induction attempts with
  | nil => rfl
  | cons attempt attempts ih =>
    obtain ⟨statement, answer⟩ := attempt
    rw [remarksOn_cons, List.filter_append, ih]
    cases answer <;> rfl

theorem saidOn_loud (prompt : String) (color : Bool)
    (attempts : List (Statement × Except ExecutionError Outcome)) :
    saidOn { prompt, echo := true, color } attempts = Remark.texts color (remarksOn attempts) := by
  induction attempts with
  | nil => rfl
  | cons attempt attempts ih =>
    obtain ⟨statement, answer⟩ := attempt
    rw [saidOn_cons, ih, remarksOn_cons, Remark.texts_append]
    cases answer <;> simp [said, echoed, remarks, Remark.text]

theorem saidOn_quiet (prompt : String) (color : Bool)
    (attempts : List (Statement × Except ExecutionError Outcome)) :
    saidOn { prompt, echo := false, color } attempts =
      Remark.texts color ((remarksOn attempts).filter (! ·.isEcho)) := by
  induction attempts with
  | nil => rfl
  | cons attempt attempts ih =>
    obtain ⟨statement, answer⟩ := attempt
    rw [saidOn_cons, ih, remarksOn_cons, List.filter_append, Remark.texts_append]
    cases answer <;> simp [said, echoed, remarks, Remark.text, Remark.isEcho]

/-- What is said about a script that stops, the statement at which it stops included. -/
theorem saidOn_failure (settings : Settings) {store : Store} {before : Script} {failed : Statement}
    {error : ExecutionError} (answered : (store.afterAll before).answer failed = .error error) :
    saidOn settings (store.answers (before ++ [failed])) =
      saidOn settings (store.answers before) ++ echoed settings failed := by
  rw [Store.answers_append, saidOn, List.map_append, String.join_append]
  simp [Store.answers, answered, said, saidOn]

end Shell

/-! ## Reading the log -/

theorem map_fst_answers (store : Store) (statements : List Statement) :
    (store.answers statements).map (·.1) = statements := by
  induction statements generalizing store with
  | nil => rfl
  | cons statement statements ih => rw [Store.answers, List.map_cons, ih]

theorem texts_echoes (script : Script) :
    Remark.texts false (script.map .echo) = script.log "\n" := by
  rw [Remark.texts, List.map_map]
  rfl

/-- A statement with its semicolon is read as itself, whatever stands around it. -/
theorem Statement.WellFormed.fragment {statement : Statement} (h : statement.WellFormed) :
    ∃ script : Script, Fragment (statement.toSql ++ ";").toList script ∧
      script.Agrees [statement] := by
  have wellFormed : Script.WellFormed [statement] := by
    intro other inside
    rw [List.mem_singleton.1 inside]
    exact h
  obtain ⟨parsed, read, agrees⟩ := wellFormed.parse_toSql
  have shape : (Script.toSql [statement]).toList = (statement.toSql ++ ";").toList ++ ['\n'] := by
    simp [Script.toSql]
  have whole := Fragment.of_parse read
  rw [shape] at whole
  exact ⟨parsed, whole.without_feed, agrees⟩

/-- The log of a well-formed script is read back as the script, with any blanks in its gaps. -/
theorem Script.WellFormed.parse_log {script : Script} (h : script.WellFormed) {gap : String}
    (blank : ∀ c ∈ gap.toList, c = ' ' ∨ c = '\t' ∨ c = '\n') :
    ∃ parsed, Script.parse (script.log gap) = .ok parsed ∧ parsed.Agrees script := by
  suffices fragment : ∃ other : Script, Fragment (script.log gap).toList other ∧
      other.Agrees script by
    obtain ⟨other, fragment, agrees⟩ := fragment
    obtain ⟨parsed, read, agrees'⟩ := fragment.parse
    exact ⟨parsed, read, agrees'.trans agrees⟩
  induction script with
  | nil => exact ⟨[], .nil, rfl⟩
  | cons statement script ih =>
    obtain ⟨first, front, agrees⟩ := (h statement List.mem_cons_self).fragment
    obtain ⟨other, back, agrees'⟩ := ih fun next inside => h next (List.mem_cons_of_mem _ inside)
    have whole := (front.append (.blank blank)).append back
    refine ⟨first ++ [] ++ other, ?_, ?_⟩
    · simpa [Script.log, String.join_cons] using whole
    · rw [Script.Agrees, List.append_nil, List.map_append, agrees, agrees']
      rfl

/-! ## Running it -/

theorem Store.answers_unplaced (store : Store) (statements : List Statement) :
    store.answers (statements.map (·.unplaced)) =
      (store.answers statements).map fun attempt => (attempt.1.unplaced, attempt.2) := by
  induction statements generalizing store with
  | nil => rfl
  | cons statement statements ih =>
    rw [List.map_cons, answers, answers, List.map_cons, ← ih]
    simp only [answer, after, Store.execute_unplaced]

namespace Shell

theorem said_unplaced (settings : Settings)
    (attempt : Statement × Except ExecutionError Outcome) :
    said settings (attempt.1.unplaced, attempt.2) = said settings attempt := by
  obtain ⟨statement, answer⟩ := attempt
  cases answer <;> simp only [said, echoed, Statement.toSql_unplaced]

/-- Statement by statement, a session says the same about a script wherever its tokens stand. -/
theorem said_of_agrees (settings : Settings) (store : Store) {script other : Script}
    (agrees : script.Agrees other) :
    (store.answers script).map (said settings) = (store.answers other).map (said settings) := by
  have unplaced (script : Script) : (store.answers script).map (said settings) =
      (store.answers (script.map (·.unplaced))).map (said settings) := by
    rw [Store.answers_unplaced, List.map_map]
    exact List.map_congr_left fun attempt _ => (said_unplaced settings attempt).symm
  rw [unplaced script, unplaced other, show script.map _ = other.map _ from agrees]

end Shell

/-- In plain text, the echoes of a script that succeeds are a faithful log of it. They are its
statements in order, and they are read back as the script, also when their line feeds are left out or
replaced by other blanks. Running the log on the same store does what running the script does, in any
settings, and says the same about each statement. Without echoes, the script does the same and says
the same, with the echoes left out. When a script fails, the echoes are those of its statements up to
the one that fails. -/
theorem echoes_are_a_faithful_log (prompt : String) (store : Store) (text : String) :
    let loud := (Shell.runScript { prompt, echo := true } text).effect store
    let quiet := (Shell.runScript { prompt, echo := false } text).effect store
    (loud.result = .ok () →
      ∃ script, Script.parse text = .ok script ∧
        let remarks := Shell.remarksOn (store.answers script)
        loud.text = Remark.texts false remarks ∧
        remarks.filter (·.isEcho) = script.map .echo ∧
        Remark.texts false (script.map .echo) = script.log "\n" ∧
        quiet = ⟨loud.result, loud.store, Remark.texts false (remarks.filter (! ·.isEcho))⟩ ∧
        ∀ gap : String, (∀ c ∈ gap.toList, c = ' ' ∨ c = '\t' ∨ c = '\n') →
          ∃ replayed, Script.parse (script.log gap) = .ok replayed ∧ replayed.Agrees script ∧
            ∀ settings,
              let replay := (Shell.runScript settings (script.log gap)).effect store
              replay = (Shell.runScript settings text).effect store ∧
              replay.result = .ok () ∧ replay.store = loud.store ∧
              (store.answers replayed).map (Shell.said settings) =
                (store.answers script).map (Shell.said settings)) ∧
    ∀ error, loud.result = .error (.execution error) →
      ∃ before failed later, Script.parse text = .ok (before ++ failed :: later) ∧
        store.AcceptsAll before ∧ (store.afterAll before).answer failed = .error error ∧
        let remarks := Shell.remarksOn (store.answers (before ++ [failed]))
        loud.text = Remark.texts false remarks ∧
        remarks.filter (·.isEcho) = (before ++ [failed]).map .echo := by
  intro loud quiet
  refine ⟨fun succeeded => ?_, fun error stopped => ?_⟩
  · obtain ⟨script, read, accepts⟩ := Shell.acceptsAll_of_runScript_ok _ succeeded
    have runs (settings : Settings) : (Shell.runScript settings text).effect store =
        ⟨.ok (), store.afterAll script, Shell.saidOn settings (store.answers script)⟩ := by
      rw [Shell.effect_runScript, read]
      exact Shell.effect_runStatements_of_acceptsAll settings accepts
    have final : loud.store = store.afterAll script := congrArg Effect.store (runs _)
    refine ⟨script, read, ?_, ?_, texts_echoes script, ?_, fun gap blank => ?_⟩
    · exact (congrArg Effect.text (runs _)).trans (Shell.saidOn_loud prompt false _)
    · rw [Shell.filter_remarksOn, map_fst_answers]
    · rw [succeeded, final, ← Shell.saidOn_quiet prompt]
      exact runs _
    · obtain ⟨replayed, read', agrees⟩ := (Script.wellFormed_of_parse read).parse_log blank
      refine ⟨replayed, read', agrees, fun settings => ?_⟩
      have replays : (Shell.runScript settings (script.log gap)).effect store =
          (Shell.runScript settings text).effect store := by
        rw [Shell.effect_runScript, Shell.effect_runScript, read, read']
        exact Shell.effect_runStatements_of_agrees settings agrees store
      refine ⟨replays, ?_, ?_, Shell.said_of_agrees settings store agrees⟩
      · rw [replays, runs]
      · rw [replays, runs, final]
  · obtain ⟨script, before, read, stops⟩ := Shell.stopsAt_of_runScript_error _ stopped
    obtain ⟨failed, later, rfl, answered⟩ := stops.exists_failure
    refine ⟨before, failed, later, read, stops.accepts, answered, ?_, ?_⟩
    · rw [← Shell.saidOn_loud prompt, Shell.saidOn_failure _ answered]
      show ((Shell.runScript _ text).effect store).text = _
      rw [Shell.effect_runScript, read]
      exact congrArg Effect.text
        (Shell.effect_runStatements_of_failure _ stops.accepts answered later)
    · rw [Shell.filter_remarksOn, map_fst_answers]

end SqlShell
