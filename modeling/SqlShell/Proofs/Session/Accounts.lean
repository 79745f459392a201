import SqlShell.Proofs.Session.Scripts
import SqlShell.Proofs.Store.Steps

/-!
# What an action does, deed by deed

An `Account` tells what an action does when there is room for all it says: the texts it says and the
statements it has executed, in their order, and its result. An action that follows an account goes
through its deeds on any output (`Shell.Follows`): up to the end, or up to the first text that the
output has no room for.

Statements, scripts and conversations have accounts, on any store.
-/

namespace SqlShell

variable {α β : Type}

/-! ## Deeds -/

inductive Deed where
  | say (text : String)
  | execute (statement : Statement)

namespace Deed

def text : Deed → String
  | say text => text
  | execute _ => ""

def statement? : Deed → Option Statement
  | say _ => none
  | execute statement => some statement

end Deed

/-- All that is said. -/
def saidIn (deeds : List Deed) : String :=
  String.join (deeds.map (·.text))

/-- All that is executed. -/
def executedIn (deeds : List Deed) : List Statement :=
  deeds.filterMap (·.statement?)

@[simp] theorem saidIn_nil : saidIn [] = "" := rfl

@[simp] theorem saidIn_say (text : String) (deeds : List Deed) :
    saidIn (.say text :: deeds) = text ++ saidIn deeds := by
  simp [saidIn, Deed.text, String.join_cons]

@[simp] theorem saidIn_execute (statement : Statement) (deeds : List Deed) :
    saidIn (.execute statement :: deeds) = saidIn deeds := by
  simp [saidIn, Deed.text, String.join_cons]

@[simp] theorem executedIn_nil : executedIn [] = [] := rfl

@[simp] theorem executedIn_say (text : String) (deeds : List Deed) :
    executedIn (.say text :: deeds) = executedIn deeds := rfl

@[simp] theorem executedIn_execute (statement : Statement) (deeds : List Deed) :
    executedIn (.execute statement :: deeds) = statement :: executedIn deeds := rfl

@[simp] theorem executedIn_append (front back : List Deed) :
    executedIn (front ++ back) = executedIn front ++ executedIn back :=
  List.filterMap_append

/-! ## Accounts -/

structure Account (α : Type) where
  deeds : List Deed
  result : Except ShellError α

/-- How an action ends, less the record of events. -/
structure Finish (α : Type) where
  result : Except ShellError α
  store : Store
  output : Sink

def Finish.ofRun : EStateM.Result ShellError Session α → Finish α
  | .ok value session => ⟨.ok value, session.store, session.output⟩
  | .error error session => ⟨.error error, session.store, session.output⟩

def Sink.offer (output : Sink) (text : String) : Sink :=
  { output with offered := output.offered ++ text }

/-- Go through deeds, up to the first text that there is no room for. -/
def playDeeds (result : Except ShellError α) : List Deed → Store → Sink → Finish α
  | [], store, output => ⟨result, store, output⟩
  | .say text :: deeds, store, output =>
    if (output.offer text).Fits then playDeeds result deeds store (output.offer text)
    else ⟨.error (.channel .outputFull), store, output.offer text⟩
  | .execute statement :: deeds, store, output =>
    playDeeds result deeds (store.after statement) output

namespace Account

def play (account : Account α) : Store → Sink → Finish α :=
  playDeeds account.result account.deeds

/-- Go on with `next`, unless the first part fails. -/
def andThen (first : Account α) (next : α → Account β) : Account β :=
  match first.result with
  | .ok value => ⟨first.deeds ++ (next value).deeds, (next value).result⟩
  | .error error => ⟨first.deeds, .error error⟩

/-- Go on with `handle` if the first part fails. -/
def rescue (first : Account α) (handle : ShellError → Account α) : Account α :=
  match first.result with
  | .ok _ => first
  | .error error => ⟨first.deeds ++ (handle error).deeds, (handle error).result⟩

end Account

section

variable (deeds : List Deed) (store : Store) (output : Sink) (store' : Store) (output' : Sink)

/-- There is room for all the deeds, and behind them the store and the output are `store'` and
`output'`. -/
def GoThrough : Prop :=
  ∀ {α : Type} (result : Except ShellError α) (back : List Deed),
    playDeeds result (deeds ++ back) store output = playDeeds result back store' output'

/-- There is no room for all the deeds, and whatever is to come behind them has no part in the
end. -/
def FillUp : Prop :=
  ∀ {α : Type} (result : Except ShellError α) (back : List Deed),
    playDeeds result (deeds ++ back) store output =
      ⟨.error (.channel .outputFull), store', output'⟩

variable {deeds store output store' output'} (result : Except ShellError α)

theorem GoThrough.alone (h : GoThrough deeds store output store' output') :
    playDeeds result deeds store output = ⟨result, store', output'⟩ := by
  have empty := h result []
  rwa [List.append_nil] at empty

theorem FillUp.alone (h : FillUp deeds store output store' output') :
    playDeeds result deeds store output = ⟨.error (.channel .outputFull), store', output'⟩ := by
  have empty := h result []
  rwa [List.append_nil] at empty

end

theorem goThrough_or_fillUp (deeds : List Deed) (store : Store) (output : Sink) :
    (∃ output', GoThrough deeds store output (store.afterAll (executedIn deeds)) output') ∨
      ∃ store' output', FillUp deeds store output store' output' := by
  induction deeds generalizing store output with
  | nil => exact .inl ⟨output, fun _ _ => rfl⟩
  | cons deed deeds ih =>
    cases deed with
    | execute statement => exact ih (store.after statement) output
    | say text =>
      by_cases fits : (output.offer text).Fits
      · simp only [GoThrough, FillUp, List.cons_append, playDeeds, fits, if_true]
        exact ih store (output.offer text)
      · simp only [FillUp, List.cons_append, playDeeds, fits, if_false]
        exact .inr ⟨store, output.offer text, fun _ _ => rfl⟩

namespace Shell

/-! ## Following an account -/

/-- Whatever the output has taken before and has room for, the action goes through the deeds. -/
def Follows (action : Shell α) (store : Store) (account : Account α) : Prop :=
  ∀ output events, Finish.ofRun (action.run ⟨store, output, events⟩) = account.play store output

section

variable {action : Shell α} {store : Store}

def ended (result : Except ShellError α) (session : Session) :
    EStateM.Result ShellError Session α :=
  match result with
  | .ok value => .ok value session
  | .error error => .error error session

theorem eq_ended {ran : EStateM.Result ShellError Session α} {result : Except ShellError α}
    {store : Store} {output : Sink} (same : Finish.ofRun ran = ⟨result, store, output⟩) :
    ∃ events, ran = ended result ⟨store, output, events⟩ := by
  cases ran with
  | ok value session => cases same; exact ⟨session.events, rfl⟩
  | error error session => cases same; exact ⟨session.events, rfl⟩

/-- An action goes through its account to the end, or it stops at a full output on the way. -/
theorem Follows.ends {account : Account α} (follows : action.Follows store account)
    (output : Sink) (events : Array Event) :
    let store' := store.afterAll (executedIn account.deeds)
    (∃ output' events',
      action.run ⟨store, output, events⟩ = ended account.result ⟨store', output', events'⟩ ∧
        GoThrough account.deeds store output store' output') ∨
    ∃ store' output' events', action.run ⟨store, output, events⟩ =
        .error (.channel .outputFull) ⟨store', output', events'⟩ ∧
      FillUp account.deeds store output store' output' := by
  have plays := follows output events
  rcases goThrough_or_fillUp account.deeds store output with ⟨output', fits⟩ | ⟨_, _, full⟩
  · obtain ⟨events', ran⟩ := eq_ended (plays.trans (fits.alone _))
    exact .inl ⟨output', events', ran, fits⟩
  · obtain ⟨events', ran⟩ := eq_ended (plays.trans (full.alone _))
    exact .inr ⟨_, _, events', ran, full⟩

theorem Follows.bind {next : α → Shell β} {first : Account α} {second : α → Account β}
    (follows : action.Follows store first)
    (goesOn : ∀ value, (next value).Follows (store.afterAll (executedIn first.deeds))
      (second value)) :
    (action >>= next).Follows store (first.andThen second) := by
  intro output events
  rw [EStateM.run_bind, Account.play, Account.andThen]
  rcases follows.ends output events with ⟨output', events', ran, fits⟩ | ⟨_, _, _, ran, full⟩
  · rw [ran]
    cases first.result with
    | ok value => exact (goesOn value output' events').trans (fits _ _).symm
    | error error => exact (fits.alone _).symm
  · -- The output is full on the way, so `next` is not run.
    rw [ran]
    cases first.result with
    | ok value => exact (full _ _).symm
    | error error => exact (full.alone _).symm

/-- A handler that passes the failures of the output on is as good as not called when the output is
full. -/
theorem Follows.rescue {handler : ShellError → Shell α} {first : Account α}
    {handle : ShellError → Account α}
    (passesOn : ∀ error, handler (.channel error) = throw (.channel error))
    (follows : action.Follows store first)
    (goesOn : ∀ error, (handler error).Follows (store.afterAll (executedIn first.deeds))
      (handle error)) :
    (tryCatch action handler).Follows store (first.rescue handle) := by
  obtain ⟨deeds, result⟩ := first
  intro output events
  -- A failure keeps the session as it is: nothing is taken back before the handler is called.
  show Finish.ofRun (EStateM.tryCatch action handler _) = _
  delta EStateM.tryCatch
  rw [Account.play, Account.rescue]
  rcases follows.ends output events with ⟨output', events', ran, fits⟩ | ⟨_, _, _, ran, full⟩
  · simp only [show action _ = _ from ran]
    cases result with
    | ok value => exact (fits.alone _).symm
    | error error => exact (goesOn error output' events').trans (fits _ _).symm
  · simp only [show action _ = _ from ran, passesOn]
    cases result with
    | ok value => exact (full.alone _).symm
    | error error => exact (full _ _).symm

end

/-! ## Single actions -/

variable (settings : Settings) (store : Store)

theorem follows_pure (value : α) : (pure value : Shell α).Follows store ⟨[], .ok value⟩ :=
  fun _ _ => rfl

theorem follows_throw (error : ShellError) :
    (throw error : Shell α).Follows store ⟨[], .error error⟩ :=
  fun _ _ => rfl

theorem follows_observe (observed : List Event) :
    (observe observed).Follows store ⟨[], .ok ()⟩ :=
  fun _ _ => rfl

theorem follows_say (text : String) : (say text).Follows store ⟨[.say text], .ok ()⟩ := by
  intro output events
  rw [Account.play, playDeeds]
  by_cases fits : (output.offer text).Fits
  · have said : (say text).run ⟨store, output, events⟩ =
        .ok () ⟨store, output.offer text, events⟩ := by
      rw [Sink.offer] at fits
      simp [say, fits, Sink.offer]
    rw [if_pos fits, said]
    rfl
  · have said : (say text).run ⟨store, output, events⟩ =
        .error (.channel .outputFull) ⟨store, output.offer text, events⟩ := by
      rw [Sink.offer] at fits
      simp [say, fits, Sink.offer]
    rw [if_neg fits, said]
    rfl

/-- What comes of executing a statement. -/
def performance (statement : Statement) : Account Outcome :=
  ⟨[.execute statement], match store.execute statement with
    | .ok outcome _ => .ok outcome
    | .error error _ => .error (.execution error)⟩

theorem follows_perform (statement : Statement) :
    (perform statement).Follows store (performance store statement) := by
  intro output events
  rw [Account.play, performance, playDeeds, Store.after]
  cases executed : store.execute statement with
  | ok outcome store' =>
    simp only [perform, EStateM.run_bind, EStateM.run_get, executed]
    rfl
  | error error store' =>
    simp only [perform, EStateM.run_bind, EStateM.run_get, executed]
    rfl

/-! ## Statements and scripts -/

/-- The repetition of a statement, if that is asked for. -/
def repetition (statement : Statement) : Account Unit :=
  ⟨if settings.echo then [.say (echoed settings statement)] else [], .ok ()⟩

def statementAccount (statement : Statement) : Account Unit :=
  (repetition settings statement).andThen fun _ =>
    (performance store statement).andThen fun outcome => ⟨[.say outcome.report], .ok ()⟩

/-- A script is gone through up to the first statement that fails. -/
def statementsAccount : Store → Script → Account Unit
  | _, [] => ⟨[], .ok ()⟩
  | store, statement :: script =>
    (statementAccount settings store statement).andThen fun _ =>
      statementsAccount (store.after statement) script

def scriptAccount (text : String) : Account Unit :=
  match Script.parse text with
  | .error error => ⟨[], .error (.parse error)⟩
  | .ok script => statementsAccount settings store script

theorem executedIn_statementAccount (statement : Statement) :
    executedIn (statementAccount settings store statement).deeds = [statement] := by
  have silent : executedIn (repetition settings statement).deeds = [] := by
    rw [repetition]
    split <;> rfl
  have performed : executedIn ((performance store statement).andThen
      fun outcome => ⟨[.say outcome.report], .ok ()⟩ : Account Unit).deeds = [statement] := by
    rw [performance]
    cases store.execute statement <;> rfl
  rw [statementAccount]
  exact (executedIn_append _ _).trans (by rw [silent, List.nil_append]; exact performed)

theorem follows_runStatement (statement : Statement) :
    (runStatement settings statement).Follows store
      (statementAccount settings store statement) := by
  have reports := (follows_perform store statement).bind fun outcome =>
    (follows_say _ outcome.report).bind fun _ => follows_observe _ [.executedStatement statement]
  unfold runStatement
  by_cases echo : settings.echo = true
  · have repeats := follows_say store (echoed settings statement)
    rw [if_pos echo, statementAccount, repetition, if_pos echo]
    rw [echoed, if_pos echo] at repeats ⊢
    exact repeats.bind fun _ => reports
  · rw [if_neg echo, statementAccount, repetition, if_neg echo]
    exact reports

theorem follows_runStatements (script : Script) :
    (runStatements settings script).Follows store (statementsAccount settings store script) := by
  induction script generalizing store with
  | nil => exact follows_pure store ()
  | cons statement script ih =>
    -- A statement is executed once, whatever is said around it, and the others go on from there.
    refine (follows_runStatement settings store statement).bind fun _ => ?_
    rw [executedIn_statementAccount]
    exact ih (store.after statement)

theorem follows_runScript (text : String) :
    (runScript settings text).Follows store (scriptAccount settings store text) := by
  have observes := follows_observe store (Script.read text).2
  unfold runScript scriptAccount Script.parse
  cases read : (Script.read text).1 with
  | error error =>
    simp only [read]
    exact observes.bind fun _ => follows_throw store (.parse error)
  | ok script =>
    simp only [read]
    exact observes.bind fun _ => follows_runStatements settings store script

/-! ## Conversations -/

/-- What a conversation does about a failure: it says so, unless it is the output that fails. -/
def answer : ShellError → Account Unit
  | .channel error => ⟨[], .error (.channel error)⟩
  | error => ⟨[.say (complaint settings (.error error))], .ok ()⟩

def submitAccount (text : String) : Account Unit :=
  (scriptAccount settings store text).rescue (answer settings)

def lineAccount (pending line : String) : Account Turn :=
  let text := pending ++ line ++ "\n"
  if pending.isEmpty && isQuit line then ⟨[], .ok .quit⟩
  else if Text.isBlankText text.toList then ⟨[], .ok (.proceed "")⟩
  else if isComplete text then
    (submitAccount settings store text).andThen fun _ => ⟨[], .ok (.proceed "")⟩
  else ⟨[], .ok (.proceed text)⟩

def question (pending : String) : Account Unit :=
  ⟨[.say (promptText settings pending)], .ok ()⟩

def converseAccount : Store → String → List InputLine → Account Unit
  | _, pending, [] => ⟨[.say (promptText settings pending), .say "\n"], .ok ()⟩
  | store, pending, line :: rest =>
    (question settings pending).andThen fun _ => match line with
      | .invalidUtf8 => ⟨[], .error (.channel .invalidUtf8)⟩
      | .text line =>
        let taken := lineAccount settings store pending line
        taken.andThen fun
          | .quit => ⟨[], .ok ()⟩
          | .proceed pending =>
            converseAccount (store.afterAll (executedIn taken.deeds)) pending rest

def pipedAccount (input : List InputLine) : Account Unit :=
  ⟨.say welcomeText :: (converseAccount settings store "" input).deeds,
    (converseAccount settings store "" input).result⟩

theorem follows_submit (text : String) :
    (submit settings text).Follows store (submitAccount settings store text) := by
  refine (follows_runScript settings store text).rescue (fun _ => rfl) fun error => ?_
  have complains (error : ShellError) :=
    (follows_observe (store.afterAll (executedIn (scriptAccount settings store text).deeds))
      [.statementFailed (error.text settings.color)]).bind fun _ =>
        follows_say _ (complaint settings (.error error))
  cases error with
  | channel error => exact follows_throw _ (.channel error)
  | parse error => exact complains (.parse error)
  | execution error => exact complains (.execution error)

theorem follows_takeLine (pending line : String) :
    (takeLine settings pending line).Follows store (lineAccount settings store pending line) := by
  by_cases quits : (pending.isEmpty && isQuit line) = true
  · simp only [takeLine, lineAccount, quits, if_true]
    exact follows_pure store Turn.quit
  by_cases blank : Text.isBlankText (pending ++ line ++ "\n").toList = true
  · simp only [takeLine, lineAccount, quits, blank, Bool.false_eq_true, if_true, if_false]
    exact follows_pure store (Turn.proceed "")
  by_cases complete : isComplete (pending ++ line ++ "\n") = true
  · simp only [takeLine, lineAccount, quits, blank, complete, Bool.false_eq_true, if_true, if_false]
    exact (follows_submit settings store _).bind fun _ => follows_pure _ (Turn.proceed "")
  · simp only [takeLine, lineAccount, quits, blank, complete, Bool.false_eq_true, if_false]
    exact follows_pure store (Turn.proceed _)

theorem follows_converse (pending : String) (input : List InputLine) :
    (converse settings pending input).Follows store
      (converseAccount settings store pending input) := by
  induction input generalizing store pending with
  | nil =>
    unfold converse converseAccount
    exact (follows_say store (promptText settings pending)).bind fun _ => follows_say store "\n"
  | cons line rest ih =>
    unfold converse converseAccount
    refine (follows_say store (promptText settings pending)).bind fun _ => ?_
    cases line with
    | invalidUtf8 => exact follows_throw store (.channel .invalidUtf8)
    | text line =>
      refine (follows_takeLine settings store pending line).bind fun turn => ?_
      cases turn with
      | quit => exact follows_pure _ ()
      | proceed pending => exact ih _ pending

theorem follows_runPiped (input : List InputLine) :
    (runPiped settings input).Follows store (pipedAccount settings store input) :=
  (follows_say store welcomeText).bind fun _ => follows_converse settings store "" input

end Shell

end SqlShell
