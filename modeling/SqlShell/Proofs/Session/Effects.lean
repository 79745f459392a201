import SqlShell.Session.Conversation

/-!
# What an action does when there is room for all it says

Such an action is told by what it makes of a store: its result, the store it leaves behind, and the
text it says. That is its `Effect`.

An action is `Steady` when this does not depend on what has been said and observed before. The
actions of a shell are, and on steady actions `Shell.effect` takes a sequence of actions to the
sequence of their effects (`effect_bind`), so the effect of a long conversation can be computed
from those of its parts.
-/

namespace SqlShell

variable {α β : Type}

structure Effect (α : Type) where
  result : Except ShellError α
  store : Store
  text : String

namespace Effect

/-- The effect of going on with `next`, unless the first part fails. -/
def andThen (first : Effect α) (next : α → Store → Effect β) : Effect β :=
  match first.result with
  | .ok value =>
    { next value first.store with text := first.text ++ (next value first.store).text }
  | .error error => ⟨.error error, first.store, first.text⟩

/-- What can be seen of a finished action. -/
def ofRun : EStateM.Result ShellError Session α → Effect α
  | .ok value session => ⟨.ok value, session.store, session.output.offered⟩
  | .error error session => ⟨.error error, session.store, session.output.offered⟩

/-- How an action with this effect ends, if `said` had been said before. -/
def after (effect : Effect α) (said : String) (events : Array Event) :
    EStateM.Result ShellError Session α :=
  let session : Session := ⟨effect.store, { offered := said ++ effect.text }, events⟩
  match effect.result with
  | .ok value => .ok value session
  | .error error => .error error session

theorem ofRun_after (effect : Effect α) (events : Array Event) :
    ofRun (effect.after "" events) = effect := by
  obtain ⟨result, store, text⟩ := effect
  cases result <;> simp [after, ofRun]

end Effect

namespace Shell

/-! ## Actions and their effects -/

/-- What an action makes of a store. -/
def effect (action : Shell α) (store : Store) : Effect α :=
  .ofRun (action.run { store })

/-- Whatever was said and observed before, the action has this effect on the store. -/
def Does (action : Shell α) (store : Store) (effect : Effect α) : Prop :=
  ∀ said events, ∃ events',
    action.run ⟨store, { offered := said }, events⟩ = effect.after said events'

def Steady (action : Shell α) : Prop :=
  ∀ store, action.Does store (action.effect store)

variable {action : Shell α} {store : Store}

theorem Does.effect_eq {effect : Effect α} (does : action.Does store effect) :
    action.effect store = effect := by
  obtain ⟨events, run⟩ := does "" #[]
  show Effect.ofRun (action.run { store }) = effect
  rw [run, Effect.ofRun_after]

theorem Does.steady {effect : Store → Effect α} (does : ∀ store, action.Does store (effect store)) :
    action.Steady := by
  intro store
  rw [(does store).effect_eq]
  exact does store

theorem Does.of_text_eq {result : Except ShellError α} {store' : Store} {text text' : String}
    (does : action.Does store ⟨result, store', text⟩) (same : text = text') :
    action.Does store ⟨result, store', text'⟩ :=
  same ▸ does

section

variable {value : α} {error : ShellError} {store' store'' : Store} {text more : String}

theorem Does.bind_ok {next : α → Shell β} {result : Except ShellError β}
    (does : action.Does store ⟨.ok value, store', text⟩)
    (goesOn : (next value).Does store' ⟨result, store'', more⟩) :
    (action >>= next).Does store ⟨result, store'', text ++ more⟩ := by
  intro said events
  obtain ⟨events', run⟩ := does said events
  obtain ⟨events'', run'⟩ := goesOn (said ++ text) events'
  refine ⟨events'', ?_⟩
  rw [EStateM.run_bind, run]
  show (next value).run ⟨store', { offered := said ++ text }, events'⟩ = _
  rw [run', Effect.after, Effect.after, String.append_assoc]

theorem Does.seq {action : Shell Unit} {next : Shell β} {result : Except ShellError β}
    (does : action.Does store ⟨.ok (), store', text⟩)
    (goesOn : next.Does store' ⟨result, store'', more⟩) :
    (action >>= fun _ => next).Does store ⟨result, store'', text ++ more⟩ :=
  does.bind_ok goesOn

theorem Does.bind_error {next : α → Shell β}
    (does : action.Does store ⟨.error error, store', text⟩) :
    (action >>= next).Does store ⟨.error error, store', text⟩ := by
  intro said events
  obtain ⟨events', run⟩ := does said events
  refine ⟨events', ?_⟩
  rw [EStateM.run_bind, run]
  rfl

theorem Does.tryCatch_ok {handler : ShellError → Shell α}
    (does : action.Does store ⟨.ok value, store', text⟩) :
    (tryCatch action handler).Does store ⟨.ok value, store', text⟩ := by
  intro said events
  obtain ⟨events', run⟩ := does said events
  refine ⟨events', ?_⟩
  show EStateM.tryCatch action handler _ = _
  delta EStateM.tryCatch
  simp only [show action _ = _ from run]
  rfl

theorem Does.tryCatch_error {handler : ShellError → Shell α} {result : Except ShellError α}
    (does : action.Does store ⟨.error error, store', text⟩)
    (goesOn : (handler error).Does store' ⟨result, store'', more⟩) :
    (tryCatch action handler).Does store ⟨result, store'', text ++ more⟩ := by
  intro said events
  obtain ⟨events', run⟩ := does said events
  obtain ⟨events'', run'⟩ := goesOn (said ++ text) events'
  refine ⟨events'', ?_⟩
  show EStateM.tryCatch action handler _ = _
  delta EStateM.tryCatch
  simp only [show action _ = _ from run]
  -- The handler works on the session that the failure has left.
  show (handler error).run ⟨store', { offered := said ++ text }, events'⟩ = _
  rw [run', Effect.after, Effect.after, String.append_assoc]

end

theorem Does.bind {next : α → Shell β} {first : Effect α} {second : α → Store → Effect β}
    (does : action.Does store first)
    (goesOn : ∀ value, (next value).Does first.store (second value first.store)) :
    (action >>= next).Does store (first.andThen second) := by
  obtain ⟨result, store', text⟩ := first
  cases result with
  | ok value => exact does.bind_ok (goesOn value)
  | error error => exact does.bind_error

/-! ## Sequences -/

theorem Steady.bind {next : α → Shell β} (steady : action.Steady)
    (goesOn : ∀ value, (next value).Steady) : (action >>= next).Steady :=
  Does.steady fun store => (steady store).bind fun value => goesOn value _

theorem effect_bind {next : α → Shell β} (steady : action.Steady)
    (goesOn : ∀ value, (next value).Steady) (store : Store) :
    (action >>= next).effect store =
      (action.effect store).andThen fun value => (next value).effect :=
  ((steady store).bind fun value => goesOn value _).effect_eq

/-! ## Single actions -/

theorem does_pure (value : α) (store : Store) :
    (pure value : Shell α).Does store ⟨.ok value, store, ""⟩ := by
  intro said events
  exact ⟨events, by simp [Effect.after]⟩

theorem does_throw (error : ShellError) (store : Store) :
    (throw error : Shell α).Does store ⟨.error error, store, ""⟩ := by
  intro said events
  exact ⟨events, by simp only [Effect.after, String.append_empty]; rfl⟩

theorem does_say (text : String) (store : Store) :
    (say text).Does store ⟨.ok (), store, text⟩ := by
  intro said events
  -- An output without a limit has room for whatever is offered.
  have fits : Sink.Fits { offered := said ++ text } := by simp [Sink.Fits]
  exact ⟨events, by simp [say, fits, Effect.after]⟩

theorem does_observe (observed : List Event) (store : Store) :
    (observe observed).Does store ⟨.ok (), store, ""⟩ := by
  intro said events
  exact ⟨events ++ observed.toArray, by simp [observe, Effect.after]⟩

/-- What executing a statement comes to, which says nothing yet. -/
def performed : EStateM.Result ExecutionError Store Outcome → Effect Outcome
  | .ok outcome store => ⟨.ok outcome, store, ""⟩
  | .error error store => ⟨.error (.execution error), store, ""⟩

theorem does_perform (statement : Statement) (store : Store) :
    (perform statement).Does store (performed (store.execute statement)) := by
  intro said events
  cases executed : store.execute statement with
  | ok outcome store' =>
    refine ⟨events ++ outcome.events.toArray, ?_⟩
    simp only [perform, EStateM.run_bind, EStateM.run_get, executed, performed, Effect.after,
      String.append_empty]
    rfl
  | error error store' =>
    refine ⟨events, ?_⟩
    simp only [perform, EStateM.run_bind, EStateM.run_get, executed, performed, Effect.after,
      String.append_empty]
    rfl

end Shell

end SqlShell
