import SqlShell.Proofs.Session.Piped
import SqlShell.Session.LineEditor

/-!
# Piped and interactive conversations in lockstep

A conversation over a piped input and one through a line editor are loops of their own. At a pipe both
are cases of a third one (`converseAs`), which shows prompts or leaves that to whoever hands in the
lines. On the same lines it has the same course either way: it takes one line after the other, and what
is said to a line, what is pending behind it and whether it is the last depend on the lines and on the
store, and not on who shows the prompts or what they are.
-/

namespace SqlShell

/-! ## Courses -/

/-- A line, what is pending in front of it, and what is said to it. -/
structure Exchange where
  pending : String
  line : String
  reply : String

/-- Whether the line ends the conversation. -/
def Exchange.Quits (exchange : Exchange) : Prop :=
  exchange.pending = "" ∧ EndsInput exchange.line.toList

structure Course where
  exchanges : List Exchange
  /-- What is pending at the end of the input, if it is reached. -/
  pending : Option String
  store : Store

namespace Course

def behind (exchange : Exchange) (course : Course) : Course :=
  { course with exchanges := exchange :: course.exchanges }

/-- What is said in a course, with something in front of each reply. -/
def said (asks : String → String) (course : Course) : String :=
  String.join (course.exchanges.map fun exchange => asks exchange.pending ++ exchange.reply)

theorem said_behind (asks : String → String) (exchange : Exchange) (course : Course) :
    (course.behind exchange).said asks =
      asks exchange.pending ++ exchange.reply ++ course.said asks := by
  simp [said, behind, String.join_cons]

/-- A course reads lines up to the first quit word that nothing is pending in front of, and all lines
when there is none. -/
structure ReadsOn (course : Course) (lines : List String) : Prop where
  reads : course.exchanges.map (·.line) = lines.take course.exchanges.length
  quits : course.pending = none → ∃ front last, course.exchanges = front ++ [last] ∧
    last.Quits ∧ ∀ exchange ∈ front, ¬exchange.Quits
  readsAll : course.pending ≠ none → course.exchanges.length = lines.length ∧
    ∀ exchange ∈ course.exchanges, ¬exchange.Quits

theorem readsOn_quit {exchange : Exchange} (quits : exchange.Quits) (store : Store)
    (lines : List String) : ReadsOn ⟨[exchange], none, store⟩ (exchange.line :: lines) where
  reads := by simp
  quits _ := ⟨[], exchange, rfl, quits, by simp⟩
  readsAll reached := absurd rfl reached

theorem ReadsOn.behind {course : Course} {lines : List String} (runs : course.ReadsOn lines)
    {exchange : Exchange} (goesOn : ¬exchange.Quits) :
    (course.behind exchange).ReadsOn (exchange.line :: lines) where
  reads := by simp [Course.behind, runs.reads]
  quits ended := by
    obtain ⟨front, last, parts, quits, first⟩ := runs.quits ended
    refine ⟨exchange :: front, last, by simp [Course.behind, parts], quits, ?_⟩
    simpa [goesOn] using first
  readsAll reached := by
    obtain ⟨all, noQuit⟩ := runs.readsAll reached
    exact ⟨by simp [Course.behind, all], by simpa [Course.behind, goesOn] using noQuit⟩

end Course

/-! ## Editors at a pipe -/

/-- What is relied on of a line editor at a pipe: it shows no prompts, it hands in the lines of the
input and then its end, and adding to the history never fails. -/
structure LineEditor.AtPipe (editor : LineEditor) (input : List InputLine) : Prop where
  silent : editor.prompts = false
  handsIn : editor.readings = input.map (·.reading)
  remembers (line : String) : editor.remember line = .ok ()

theorem LineEditor.atPipe_piped (input : List InputLine) :
    (LineEditor.piped input).AtPipe input :=
  ⟨rfl, rfl, fun _ => rfl⟩

/-- Without a backspace in it, a text goes through the editor line by line. -/
theorem InputLine.ofTyped_of_not_mem {input : String} (h : '\x08' ∉ input.toList) :
    InputLine.ofTyped input = (Text.textLines input.toList).map .ofChars := by
  refine List.map_congr_left fun line cut => ?_
  have clean : '\x08' ∉ line := fun inside => h ((Text.cutInto_textLines input.toList).mem cut inside)
  rw [editedLine_of_not_mem line clean, InputLine.ofChars]

theorem LineEditor.atPipe_typed {input : String} (h : '\x08' ∉ input.toList) :
    (LineEditor.piped (InputLine.ofTyped input)).AtPipe
      ((Text.textLines input.toList).map .ofChars) :=
  InputLine.ofTyped_of_not_mem h ▸ LineEditor.atPipe_piped _

namespace Shell

variable (settings : Settings)

/-! ## One loop for both -/

/-- Who shows the prompts: the conversation itself, which also ends the last line of its output at
the end of the input, or whoever hands in the lines. -/
inductive Prompting where
  | shown
  | hidden
  deriving DecidableEq

/-- Converse about the lines of an input, whoever shows the prompts. -/
def converseAs (prompting : Prompting) (pending : String) : List InputLine → Shell Unit
  | [] => do
    if prompting = .shown then
      say (promptText settings pending)
      say "\n"
  | line :: rest => do
    if prompting = .shown then
      say (promptText settings pending)
    match line with
    | .invalidUtf8 => throw (.channel .invalidUtf8)
    | .text line =>
      match ← takeLine settings pending line with
      | .quit => return
      | .proceed pending => converseAs prompting pending rest

def conversation (prompting : Prompting) (input : List InputLine) : Shell Unit := do
  say welcomeText
  converseAs settings prompting "" input

theorem converse_eq (pending : String) (lines : List InputLine) :
    converse settings pending lines = converseAs settings .shown pending lines := by
  induction lines generalizing pending with
  | nil => rfl
  | cons line lines ih =>
    cases line with
    | invalidUtf8 => rfl
    | text line =>
      -- Both loops take the line, and go on with the same turn.
      refine bind_congr fun _ => bind_congr fun turn => ?_
      cases turn with
      | quit => rfl
      | proceed pending => exact ih pending

theorem runPiped_eq_conversation (input : List InputLine) :
    runPiped settings input = conversation settings .shown input := by
  rw [runPiped, conversation, converse_eq]

section

variable {settings} {editor : LineEditor} {input : List InputLine}

/-- At a pipe, the loop with an editor is the loop that reads the lines itself, less the prompts. -/
theorem converseWith_reading (atPipe : editor.AtPipe input) (pending : String)
    (lines : List InputLine) :
    converseWith settings editor pending (lines.map (·.reading)) =
      converseAs settings .hidden pending lines := by
  have asks (prompt : String) : ask editor prompt = pure () := by simp [ask, atPipe.silent]
  induction lines generalizing pending with
  | nil => exact asks _
  | cons line lines ih =>
    cases line with
    | invalidUtf8 => simp [converseWith, converseAs, asks, InputLine.reading]
    | text line =>
      have remembered : remember editor line = pure () := by simp [remember, atPipe.remembers]
      have read : (InputLine.text line).reading = .line line := rfl
      simp only [List.map_cons, read, converseWith, converseAs, asks, remembered, ite_self, pure_bind,
        reduceCtorEq, if_false]
      refine bind_congr fun turn => ?_
      cases turn with
      | quit => rfl
      | proceed pending => exact ih pending

theorem runEditor_eq_conversation (atPipe : editor.AtPipe input) :
    runEditor settings editor = conversation settings .hidden input := by
  rw [runEditor, conversation, atPipe.handsIn, converseWith_reading atPipe]

end

/-! ## One line -/

/-- How a conversation goes on behind a line. -/
def nextTurn (pending line : String) : Turn :=
  let text := pending ++ line ++ "\n"
  if pending.isEmpty && isQuit line then .quit
  else if Text.isBlankText text.toList || isComplete text then .proceed ""
  else .proceed text

theorem does_takeLine (store : Store) (pending line : String) :
    let taken := (takeLine settings pending line).effect store
    (takeLine settings pending line).Does store
      ⟨.ok (nextTurn pending line), taken.store, taken.text⟩ := by
  intro taken
  -- What is taken is known once there is any effect with this result.
  suffices ends : ∃ store' text, (takeLine settings pending line).Does store
      ⟨.ok (nextTurn pending line), store', text⟩ by
    obtain ⟨store', text, does⟩ := ends
    have same : taken = ⟨.ok (nextTurn pending line), store', text⟩ := does.effect_eq
    rw [same]
    exact does
  by_cases quits : (pending.isEmpty && isQuit line) = true
  · simp only [takeLine, nextTurn, quits, if_true]
    exact ⟨_, _, does_pure Turn.quit store⟩
  by_cases blank : Text.isBlankText (pending ++ line ++ "\n").toList = true
  · simp only [takeLine, nextTurn, quits, blank, Bool.false_eq_true, Bool.true_or, if_true, if_false]
    exact ⟨_, _, does_pure (Turn.proceed "") store⟩
  by_cases complete : isComplete (pending ++ line ++ "\n") = true
  · simp only [takeLine, nextTurn, quits, blank, complete, Bool.false_eq_true, Bool.or_true, if_true,
      if_false]
    exact ⟨_, _, (does_submit settings store _).seq (does_pure (Turn.proceed "") _)⟩
  · simp only [takeLine, nextTurn, quits, blank, complete, Bool.false_eq_true, Bool.or_self, if_false]
    exact ⟨_, _, does_pure (Turn.proceed _) store⟩

theorem nextTurn_eq_quit_iff {pending line : String} :
    nextTurn pending line = .quit ↔ pending = "" ∧ EndsInput line.toList := by
  rw [endsInput_iff, String.ofList_toList]
  simp only [nextTurn]
  split_ifs <;> simp_all

/-! ## The course of a conversation -/

/-- What conversations make of some lines. -/
def course (store : Store) (pending : String) : List String → Course
  | [] => ⟨[], some pending, store⟩
  | line :: rest =>
    let taken := (takeLine settings pending line).effect store
    match nextTurn pending line with
    | .quit => ⟨[⟨pending, line, taken.text⟩], none, taken.store⟩
    | .proceed pending' => (course taken.store pending' rest).behind ⟨pending, line, taken.text⟩

section

variable {store : Store} {pending line pending' : String} (rest : List String)

theorem course_quit (quits : nextTurn pending line = .quit) :
    let taken := (takeLine settings pending line).effect store
    course settings store pending (line :: rest) =
      ⟨[⟨pending, line, taken.text⟩], none, taken.store⟩ := by
  rw [course, quits]

theorem course_proceed (goesOn : nextTurn pending line = .proceed pending') :
    let taken := (takeLine settings pending line).effect store
    course settings store pending (line :: rest) =
      (course settings taken.store pending' rest).behind ⟨pending, line, taken.text⟩ := by
  rw [course, goesOn]

end

variable (store : Store) (pending : String)

/-! ## Which lines are read -/

theorem course_readsOn (lines : List String) : (course settings store pending lines).ReadsOn lines := by
  -- Each line meets another store and another pending text.
  induction lines generalizing store pending with
  | nil => exact ⟨rfl, nofun, fun _ => ⟨rfl, by simp [course]⟩⟩
  | cons line lines ih =>
    let exchange : Exchange := ⟨pending, line, ((takeLine settings pending line).effect store).text⟩
    cases turn : nextTurn pending line with
    | quit =>
      have quits : exchange.Quits := nextTurn_eq_quit_iff.1 turn
      rw [course_quit settings lines turn]
      exact Course.readsOn_quit quits _ lines
    | proceed pending' =>
      have goesOn : ¬exchange.Quits := fun quits => by
        have ends : nextTurn pending line = .quit := nextTurn_eq_quit_iff.2 quits
        cases turn.symm.trans ends
      rw [course_proceed settings lines turn]
      exact (ih _ pending').behind goesOn

/-- The lines that are read are enough. -/
theorem course_take (lines : List String) :
    course settings store pending
      (lines.take (course settings store pending lines).exchanges.length) =
        course settings store pending lines := by
  induction lines generalizing store pending with
  | nil => rfl
  | cons line lines ih =>
    cases turn : nextTurn pending line with
    | quit =>
      rw [course_quit settings lines turn]
      exact course_quit settings [] turn
    | proceed pending' =>
      rw [course_proceed settings lines turn, Course.behind, List.length_cons, List.take_succ_cons,
        course_proceed settings _ turn, ih]
      rfl

/-- In front of each line that is read, the conversation goes on. -/
theorem course_take_open (lines : List String) {count : Nat}
    (within : count < (course settings store pending lines).exchanges.length) :
    ∃ pending', (course settings store pending (lines.take count)).pending = some pending' := by
  induction lines generalizing store pending count with
  | nil => exact absurd within (by simp [course])
  | cons line lines ih =>
    cases count with
    | zero =>
      -- In front of the first line nothing has been read.
      exact ⟨pending, rfl⟩
    | succ count =>
      cases turn : nextTurn pending line with
      | quit =>
        rw [course_quit settings lines turn] at within
        exact absurd within (by simp)
      | proceed pending' =>
        rw [course_proceed settings lines turn] at within
        rw [List.take_succ_cons, course_proceed settings _ turn]
        exact ih _ _ (Nat.lt_of_succ_lt_succ within)

/-! ## The prompt is of no account -/

theorem runStatements_prompt (prompt : String) (script : Script) :
    runStatements { settings with prompt } script = runStatements settings script := by
  induction script with
  | nil => rfl
  | cons statement script ih => rw [runStatements, runStatements, ih]; rfl

theorem takeLine_prompt (prompt line : String) :
    takeLine { settings with prompt } pending line = takeLine settings pending line := by
  have submits (text : String) : submit { settings with prompt } text = submit settings text := by
    simp only [submit, runScript, runStatements_prompt]
  simp only [takeLine, submits]

theorem course_prompt (prompt : String) (lines : List String) :
    course { settings with prompt } store pending lines = course settings store pending lines := by
  induction lines generalizing store pending with
  | nil => rfl
  | cons line lines ih => simp only [course, takeLine_prompt, ih]

/-! ## What a conversation does -/

/-- What is said to ask for a line. -/
def asked (prompting : Prompting) (pending : String) : String :=
  if prompting = .shown then promptText settings pending else ""

/-- What is said at the end of the input. -/
def closing (prompting : Prompting) (pending : String) : String :=
  if prompting = .shown then promptText settings pending ++ "\n" else ""

variable (prompting : Prompting)

theorem does_converse_nil :
    (converseAs settings prompting pending []).Does store
      ⟨.ok (), store, closing settings prompting pending⟩ := by
  cases prompting with
  | shown => exact (does_say _ store).seq (does_say "\n" store)
  | hidden => exact does_pure () store

/-- How a conversation goes on. -/
def goOn (rest : List InputLine) : Turn → Shell Unit
  | .quit => pure ()
  | .proceed pending => converseAs settings prompting pending rest

/-- One step of a conversation, whoever shows the prompts. -/
theorem does_converse_cons {line : String} {turn : Turn} (next : nextTurn pending line = turn)
    (rest : List InputLine) {result : Except ShellError Unit} {store' : Store} {more : String} :
    let taken := (takeLine settings pending line).effect store
    (goOn settings prompting rest turn).Does taken.store ⟨result, store', more⟩ →
    (converseAs settings prompting pending (.text line :: rest)).Does store
      ⟨result, store', asked settings prompting pending ++ taken.text ++ more⟩ := by
  intro taken goesOn
  have takes : (takeLine settings pending line >>= goOn settings prompting rest).Does store
      ⟨result, store', taken.text ++ more⟩ :=
    (does_takeLine settings store pending line).bind_ok (next ▸ goesOn)
  cases prompting with
  | shown =>
    have asks := (does_say (promptText settings pending) store).seq takes
    exact asks.of_text_eq (String.append_assoc ..).symm
  | hidden => exact takes.of_text_eq (by simp [asked])

/-- A quit word ends the conversation, whatever comes behind it. -/
theorem does_converse_quit (lines : List String) (rest : List InputLine)
    (quits : (course settings store pending lines).pending = none) :
    (converseAs settings prompting pending (lines.map .text ++ rest)).Does store
      { result := .ok ()
        store := (course settings store pending lines).store
        text := (course settings store pending lines).said (asked settings prompting) } := by
  induction lines generalizing store pending with
  | nil => cases quits
  | cons line lines ih =>
    cases turn : nextTurn pending line with
    | quit =>
      have played := does_converse_cons settings store pending prompting turn
        (lines.map InputLine.text ++ rest) (does_pure () _)
      rw [course_quit settings lines turn]
      exact played.of_text_eq (by simp [Course.said, String.join_cons])
    | proceed pending' =>
      rw [course_proceed settings lines turn] at quits ⊢
      have played := does_converse_cons settings store pending prompting turn
        (lines.map InputLine.text ++ rest) (ih _ pending' quits)
      exact played.of_text_eq (by rw [Course.said_behind])

/-- A conversation that goes on behind some lines. -/
theorem does_converse_open {lines : List String} {rest : List InputLine} {pending' : String}
    (reached : (course settings store pending lines).pending = some pending')
    {result : Except ShellError Unit} {store' : Store} {more : String}
    (goesOn : (converseAs settings prompting pending' rest).Does
      (course settings store pending lines).store ⟨result, store', more⟩) :
    (converseAs settings prompting pending (lines.map .text ++ rest)).Does store
      { result := result
        store := store'
        text := (course settings store pending lines).said (asked settings prompting) ++ more } := by
  induction lines generalizing store pending with
  | nil =>
    obtain rfl : pending = pending' := Option.some.inj reached
    exact goesOn.of_text_eq (by simp [course, Course.said])
  | cons line lines ih =>
    cases turn : nextTurn pending line with
    | quit =>
      rw [course_quit settings lines turn] at reached
      cases reached
    | proceed next =>
      -- `goesOn` starts from the store that the whole course leaves, so it serves the rest as well.
      rw [course_proceed settings lines turn] at reached goesOn ⊢
      have played := does_converse_cons settings store pending prompting turn
        (lines.map InputLine.text ++ rest) (ih _ next reached goesOn)
      exact played.of_text_eq (by simp only [Course.said_behind, String.append_assoc])

theorem does_converse (lines : List String) :
    let course := course settings store pending lines
    (converseAs settings prompting pending (lines.map .text)).Does store
      { result := .ok ()
        store := course.store
        text := course.said (asked settings prompting) ++
          course.pending.elim "" (closing settings prompting) } := by
  intro course
  cases reached : course.pending with
  | none =>
    have quits := does_converse_quit settings store pending prompting lines [] reached
    rw [List.append_nil] at quits
    exact quits.of_text_eq (by simp [course])
  | some pending' =>
    have ends := does_converse_open settings store pending prompting reached
      (does_converse_nil settings _ pending' prompting)
    rw [List.append_nil] at ends
    exact ends

theorem does_converse_invalid (rest : List InputLine) :
    (converseAs settings prompting pending (.invalidUtf8 :: rest)).Does store
      ⟨.error (.channel .invalidUtf8), store, asked settings prompting pending⟩ := by
  have fails : (throw (.channel .invalidUtf8) : Shell Unit).Does store
      ⟨.error (.channel .invalidUtf8), store, ""⟩ := does_throw _ store
  cases prompting with
  | shown => exact ((does_say _ store).seq fails).of_text_eq (String.append_empty ..)
  | hidden => exact fails

/-! ## Whole conversations -/

theorem effect_runPiped_of_course (lines : List String) :
    let course := course settings store "" lines
    (runPiped settings (lines.map .text)).effect store =
      { result := .ok ()
        store := course.store
        text := welcomeText ++ course.said (promptText settings) ++
          match course.pending with
          | none => ""
          | some pending => promptText settings pending ++ "\n" } := by
  intro course
  have converses := (does_say welcomeText store).seq (does_converse settings store "" .shown lines)
  have closes : course.pending.elim "" (closing settings .shown) = match course.pending with
      | none => ""
      | some pending => promptText settings pending ++ "\n" := by
    cases course.pending <;> rfl
  rw [closes, ← String.append_assoc] at converses
  rw [runPiped_eq_conversation]
  exact converses.effect_eq

theorem effect_runEditor_of_course {editor : LineEditor} (lines : List String)
    (atPipe : editor.AtPipe (lines.map .text)) :
    let course := course settings store "" lines
    (runEditor settings editor).effect store =
      { result := .ok ()
        store := course.store
        text := welcomeText ++ course.said fun _ => "" } := by
  intro course
  have converses := (does_say welcomeText store).seq (does_converse settings store "" .hidden lines)
  have silent : course.pending.elim "" (closing settings .hidden) = "" := by
    cases course.pending <;> rfl
  rw [silent, String.append_empty] at converses
  rw [runEditor_eq_conversation atPipe]
  exact converses.effect_eq

end Shell

/-- Of the input, just the first lines are read: each of them is needed, since the action fails when
one of them cannot be read, and if there are more, it does not matter what they are. -/
structure ReadsJust (count : Nat) (run : List InputLine → Shell Unit) (store : Store)
    (input : List InputLine) : Prop where
  reads (line : Nat) (rest : List InputLine) (within : line < count) :
    ((run (input.take line ++ .invalidUtf8 :: rest)).effect store).result =
      .error (.channel .invalidUtf8)
  leaves (rest : List InputLine) (unread : count < input.length) :
    (run (input.take count ++ rest)).effect store = (run input).effect store

namespace Shell

theorem readsJust_conversation (settings : Settings) (prompting : Prompting) (store : Store)
    (lines : List String) :
    ReadsJust (course settings store "" lines).exchanges.length (conversation settings prompting)
      store (lines.map .text) where
  reads line rest within := by
    obtain ⟨pending, reached⟩ := course_take_open settings store "" lines within
    have fails := does_converse_open settings store "" prompting reached
      (does_converse_invalid settings _ pending prompting rest)
    have converses := (does_say welcomeText store).seq fails
    rw [← List.map_take]
    exact congrArg Effect.result converses.effect_eq
  leaves rest unread := by
    have enough := course_take settings store "" lines
    have ended : (course settings store "" lines).pending = none := by
      by_contra reached
      have all := ((course_readsOn settings store "" lines).readsAll reached).1
      exact absurd all (Nat.ne_of_lt (by simpa using unread))
    have quits := (congrArg Course.pending enough).trans ended
    -- Whatever comes behind the quit word, the conversation is the one up to there.
    have ends (rest : List InputLine) := ((does_say welcomeText store).seq
      (does_converse_quit settings store "" prompting _ rest quits)).effect_eq
    have whole := ends ((lines.drop (course settings store "" lines).exchanges.length).map .text)
    rw [← List.map_append, List.take_append_drop] at whole
    rw [← List.map_take]
    exact (ends rest).trans whole.symm

end Shell

/-- The same editor in front of another input. -/
def LineEditor.withInput (editor : LineEditor) (input : List InputLine) : LineEditor :=
  { editor with readings := input.map (·.reading) }

theorem LineEditor.AtPipe.withInput {editor : LineEditor} {input : List InputLine}
    (atPipe : editor.AtPipe input) (input' : List InputLine) : (editor.withInput input').AtPipe input' :=
  ⟨atPipe.silent, rfl, atPipe.remembers⟩

/-- The two loops are one session. On the lines of any text, and with an editor at a pipe, neither
fails, both leave the same store and read the same lines. The piped conversation says a prompt and a
reply for each line it reads, and at the end of the input a prompt and a line feed; the interactive
one says the replies, and nothing else. No prompt has any part in the replies. -/
theorem conversations_stay_in_lockstep (echo color : Bool) (store : Store) (input : String)
    {lines : List (List Char)} (cut : Text.CutInto input.toList lines)
    (editor : LineEditor) (atPipe : editor.AtPipe (lines.map .ofChars)) :
    let course := Shell.course { echo, color } store "" (lines.map String.ofList)
    let count := course.exchanges.length
    course.ReadsOn (lines.map String.ofList) ∧ ∀ prompt,
      let settings : Settings := { prompt, echo, color }
      (Shell.runPiped settings (InputLine.ofBytes input.toUTF8)).effect store =
        { result := .ok ()
          store := course.store
          text := Shell.welcomeText ++ course.said (Shell.promptText settings) ++
            match course.pending with
            | none => ""
            | some pending => Shell.promptText settings pending ++ "\n" } ∧
      (Shell.runEditor settings editor).effect store =
        { result := .ok ()
          store := course.store
          text := Shell.welcomeText ++ course.said fun _ => "" } ∧
      ReadsJust count (Shell.runPiped settings) store (lines.map .ofChars) ∧
      ReadsJust count (fun input => Shell.runEditor settings (editor.withInput input)) store
        (lines.map .ofChars) := by
  intro course count
  refine ⟨Shell.course_readsOn _ store "" _, fun prompt => ?_⟩
  intro settings
  have same : Shell.course settings store "" (lines.map String.ofList) = course :=
    Shell.course_prompt { echo, color } store "" prompt _
  have texts : lines.map InputLine.ofChars = (lines.map String.ofList).map .text := by
    rw [List.map_map]
    rfl
  have pipes : Shell.runPiped settings = Shell.conversation settings .shown :=
    funext (Shell.runPiped_eq_conversation settings)
  have edits (input : List InputLine) : Shell.runEditor settings (editor.withInput input) =
      Shell.conversation settings .hidden input :=
    Shell.runEditor_eq_conversation (atPipe.withInput input)
  have reads (prompting : Shell.Prompting) :=
    Shell.readsJust_conversation settings prompting store (lines.map String.ofList)
  rw [texts] at atPipe ⊢
  rw [same] at reads
  refine ⟨?_, ?_, pipes ▸ reads .shown, ?_⟩
  · have piped := Shell.effect_runPiped_of_course settings store (lines.map String.ofList)
    rw [InputLine.ofBytes_toUTF8, ← cut.eq_textLines, texts, ← same]
    exact piped
  · have replies := Shell.effect_runEditor_of_course settings store _ atPipe
    rw [← same]
    exact replies
  · simp only [edits]
    exact reads .hidden

/-- A statement over two lines, a blank line, a quit word, and a line that nobody reads. -/
theorem lockstep_up_to_quit :
    let input := "create table t\n(a int);\n \nexit\n;"
    let lines :=
      ["create table t".toList, "(a int);".toList, " ".toList, "exit".toList, ";".toList]
    let editor := LineEditor.piped (InputLine.ofTyped input)
    let store := Store.empty.put "t" ⟨["a"], [.int], #[]⟩
    Text.CutInto input.toList lines ∧ editor.AtPipe (lines.map .ofChars) ∧
      (Shell.runPiped {} (InputLine.ofBytes input.toUTF8)).effect .empty =
        ⟨.ok (), store, "Welcome to minisql.\n# ... ok\n# # "⟩ ∧
      (Shell.runEditor {} editor).effect .empty =
        ⟨.ok (), store, "Welcome to minisql.\nok\n"⟩ ∧
      ReadsJust 4 (Shell.runPiped {}) .empty (lines.map .ofChars) := by
  intro input lines editor store
  have parts : Text.textLines input.toList = lines := by decide +kernel
  have cut : Text.CutInto input.toList lines := parts ▸ Text.cutInto_textLines input.toList
  have atPipe : editor.AtPipe (lines.map .ofChars) :=
    parts ▸ LineEditor.atPipe_typed (by decide +kernel)
  have parse : Script.parse "create table t\n(a int);\n" =
      .ok [.createTable ⟨.identifier, "t", ⟨0, 13⟩⟩
        [⟨⟨.identifier, "a", ⟨1, 1⟩⟩, ⟨.keyword, "int", ⟨1, 3⟩⟩⟩]] := by decide +kernel
  have runs : (Shell.runScript {} "create table t\n(a int);\n").effect .empty =
      ⟨.ok (), store, "ok\n"⟩ := by
    rw [Shell.effect_runScript, parse]
    rfl
  have waits : (Shell.takeLine {} "" "create table t").effect .empty =
      ⟨.ok (.proceed "create table t\n"), .empty, ""⟩ := rfl
  have executes : (Shell.takeLine {} "create table t\n" "(a int);").effect .empty =
      ⟨.ok (.proceed ""), store, "ok\n"⟩ := by
    have submits := Shell.does_submit {} .empty "create table t\n(a int);\n"
    rw [runs] at submits
    exact (submits.seq (Shell.does_pure (Turn.proceed "") store)).effect_eq
  have course : Shell.course {} .empty "" (lines.map String.ofList) =
      ⟨[⟨"", "create table t", ""⟩, ⟨"create table t\n", "(a int);", "ok\n"⟩, ⟨"", " ", ""⟩,
        ⟨"", "exit", ""⟩], none, store⟩ := by
    have opened : Shell.nextTurn "" "create table t" = .proceed "create table t\n" := by
      decide +kernel
    have closed : Shell.nextTurn "create table t\n" "(a int);" = .proceed "" := by decide +kernel
    show Shell.course {} .empty "" ("create table t" :: "(a int);" :: [" ", "exit", ";"]) = _
    simp only [Shell.course_proceed {} _ opened, Shell.course_proceed {} _ closed, waits, executes]
    -- Behind the statement nothing is executed, so the rest evaluates.
    rfl
  obtain ⟨-, lockstep⟩ := conversations_stay_in_lockstep false false .empty input cut editor atPipe
  obtain ⟨piped, edited, reads, -⟩ := lockstep "# "
  rw [course] at piped edited reads
  exact ⟨cut, atPipe, piped, edited, reads⟩

end SqlShell
