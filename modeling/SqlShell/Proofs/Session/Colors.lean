import SqlShell.Proofs.Session.Capacity
import SqlShell.Proofs.Session.Legible
import SqlShell.Proofs.Session.Piped

/-!
# Colors are presentation only

With colors on and with colors off a session executes the same statements and comes to the same
results. The texts that it says differ in styles only, unless there are escape characters in what it
is given: the two accounts of a session show the same (`Account.Shows`), deed by deed.
-/

namespace SqlShell

open Text (Legible unstyled paint)

variable {α β : Type}

/-- The settings with colors switched on or off. -/
def Settings.colored (settings : Settings) (color : Bool) : Settings :=
  { settings with color }

@[simp] theorem Settings.echo_colored (settings : Settings) (color : Bool) :
    (settings.colored color).echo = settings.echo := rfl

@[simp] theorem Settings.color_colored (settings : Settings) (color : Bool) :
    (settings.colored color).color = color := rfl

/-! ## Errors -/

/-- In color an error is reported by the same text, styles aside. -/
def ShellError.Shows (error : ShellError) : Prop :=
  Text.Shows (error.text true) (error.text false)

theorem SourceLine.legible_spaces (count : Nat) : Legible (spaces count) := by
  rw [Legible, spaces, String.toList_ofList, List.mem_replicate]
  exact fun escape => absurd escape.2 (by decide)

theorem SourceLine.shows_display {source : SourceLine} (legible : Legible source.line) :
    Text.Shows (source.display true) (source.display false) := by
  have number : Legible ("  " ++ toString (source.location.line + 1)) :=
    .append (by decide) (legible_toString _)
  have line : Legible (_ ++ " | " ++ source.line) := (number.append (by decide)).append legible
  have margin : Legible (_ ++ "\n" ++ "  " ++ spaces (toString (source.location.line + 1)).length) :=
    ((line.append (by decide)).append (by decide)).append (legible_spaces _)
  have left : Legible (_ ++ " | " ++ spaces source.location.column) :=
    (margin.append (by decide)).append (legible_spaces _)
  have caret : Text.Shows (paint true .red "^") (paint false .red "^") :=
    Legible.shows_paint .red (by decide)
  exact left.shows.append caret

theorem ParseError.Legible.shows {error : ParseError} (legible : error.Legible) :
    (ShellError.parse error).Shows := by
  have literal {text : String} (free : Text.Legible text) : Text.Shows text text := free.shows
  have number (n : Nat) : Text.Shows (toString n) (toString n) := literal (legible_toString n)
  have title : Text.Shows (paint true .boldRed "Parse error") (paint false .boldRed "Parse error") :=
    Text.Legible.shows_paint .boldRed (by decide)
  show Text.Shows (error.text true) (error.text false)
  unfold ParseError.text
  refine Text.Shows.append (Text.Shows.append ?headed ?suggestion) ?context
  case headed =>
    exact ((((((((title.append (literal (by decide))).append (number _)).append
      (literal (by decide))).append (number _)).append (literal (by decide))).append
      (literal (by decide))).append (literal legible.fault.message)).append (literal (by decide)))
  case suggestion =>
    cases error.suggestion with
    | none => exact literal (by decide)
    | some keyword =>
      have question : Text.Shows (paint true .yellow "Did you mean:")
          (paint false .yellow "Did you mean:") := Text.Legible.shows_paint .yellow (by decide)
      have shown := Text.Legible.shows_paint .green keyword.legible_display
      exact ((((literal (by decide)).append question).append (literal (by decide))).append
        shown).append (literal (by decide))
  case context =>
    cases shown : error.context with
    | none => exact literal (by decide)
    | some line =>
      exact ((literal (by decide)).append (SourceLine.shows_display (legible.line line shown))).append
        (literal (by decide))

/-- The report of a failed statement has no style. -/
theorem ShellError.shows_execution {error : ExecutionError} (legible : Legible error.message) :
    (ShellError.execution error).Shows :=
  Legible.shows (.append (by decide) legible)

theorem ShellError.shows_channel (error : ChannelError) : (ShellError.channel error).Shows := by
  cases error <;> exact Legible.shows (by decide)

/-! ## Accounts that show the same -/

/-- The same deed in color and without, the texts of which differ in styles only if `clean` holds. -/
inductive Deed.Shows (clean : Prop) : Deed → Deed → Prop where
  | say {painted plain : String} (shows : clean → Text.Shows painted plain) :
      Deed.Shows clean (.say painted) (.say plain)
  | execute {statement : Statement} (legible : clean → statement.Legible) :
      Deed.Shows clean (.execute statement) (.execute statement)

/-- The same account in color and without. -/
structure Account.Shows (clean : Prop) (painted plain : Account α) : Prop where
  deeds : List.Forall₂ (Deed.Shows clean) painted.deeds plain.deeds
  result : painted.result = plain.result
  fault : clean → ∀ error, plain.result = .error error → error.Shows

section

variable {clean : Prop} {deeds deeds' : List Deed}

theorem executedIn_eq_of_shows (shows : List.Forall₂ (Deed.Shows clean) deeds deeds') :
    executedIn deeds = executedIn deeds' := by
  induction shows with
  | nil => rfl
  | cons shows _ ih =>
    cases shows with
    | say => simpa using ih
    | execute => simpa using ih

theorem legible_of_mem_executedIn (shows : List.Forall₂ (Deed.Shows clean) deeds deeds')
    (holds : clean) : ∀ statement ∈ executedIn deeds, statement.Legible := by
  induction shows with
  | nil => simp
  | cons shows _ ih =>
    cases shows with
    | say => simpa using ih
    | execute legible => simpa using ⟨legible holds, ih⟩

theorem shows_saidIn (shows : List.Forall₂ (Deed.Shows clean) deeds deeds') (holds : clean) :
    Text.Shows (saidIn deeds) (saidIn deeds') := by
  induction shows with
  | nil => exact Legible.shows (by decide)
  | cons shows _ ih =>
    cases shows with
    | say shows => simpa using (shows holds).append ih
    | execute => simpa using ih

end

namespace Account

variable {clean : Prop}

theorem Shows.andThen {first first' : Account α} {next next' : α → Account β}
    (shows : first.Shows clean first')
    (goesOn : ∀ value, first'.result = .ok value → (next value).Shows clean (next' value)) :
    (first.andThen next).Shows clean (first'.andThen next') := by
  obtain ⟨deeds, result⟩ := first
  obtain ⟨deeds', result'⟩ := first'
  obtain rfl : result = result' := shows.result
  cases result with
  | error error =>
    exact ⟨shows.deeds, rfl, fun holds other same => shows.fault holds other (by cases same; rfl)⟩
  | ok value =>
    have rest := goesOn value rfl
    exact ⟨List.rel_append shows.deeds rest.deeds, rest.result, rest.fault⟩

theorem Shows.rescue {first first' : Account α} {handle handle' : ShellError → Account α}
    (shows : first.Shows clean first')
    (goesOn : ∀ error, first'.result = .error error → (handle error).Shows clean (handle' error)) :
    (first.rescue handle).Shows clean (first'.rescue handle') := by
  obtain ⟨deeds, result⟩ := first
  obtain ⟨deeds', result'⟩ := first'
  obtain rfl : result = result' := shows.result
  cases result with
  | ok value => exact ⟨shows.deeds, rfl, shows.fault⟩
  | error error =>
    have rest := goesOn error rfl
    exact ⟨List.rel_append shows.deeds rest.deeds, rest.result, rest.fault⟩

/-- An account that says one text and is done. -/
theorem shows_say {painted plain : String} (shows : clean → Text.Shows painted plain) (value : α) :
    Account.Shows clean ⟨[.say painted], .ok value⟩ ⟨[.say plain], .ok value⟩ :=
  ⟨.cons (.say shows) .nil, rfl, nofun⟩

theorem shows_done (value : α) : Account.Shows clean ⟨[], .ok value⟩ ⟨[], .ok value⟩ :=
  ⟨.nil, rfl, nofun⟩

theorem shows_failed {error : ShellError} (shows : clean → error.Shows) :
    Account.Shows clean (⟨[], .error error⟩ : Account α) ⟨[], .error error⟩ := by
  refine ⟨.nil, rfl, fun holds other same => ?_⟩
  cases same
  exact shows holds

end Account

/-! ## Statements and scripts -/

namespace Shell

open Account (shows_say shows_done shows_failed)

variable {clean : Prop} (settings : Settings) {store : Store}

theorem shows_repetition {statement : Statement} (legible : clean → statement.Legible) :
    (repetition (settings.colored true) statement).Shows clean
      (repetition (settings.colored false) statement) := by
  unfold repetition echoed
  simp only [Settings.echo_colored, Settings.color_colored]
  by_cases echo : settings.echo = true
  · simp only [echo, if_true]
    refine shows_say (fun holds => ?_) ()
    have line : Legible (statement.toSql ++ ";") := (legible holds).toSql.append (by decide)
    exact (line.shows_paint .dimmed).append (Legible.shows (by decide))
  · simp only [echo]
    exact shows_done ()

theorem shows_performance {statement : Statement} (legible : clean → statement.Legible) :
    (performance store statement).Shows clean (performance store statement) := by
  refine ⟨.cons (.execute legible) .nil, rfl, fun holds error failed => ?_⟩
  -- An error quotes the statement, so its report has no escape character of its own.
  cases executed : store.execute statement with
  | ok outcome after =>
    simp only [performance, executed] at failed
    cases failed
  | error fault after =>
    simp only [performance, executed] at failed
    cases failed
    exact ShellError.shows_execution (legible_of_failure (legible holds) executed)

theorem shows_statement {statement : Statement} (kept : clean → store.Legible)
    (legible : clean → statement.Legible) :
    (statementAccount (settings.colored true) store statement).Shows clean
      (statementAccount (settings.colored false) store statement) := by
  refine (shows_repetition settings legible).andThen fun _ _ => ?_
  refine (shows_performance legible).andThen fun outcome yielded => shows_say (fun holds => ?_) ()
  cases executed : store.execute statement with
  | ok outcome' after =>
    simp only [performance, executed] at yielded
    cases yielded
    exact (legible_report (kept holds) (legible holds) executed).shows
  | error fault after =>
    simp only [performance, executed] at yielded
    cases yielded

theorem shows_statements {script : Script} (kept : clean → store.Legible)
    (legible : clean → ∀ statement ∈ script, statement.Legible) :
    (statementsAccount (settings.colored true) store script).Shows clean
      (statementsAccount (settings.colored false) store script) := by
  induction script generalizing store with
  | nil => exact shows_done ()
  | cons statement script ih =>
    have first (holds : clean) : statement.Legible := legible holds _ List.mem_cons_self
    -- The rest runs on the store after the statement, whether colors are on or off.
    refine (shows_statement settings kept first).andThen fun _ _ => ih (fun holds => ?_) fun holds =>
      (List.forall_mem_cons.1 (legible holds)).2
    have after : (store.afterAll [statement]).Legible :=
      (kept holds).afterAll (by simpa using first holds)
    exact after

theorem shows_script {text : String} (kept : clean → store.Legible) (legible : clean → Legible text) :
    (scriptAccount (settings.colored true) store text).Shows clean
      (scriptAccount (settings.colored false) store text) := by
  unfold scriptAccount
  cases read : Script.parse text with
  | error error =>
    exact shows_failed fun holds => (legible_of_parse_error (legible holds) read).shows
  | ok script => exact shows_statements settings kept fun holds => legible_of_parse (legible holds) read

/-! ## Conversations -/

theorem shows_answer {error : ShellError} (shows : clean → error.Shows) :
    (answer (settings.colored true) error).Shows clean (answer (settings.colored false) error) := by
  have complains : Account.Shows clean
      ⟨[.say (complaint (settings.colored true) (.error error))], .ok ()⟩
      ⟨[.say (complaint (settings.colored false) (.error error))], .ok ()⟩ :=
    shows_say (fun holds => ((shows holds).paint .red).append (Legible.shows (by decide))) ()
  cases error with
  | channel error => exact shows_failed fun _ => ShellError.shows_channel error
  | parse | execution => exact complains

theorem shows_submit {text : String} (kept : clean → store.Legible) (legible : clean → Legible text) :
    (submitAccount (settings.colored true) store text).Shows clean
      (submitAccount (settings.colored false) store text) := by
  have runs := shows_script settings kept legible
  exact runs.rescue fun error failed => shows_answer settings fun holds => runs.fault holds error failed

theorem shows_line {pending line : String} (kept : clean → store.Legible)
    (legible : clean → Legible (pending ++ line ++ "\n")) :
    (lineAccount (settings.colored true) store pending line).Shows clean
      (lineAccount (settings.colored false) store pending line) := by
  simp only [lineAccount]
  split
  · exact shows_done _
  split
  · exact shows_done _
  split
  · exact (shows_submit settings kept legible).andThen fun _ _ => shows_done _
  · exact shows_done _

theorem pending_of_lineAccount {pending line next : String}
    (taken : (lineAccount settings store pending line).result = .ok (.proceed next)) :
    next = "" ∨ next = pending ++ line ++ "\n" := by
  simp only [lineAccount] at taken
  split at taken
  · cases taken
  split at taken
  · cases taken
    exact .inl rfl
  split at taken
  · rw [Account.andThen] at taken
    split at taken <;> cases taken
    exact .inl rfl
  · cases taken
    exact .inr rfl

theorem legible_promptText (pending : String) (prompt : Legible settings.prompt) :
    Legible (promptText settings pending) := by
  unfold promptText
  split
  · exact prompt
  · decide

theorem shows_question (pending : String) (prompt : clean → Legible settings.prompt) :
    (question (settings.colored true) pending).Shows clean
      (question (settings.colored false) pending) :=
  shows_say (fun holds => (legible_promptText settings pending (prompt holds)).shows) ()

theorem shows_converse {pending : String} {input : List InputLine}
    (prompt : clean → Legible settings.prompt) (kept : clean → store.Legible)
    (opened : clean → Legible pending)
    (legible : clean → ∀ line, .text line ∈ input → Legible line) :
    (converseAccount (settings.colored true) store pending input).Shows clean
      (converseAccount (settings.colored false) store pending input) := by
  induction input generalizing store pending with
  | nil =>
    unfold converseAccount
    have asks := Deed.Shows.say fun holds => (legible_promptText settings pending (prompt holds)).shows
    have closes : Deed.Shows clean (.say "\n") (.say "\n") :=
      .say fun _ => Legible.shows (by decide)
    exact ⟨.cons asks (.cons closes .nil), rfl, fun _ _ failed => by cases failed⟩
  | cons line rest ih =>
    unfold converseAccount
    refine (shows_question settings pending prompt).andThen fun _ _ => ?_
    cases line with
    | invalidUtf8 => exact shows_failed fun _ => ShellError.shows_channel _
    | text line =>
      have text (holds : clean) : Legible (pending ++ line ++ "\n") :=
        ((opened holds).append (legible holds line List.mem_cons_self)).append (by decide)
      have takes := shows_line settings kept text
      refine takes.andThen fun turn taken => ?_
      cases turn with
      | quit => exact shows_done ()
      | proceed next =>
        -- In color the same statements are executed, so the rest works on the same store.
        have same := executedIn_eq_of_shows takes.deeds
        dsimp only
        rw [same]
        refine ih (fun holds => ?_) (fun holds => ?_) fun holds other inside =>
          legible holds other (List.mem_cons_of_mem _ inside)
        · exact (kept holds).afterAll (same ▸ legible_of_mem_executedIn takes.deeds holds)
        · rcases pending_of_lineAccount _ taken with rfl | rfl
          · decide
          · exact text holds

end Shell

/-! ## Calls -/

/-- What the call is given has no escape character. -/
def Call.Legible : Call → Prop
  | script text => Text.Legible text
  | input bytes => ∃ text : String, bytes = text.toUTF8 ∧ Text.Legible text

theorem Call.shows_account {clean : Prop} (settings : Settings) {store : Store} {call : Call}
    (prompt : clean → Text.Legible settings.prompt) (kept : clean → store.Legible)
    (legible : clean → call.Legible) :
    (call.account (settings.colored true) store).Shows clean
      (call.account (settings.colored false) store) := by
  cases call with
  | script text => exact Shell.shows_script settings kept legible
  | input bytes =>
    have lines (holds : clean) : ∀ line, .text line ∈ InputLine.ofBytes bytes → Text.Legible line := by
      obtain ⟨text, rfl, free⟩ := legible holds
      rw [InputLine.ofBytes_toUTF8]
      intro line inside
      obtain ⟨cs, cut, same⟩ := List.mem_map.1 inside
      cases same
      rw [Text.Legible, String.toList_ofList]
      exact fun escape => free ((Text.cutInto_textLines text.toList).mem cut escape)
    have opened (_ : clean) : Text.Legible "" := by decide
    have talk : (Shell.converseAccount _ store "" (InputLine.ofBytes bytes)).Shows clean _ :=
      Shell.shows_converse settings prompt kept opened lines
    exact ⟨.cons (.say fun _ => Text.Legible.shows (by decide)) talk.deeds, talk.result, talk.fault⟩

/-- Colors are presentation only. Whatever a session is called to do, on any store and with any
settings, it comes to the same result and leaves the same store with colors on and with colors off.
Without an escape character in the prompt, in the cells of the store and in what it is given, taking
the styles out of what it says in color, and out of the report of its error, gives what it says
without. -/
theorem colors_are_presentation_only (settings : Settings) (store : Store) (call : Call) :
    let painted := call.finish (settings.colored true) store none
    let plain := call.finish (settings.colored false) store none
    painted.result = plain.result ∧ painted.store = plain.store ∧
      (Legible settings.prompt → store.Legible → call.Legible →
        unstyled painted.output.offered = plain.output.offered ∧
          ∀ error, painted.result = .error error →
            unstyled (error.text true) = error.text false) := by
  intro painted plain
  let clean := Legible settings.prompt ∧ store.Legible ∧ call.Legible
  have shows : (call.account (settings.colored true) store).Shows clean
      (call.account (settings.colored false) store) :=
    Call.shows_account settings (·.1) (·.2.1) (·.2.2)
  -- Without a limit a call does what its account says.
  have same : painted = _ := call.finish_unlimited (settings.colored true) store
  have same' : plain = _ := call.finish_unlimited (settings.colored false) store
  rw [same, same']
  refine ⟨shows.result, ?_, fun prompt kept legible => ?_⟩
  · show store.afterAll _ = store.afterAll _
    rw [executedIn_eq_of_shows shows.deeds]
  · have holds : clean := ⟨prompt, kept, legible⟩
    refine ⟨(shows_saidIn shows.deeds holds).unstyled_eq, fun error failed => ?_⟩
    exact (shows.fault holds error (shows.result ▸ failed)).unstyled_eq

/-- A script whose statements are repeated in a style, and of which the second fails. -/
theorem colors_of_a_failing_script :
    let settings : Settings := { echo := true }
    let call := Call.script "SELECT 1; SELECT a;"
    let painted := call.finish (settings.colored true) .empty none
    let plain := call.finish (settings.colored false) .empty none
    Legible settings.prompt ∧ Store.empty.Legible ∧ call.Legible ∧
      painted.result = .error (.execution (.unknownColumn "a")) ∧
      ¬ Legible painted.output.offered ∧
      unstyled painted.output.offered = plain.output.offered := by
  intro settings call painted plain
  have prompt : Legible settings.prompt := by decide
  have kept : Store.empty.Legible := Store.allCells_empty
  have legible : call.Legible := by
    show Legible "SELECT 1; SELECT a;"
    decide
  have shown := (colors_are_presentation_only settings .empty call).2.2 prompt kept legible
  exact ⟨prompt, kept, legible, by decide +kernel, by decide +kernel, shown.1⟩

end SqlShell
