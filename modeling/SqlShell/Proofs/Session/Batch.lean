import SqlShell.Proofs.Grammar.Fragments
import SqlShell.Proofs.Session.Piped
import SqlShell.Proofs.Session.Progress
import SqlShell.Proofs.Store.Places

/-!
# One script instead of many

An input that a conversation takes chunk by chunk can also be run as one script. If every chunk
parses, so does the whole, as the statements of the chunks in their order, since no border between
chunks falls inside a token or changes one. The script then does what the chunks do up to the first
statement that fails, where the conversation would go on.
-/

namespace SqlShell

/-! ## Effects in a row -/

/-- Going through effects up to the first that failed. -/
def Effect.upToFailure : List (Effect Unit) → Store → Effect Unit
  | [], store => ⟨.ok (), store, ""⟩
  | effect :: effects, _ => effect.andThen fun _ => upToFailure effects

theorem Effect.andThen_assoc {α β γ : Type} (first : Effect α) (second : α → Store → Effect β)
    (third : β → Store → Effect γ) :
    (first.andThen second).andThen third =
      first.andThen fun value store => (second value store).andThen third := by
  obtain ⟨result, store, text⟩ := first
  cases result with
  | error error => rfl
  | ok value =>
    simp only [andThen]
    cases (second value store).result <;> simp [String.append_assoc]

/-- What fails is the first failure in the row. -/
theorem Effect.upToFailure_error {effects : List (Effect Unit)} {store : Store} {error : ShellError}
    (failed : (upToFailure effects store).result = .error error) :
    ∃ (front : List (Effect Unit)) (last : Effect Unit) (back : List (Effect Unit)),
      effects = front ++ last :: back ∧ (∀ effect ∈ front, effect.result = .ok ()) ∧
      last.result = .error error ∧
      upToFailure effects store =
        ⟨.error error, last.store, String.join (front.map (·.text)) ++ last.text⟩ := by
  induction effects generalizing store with
  | nil => cases failed
  | cons effect effects ih =>
    obtain ⟨result, store', text⟩ := effect
    cases result with
    | error other =>
      cases failed
      exact ⟨[], _, effects, rfl, by simp, rfl, by simp [upToFailure, andThen]⟩
    | ok value =>
      obtain ⟨front, last, back, rfl, succeeded, stopped, same⟩ := ih failed
      refine ⟨⟨.ok value, store', text⟩ :: front, last, back, rfl, ?_, stopped, ?_⟩
      · simpa using succeeded
      · simp [upToFailure, andThen, same, String.join_cons, String.append_assoc]

namespace Shell

variable (settings : Settings)

/-! ## Scripts in a row -/

theorem effect_runStatement_unplaced (statement : Statement) (store : Store) :
    (runStatement settings statement.unplaced).effect store =
      (runStatement settings statement).effect store := by
  rw [effect_runStatement, effect_runStatement, Store.execute_unplaced, echoed, echoed,
    Statement.toSql_unplaced]

theorem effect_runStatements_unplaced (script : Script) (store : Store) :
    (runStatements settings (script.map (·.unplaced))).effect store =
      (runStatements settings script).effect store := by
  induction script generalizing store with
  | nil => rfl
  | cons statement script ih =>
    rw [List.map_cons, effect_runStatements_cons, effect_runStatements_cons,
      effect_runStatement_unplaced]
    exact congrArg _ (funext fun _ => funext ih)

/-- A script does the same wherever its tokens stand. -/
theorem effect_runStatements_of_agrees {script other : Script} (agrees : script.Agrees other)
    (store : Store) :
    (runStatements settings script).effect store = (runStatements settings other).effect store := by
  rw [← effect_runStatements_unplaced, ← effect_runStatements_unplaced settings other]
  exact congrArg (fun script => (runStatements settings script).effect store) agrees

theorem effect_runStatements_append (front back : Script) (store : Store) :
    (runStatements settings (front ++ back)).effect store =
      ((runStatements settings front).effect store).andThen
        fun _ => (runStatements settings back).effect := by
  induction front generalizing store with
  | nil => simp [effect_runStatements_nil, Effect.andThen]
  | cons statement front ih =>
    rw [List.cons_append, effect_runStatements_cons, effect_runStatements_cons,
      Effect.andThen_assoc]
    exact congrArg _ (funext fun _ => funext ih)

/-- The effects of scripts that are run one after the other, whatever comes of each. -/
def chunkEffects : List String → Store → List (Effect Unit)
  | [], _ => []
  | chunk :: chunks, store =>
    let effect := (runScript settings chunk).effect store
    effect :: chunkEffects chunks effect.store

theorem effect_runStatements_flatten {chunks : List String} {scripts : List Script}
    (parse : List.Forall₂ (fun chunk script => Script.parse chunk = .ok script) chunks scripts)
    (store : Store) :
    (runStatements settings scripts.flatten).effect store =
      .upToFailure (chunkEffects settings chunks store) store := by
  induction parse generalizing store with
  | nil => exact effect_runStatements_nil settings store
  | @cons chunk script chunks scripts first _ ih =>
    have run : (runScript settings chunk).effect store =
        (runStatements settings script).effect store := by
      rw [effect_runScript, first]
    rw [List.flatten_cons, effect_runStatements_append, chunkEffects, Effect.upToFailure, run]
    generalize (runStatements settings script).effect store = effect
    obtain ⟨result, store', text⟩ := effect
    cases result with
    | error error => rfl
    | ok value => simp only [Effect.andThen, ih]

/-- When nothing fails, running the chunks as one script comes to what running them in turn does. -/
theorem upToFailure_chunkEffects {chunks : List String} {store : Store}
    (succeeded : (Effect.upToFailure (chunkEffects settings chunks store) store).result = .ok ()) :
    Effect.upToFailure (chunkEffects settings chunks store) store =
      ⟨.ok (), chunks.foldl (storeAfter settings) store,
        Passage.texts ((chunkEffects settings chunks store).map (reply settings))⟩ := by
  induction chunks generalizing store with
  | nil => rfl
  | cons chunk chunks ih =>
    rw [chunkEffects, Effect.upToFailure] at succeeded ⊢
    rw [List.foldl_cons, storeAfter]
    generalize (runScript settings chunk).effect store = effect at succeeded ⊢
    obtain ⟨result, store', text⟩ := effect
    cases result with
    | error error => cases succeeded
    | ok value => simp [Effect.andThen, ih succeeded, reply, complaint]

/-! ## Statements that succeed -/

theorem effect_runStatements_accepted {store : Store} {script : Script}
    (accepts : store.AcceptsAll script) :
    ((runStatements settings script).effect store).result = .ok () ∧
      ((runStatements settings script).effect store).store = store.afterAll script := by
  have runs := effect_runStatements_of_acceptsAll settings accepts
  exact ⟨congrArg Effect.result runs, congrArg Effect.store runs⟩

/-- A script stops at the first statement that fails, with the store as it was before it. -/
theorem effect_runStatements_stopped {store : Store} {script before : Script}
    {error : ExecutionError} (stops : store.StopsAt script before error) :
    ((runStatements settings script).effect store).result = .error (.execution error) ∧
      ((runStatements settings script).effect store).store = store.afterAll before := by
  obtain ⟨failed, later, rfl, answered⟩ := stops.exists_failure
  have runs := effect_runStatements_of_failure settings stops.accepts answered later
  exact ⟨congrArg Effect.result runs, congrArg Effect.store runs⟩

end Shell

/-! ## The whole input as one text -/

theorem fragment_of_segments {segments : List Segment} {ending : Ending}
    (blanks : ∀ line, .blank line ∈ segments → ∀ c ∈ line, c = ' ' ∨ c = '\t')
    (parses : ∀ chunk ∈ Division.chunks ⟨segments, ending⟩,
      ∃ script, Script.parse chunk = .ok script) :
    ∃ scripts : List Script,
      List.Forall₂ (fun chunk script => Script.parse chunk = .ok script)
        (Division.chunks ⟨segments, ending⟩) scripts ∧
      Fragment (segments.flatMap Segment.text) scripts.flatten := by
  induction segments with
  | nil => exact ⟨[], .nil, .nil⟩
  | cons segment segments ih =>
    have blanks' := fun line inside => blanks line (List.mem_cons_of_mem segment inside)
    cases segment with
    | blank line =>
      obtain ⟨scripts, parse, fragment⟩ := ih blanks' parses
      have skipped : Fragment (line ++ ['\n']) [] := by
        apply Fragment.blank
        intro c inside
        rcases List.mem_append.1 inside with inside | feed
        · exact (blanks line List.mem_cons_self c inside).imp id .inl
        · exact .inr (.inr (List.mem_singleton.1 feed))
      exact ⟨scripts, parse, skipped.append fragment⟩
    | chunk lines =>
      obtain ⟨script, read⟩ := parses (chunkText lines) List.mem_cons_self
      obtain ⟨scripts, parse, fragment⟩ :=
        ih blanks' fun chunk inside => parses chunk (List.mem_cons_of_mem _ inside)
      have whole := Fragment.of_parse read
      rw [toList_chunkText] at whole
      exact ⟨script :: scripts, .cons read parse, whole.append fragment⟩

/-- A piped conversation comes to the end of the input without a quit word or an open chunk, and
everything that it runs parses. Carriage returns, which lines may lose, are left aside, and so are
blank lines that hold more than spaces and tabs. -/
structure RunsThrough (input : String) : Prop where
  noReturn : '\r' ∉ input.toList
  atEnd : (divide (Text.textLines input.toList)).ending = .atEnd
  blanks : ∀ line, .blank line ∈ (divide (Text.textLines input.toList)).segments →
    ∀ c ∈ line, c = ' ' ∨ c = '\t'
  parses : ∀ chunk ∈ (divide (Text.textLines input.toList)).chunks,
    ∃ script, Script.parse chunk = .ok script

/-- Such an input parses as a whole, as the statements of its chunks in their order. -/
theorem RunsThrough.parse {input : String} (h : RunsThrough input) :
    ∃ (scripts : List Script) (script : Script),
      List.Forall₂ (fun chunk script => Script.parse chunk = .ok script)
        (divide (Text.textLines input.toList)).chunks scripts ∧
      Script.parse input = .ok script ∧ script.Agrees scripts.flatten := by
  obtain ⟨scripts, parse, fragment⟩ := fragment_of_segments h.blanks h.parses
  rw [divide_text _ h.atEnd] at fragment
  -- The last line feed may be missing in the input.
  have whole : Fragment input.toList scripts.flatten := by
    rcases (Text.cutInto_textLines input.toList).unlines h.noReturn with same | feed
    · exact same ▸ fragment
    · exact (feed ▸ fragment).without_feed
  obtain ⟨script, read, agrees⟩ := whole.parse
  exact ⟨scripts, script, parse, read, agrees⟩

/-- The passages of a transcript that are no prompts. -/
theorem filter_transcript (settings : Settings) (ending : Ending) (segments : List Segment)
    (store : Store) :
    (Shell.transcript settings ending segments store).filter (·.isReply) =
      (Shell.chunkEffects settings (Division.chunks ⟨segments, ending⟩) store).map
        (Shell.reply settings) := by
  induction segments generalizing store with
  | nil =>
    cases ending <;> simp [Shell.transcript, Shell.endingPassages, Shell.furtherPrompts,
      Division.chunks, Shell.chunkEffects]
  | cons segment segments ih =>
    cases segment with
    | blank line => exact ih store
    | chunk lines =>
      have more := ih ((Shell.runScript settings (chunkText lines)).effect store).store
      simp only [Shell.transcript, Shell.furtherPrompts, Shell.reply, List.filter_cons,
        List.filter_append, List.filter_map, Function.comp_def, Passage.isReply_prompt,
        Passage.isReply_reply, List.filter_false, List.map_nil, more]
      rfl

/-- One script instead of many. When a piped conversation runs through an input, the input parses
as a whole, as the statements of the chunks in their order. When none of them fails, the whole does
to the store what the conversation does, and says what the conversation replies. When one fails, the
whole stops at the first with its error, having done and said what the conversation had by then. -/
theorem batch_run_agrees_with_piped_run (settings : Settings) (store : Store) (input : String)
    (through : RunsThrough input) :
    let division := divide (Text.textLines input.toList)
    let piped := (Shell.runPiped settings (InputLine.ofBytes input.toUTF8)).effect store
    let batch := (Shell.runScript settings input).effect store
    let passages := Shell.transcript settings division.ending division.segments store
    let effects := Shell.chunkEffects settings division.chunks store
    ∃ (scripts : List Script) (script : Script),
      List.Forall₂ (fun chunk script => Script.parse chunk = .ok script) division.chunks scripts ∧
      Script.parse input = .ok script ∧ script.Agrees scripts.flatten ∧
      piped.text = Shell.welcomeText ++ Passage.texts passages ∧
      passages.filter (·.isReply) = effects.map (Shell.reply settings) ∧
      (store.AcceptsAll scripts.flatten →
        batch = ⟨.ok (), piped.store, Passage.texts (passages.filter (·.isReply))⟩) ∧
      (¬ store.AcceptsAll scripts.flatten →
        ∃ (before : Script) (error : ExecutionError), store.StopsAt scripts.flatten before error ∧
        ∃ (front : List (Effect Unit)) (failed : Effect Unit) (back : List (Effect Unit)),
          effects = front ++ failed :: back ∧ (∀ effect ∈ front, effect.result = .ok ()) ∧
          failed.result = .error (.execution error) ∧ failed.store = store.afterAll before ∧
          batch = ⟨.error (.execution error), failed.store,
            String.join (front.map (·.text)) ++ failed.text⟩) := by
  intro division piped batch passages effects
  obtain ⟨scripts, script, parse, read, agrees⟩ := through.parse
  have pipes := effect_runPiped settings store input
  have replies : passages.filter (·.isReply) = effects.map (Shell.reply settings) :=
    filter_transcript settings division.ending division.segments store
  have stepwise : (Shell.runStatements settings scripts.flatten).effect store =
      .upToFailure effects store := Shell.effect_runStatements_flatten settings parse store
  have batches : batch = .upToFailure effects store := by
    show (Shell.runScript settings input).effect store = _
    rw [Shell.effect_runScript, read, ← stepwise]
    exact Shell.effect_runStatements_of_agrees settings agrees store
  refine ⟨scripts, script, parse, read, agrees, congrArg Effect.text pipes, replies, ?_, ?_⟩
  · intro accepts
    have succeeded := (Shell.effect_runStatements_accepted settings accepts).1
    rw [stepwise] at succeeded
    rw [batches, replies, show piped = _ from pipes]
    exact Shell.upToFailure_chunkEffects settings succeeded
  · intro rejects
    obtain ⟨before, error, stops⟩ :=
      (store.acceptsAll_or_stopsAt scripts.flatten).resolve_left rejects
    obtain ⟨stopped, final⟩ := Shell.effect_runStatements_stopped settings stops
    rw [stepwise] at stopped final
    obtain ⟨front, failed, back, split, succeeded, result, same⟩ := Effect.upToFailure_error stopped
    rw [same] at final
    exact ⟨before, error, stops, front, failed, back, split, succeeded, result, final,
      batches.trans same⟩

/-- Two chunks with a blank line between them, the second over two lines and with a semicolon inside
a literal. -/
theorem batch_run_of_two_selections :
    let input := "select 1;\n \nselect\n'a;b';"
    RunsThrough input ∧ ∃ script, Script.parse input = .ok script ∧
      script.Agrees [.select [⟨.numeric, "1", {}⟩] none, .select [⟨.string, "a;b", {}⟩] none] := by
  intro input
  have divided : divide (Text.textLines input.toList) =
      ⟨[.chunk ["select 1;".toList], .blank [' '], .chunk ["select".toList, "'a;b';".toList]],
        .atEnd⟩ := by decide +kernel
  have first : Script.parse (chunkText ["select 1;".toList]) =
      .ok [.select [⟨.numeric, "1", ⟨0, 7⟩⟩] none] := by decide +kernel
  have second : Script.parse (chunkText ["select".toList, "'a;b';".toList]) =
      .ok [.select [⟨.string, "a;b", ⟨1, 0⟩⟩] none] := by decide +kernel
  have chunks : (divide (Text.textLines input.toList)).chunks =
      [chunkText ["select 1;".toList], chunkText ["select".toList, "'a;b';".toList]] := by
    rw [divided]
    rfl
  have through : RunsThrough input := by
    refine ⟨by decide +kernel, by rw [divided], ?_, ?_⟩
    · rw [divided]
      simp
    · rw [chunks]
      exact List.forall_mem_cons.2 ⟨⟨_, first⟩, List.forall_mem_singleton.2 ⟨_, second⟩⟩
  obtain ⟨scripts, script, parse, read, agrees, -⟩ :=
    batch_run_agrees_with_piped_run {} .empty input through
  refine ⟨through, script, read, agrees.trans ?_⟩
  rw [chunks] at parse
  obtain ⟨one, more, read₁, parse₁, rfl⟩ := List.forall₂_cons_left_iff.1 parse
  obtain ⟨other, rest, read₂, parse₂, rfl⟩ := List.forall₂_cons_left_iff.1 parse₁
  obtain rfl := List.forall₂_nil_left_iff.1 parse₂
  obtain rfl := Except.ok.inj (first.symm.trans read₁)
  obtain rfl := Except.ok.inj (second.symm.trans read₂)
  rfl

end SqlShell
