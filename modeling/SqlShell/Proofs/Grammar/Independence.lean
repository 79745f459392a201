import SqlShell.Proofs.Grammar.ExpressionLists
import SqlShell.Proofs.Grammar.FailingStatement
import SqlShell.Proofs.Grammar.RecordedStatements

/-!
# What is read does not depend on the record

One tracker serves all the grammars, and whatever was read before has left something in it. It is
written whenever a grammar fails, and asked for the error when a script does. Still no two records
make a difference to what is read, since each statement of a script starts a new one.

In the other direction every failure leaves a trace. A grammar fails where it starts or behind
(`FailsOnward`), and the tracker gets as far as any failure that it is told of and never goes back
(`Tracker.Reached`).

Main result: `tracker_never_influences_what_is_read`, for a parser that records as it reads.
-/

namespace SqlShell

/-! ## The furthest position -/

/-- The furthest failure so far stands at a position or behind it. -/
def Tracker.Reached (tracker : Tracker) (position : Nat) : Prop :=
  ∃ furthest, tracker.position = some furthest ∧ position ≤ furthest

theorem Tracker.reached_track (tracker : Tracker) (failure : Failure) :
    (tracker.track failure).Reached failure.position ∧
      ∀ position, tracker.Reached position → (tracker.track failure).Reached position := by
  have place (furthest : Furthest) (position : Nat) :
      Tracker.Reached ⟨some furthest⟩ position ↔ position ≤ furthest.position := by
    simp [Reached, Tracker.position]
  have also (furthest : Furthest) (expected : String) :
      (furthest.also expected).position = furthest.position := by
    simp only [Furthest.also]
    split <;> rfl
  -- an empty tracker has reached nothing, and any other one is left alone, added to or replaced
  obtain ⟨_ | furthest⟩ := tracker
  · refine ⟨⟨_, rfl, Nat.le_refl _⟩, ?_⟩
    rintro position ⟨_, held, -⟩
    cases held
  · simp only [track]
    split
    · next before => exact ⟨(place _ _).2 (Nat.le_of_lt before), fun _ reached => reached⟩
    · split
      · next same =>
        simp only [place, also]
        exact ⟨Nat.le_of_eq same, fun _ reached => reached⟩
      · next notBefore _ =>
        simp only [place]
        exact ⟨Nat.le_refl _, fun _ reached => Nat.le_trans reached (Nat.le_of_not_lt notBefore)⟩

namespace Grammar

/-! ## Where grammars fail -/

/-- A parser that fails does so where it starts or behind. -/
def FailsOnward {α : Type} (parser : Cursor → Parse α) : Prop :=
  ∀ cursor mismatch, parser cursor = .error mismatch → cursor.position ≤ mismatch.position

theorem Recognizes.failsOnward {α : Type} {parser : Cursor → Parse α}
    {Language : α → List Token → Prop} {Follow : α → Option Token → Prop}
    (h : Recognizes parser Language Follow) : FailsOnward parser := by
  intro cursor mismatch failed
  obtain ⟨passed, rest, -, blamed⟩ := h.blame failed
  exact blamed.position_eq ▸ Nat.le_add_right _ _

theorem FailsOnward.andThen {α β : Type} {first : Cursor → Parse α} {second : α → Cursor → Parse β}
    (h : FailsOnward first) (h' : ∀ a, FailsOnward (second a))
    (reaches : ∀ cursor a later, first cursor = .ok (a, later) → cursor.Reaches later) :
    FailsOnward (Grammar.andThen first second) := by
  intro cursor mismatch failed
  cases read : first cursor with
  | error =>
    rw [andThen_of_error read] at failed
    cases failed
    exact h cursor mismatch read
  | ok parsed =>
    rw [andThen_of_ok read] at failed
    obtain ⟨passed, -, moved⟩ := reaches cursor _ _ read
    exact Nat.le_trans (moved ▸ Nat.le_add_right _ _) (h' _ _ _ failed)

theorem failsOnward_literals (stops : List Token) : FailsOnward (Cursor.literals stops) := by
  intro cursor mismatch failed
  obtain ⟨passed, goes, stuck⟩ := ListPlace.exists_goesOver stops .start cursor.rest
  rw [← List.head?_drop] at stuck
  have run : cursor.literals stops = _ := ListPlace.read_of_goesOver goes cursor.position
  rw [run] at failed
  by_cases ends : (ListPlace.start.after passed).EndsAt stops (cursor.rest.drop passed).head?
  · rw [ListPlace.read_of_endsAt ends] at failed
    cases failed
  · rw [ListPlace.read_of_stuck ends stuck] at failed
    cases failed
    exact Nat.le_add_right _ _

theorem failsOnward_select (stop : Token) : FailsOnward (Cursor.select stop) := by
  -- any token may end the expressions here, so `recognizes_select` is of no use
  rw [select_eq]
  refine (recognizes_word .select).failsOnward.andThen (fun _ => ?_)
    fun _ _ _ => Cursor.reaches_of_take
  exact (failsOnward_literals _).andThen (fun items => (recognizes_sourceOf items).failsOnward)
    fun _ _ _ => Cursor.reaches_of_literals

end Grammar

/-! ## Rules -/

/-- What a parser can be asked to read. -/
inductive Rule where
  | expression
  | expressions (stops : List Token)
  | select (stop : Token)
  | insert
  | createTable
  | statement

namespace Rule

/-- What is read by a rule. -/
def Yield : Rule → Type
  | expression => Token
  | expressions _ => List Token
  | select _ | insert | createTable | statement => Statement

/-- A rule step by step. -/
def steps (source : Source) (position : Nat) : (rule : Rule) → Recorder (rule.Yield × Nat)
  | expression => fun journal => (source.expressionAt? position, journal)
  | expressions stops => source.literalSteps stops [] position
  | select stop => source.selectSteps stop position
  | insert => source.insertSteps position
  | createTable => source.createTableSteps position
  | statement => source.statementSteps position

/-- A rule as its grammar. An expression is not recorded. -/
def read (source : Source) (position : Nat) :
    (rule : Rule) → Journal → Option (rule.Yield × Cursor) × Journal
  | expression => fun journal => ((source.cursorAt position).expression?, journal)
  | expressions stops => source.literals position stops
  | select stop => source.select position stop
  | insert => source.insert position
  | createTable => source.createTable position
  | statement => source.statement position

end Rule

/-! ## One rule -/

section

variable {source : Source} {position : Nat} {α : Type}

/-- Steps from a position read what a grammar does. No journal makes a difference to what that is,
reading goes forward, and the tracker does not go back. -/
structure Reads (source : Source) (position : Nat) (steps : Recorder (α × Nat))
    (read : Journal → Option (α × Cursor) × Journal) : Prop where
  steps_eq : ∀ journal, steps journal = ((read journal).1.map Source.parsedAt, (read journal).2)
  blind : ∀ before other, (read before).1 = (read other).1
  reaches : ∀ journal a later, (read journal).1 = some (a, later) →
    (source.cursorAt position).Reaches later
  keeps : ∀ journal earlier, journal.tracker.Reached earlier →
    (read journal).2.tracker.Reached earlier

theorem reached_noteMismatch (mismatch : Mismatch) (journal : Journal) :
    (source.noteMismatch journal mismatch).tracker.Reached mismatch.position ∧
      ∀ position, journal.tracker.Reached position →
        (source.noteMismatch journal mismatch).tracker.Reached position :=
  journal.tracker.reached_track (Grammar.failureOf source mismatch)

theorem reached_foldl_noteMismatch (mismatches : List Mismatch) {journal : Journal}
    (h : journal.tracker.Reached position) :
    (mismatches.foldl source.noteMismatch journal).tracker.Reached position := by
  induction mismatches generalizing journal with
  | nil => exact h
  | cons mismatch mismatches ih => exact ih ((reached_noteMismatch mismatch journal).2 position h)

theorem reads_of_does {steps : Recorder (α × Nat)} {result : Parse α}
    (does : source.Does steps result Source.parsedAt)
    (reaches : ∀ {a later}, result = .ok (a, later) → (source.cursorAt position).Reaches later) :
    Reads source position steps (source.noted result) := by
  cases result with
  | ok parsed =>
    exact ⟨does, fun _ _ => rfl, fun _ _ _ read => reaches (congrArg _ (Option.some.inj read)),
      fun _ _ reached => reached⟩
  | error mismatch =>
    exact ⟨does, fun _ _ => rfl, fun _ _ _ read => (nomatch read),
      fun journal => (reached_noteMismatch mismatch journal).2⟩

theorem reached_of_noted (result : Parse α)
    (onward : ∀ mismatch, result = .error mismatch → position ≤ mismatch.position)
    {journal : Journal} (failed : (source.noted result journal).1 = none) :
    (source.noted result journal).2.tracker.Reached position := by
  cases result with
  | ok parsed => cases failed
  | error mismatch =>
    obtain ⟨furthest, held, reached⟩ := (reached_noteMismatch mismatch journal).1
    exact ⟨furthest, held, Nat.le_trans (onward mismatch rfl) reached⟩

theorem Rule.reads (source : Source) (position : Nat) : ∀ rule : Rule,
    Reads source position (rule.steps source position) (rule.read source position)
  | expression => by
    refine ⟨fun journal => ?_, fun _ _ => rfl, fun _ _ _ => Cursor.reaches_of_take?,
      fun _ _ reached => reached⟩
    simp only [steps, read, Source.expression?_cursorAt]
    cases source.expressionAt? position <;> rfl
  | expressions stops =>
    reads_of_does (Source.does_literalSteps stops position) Cursor.reaches_of_literals
  | select stop => reads_of_does (Source.does_selectSteps stop position) Cursor.reaches_of_select
  | insert => reads_of_does (Source.does_insertSteps position) Cursor.reaches_of_insert
  | createTable =>
    reads_of_does (Source.does_createTableSteps position) Cursor.reaches_of_createTable
  | statement =>
    ⟨source.statementSteps_eq position, fun _ _ => rfl, fun _ _ _ => Cursor.reaches_of_statement,
      fun _ _ => reached_foldl_noteMismatch _⟩

/-- The first of the grammars is always tried, and what it leaves in the tracker remains. -/
theorem reached_of_statement {journal : Journal}
    (failed : (source.statement position journal).1 = none) :
    (source.statement position journal).2.tracker.Reached position := by
  cases select : (source.cursorAt position).select (.symbol .semicolon) with
  | ok parsed =>
    have selects : Grammar.Form.select.parser (source.cursorAt position) = .ok parsed := select
    cases (Grammar.statement_of_ok selects).symm.trans failed
  | error mismatch =>
    have first : ∃ more, (source.cursorAt position).statement.mismatches = mismatch :: more := by
      simp only [Cursor.statement, select, Attempt.orTry]
      cases (source.cursorAt position).insert <;> cases (source.cursorAt position).createTable <;>
        exact ⟨_, rfl⟩
    obtain ⟨more, shape⟩ := first
    have told : (source.noteMismatch journal mismatch).tracker.Reached position :=
      reached_of_noted (.error mismatch)
        (fun _ same => Grammar.failsOnward_select _ _ _ (select.trans same)) rfl
    simp only [Source.statement, Source.statementAt, shape, List.foldl_cons]
    exact reached_foldl_noteMismatch more told

theorem Rule.reached_of_failed {rule : Rule} (records : rule ≠ .expression) {journal : Journal}
    (failed : (rule.read source position journal).1 = none) :
    (rule.read source position journal).2.tracker.Reached position := by
  cases rule with
  | expression => exact absurd rfl records
  | expressions stops => exact reached_of_noted _ (Grammar.failsOnward_literals stops _) failed
  | select stop => exact reached_of_noted _ (Grammar.failsOnward_select stop _) failed
  | insert => exact reached_of_noted _ (Grammar.recognizes_insert.failsOnward _) failed
  | createTable => exact reached_of_noted _ (Grammar.recognizes_createTable.failsOnward _) failed
  | statement => exact reached_of_statement failed

theorem le_of_reaches {later : Cursor} (h : (source.cursorAt position).Reaches later) :
    position ≤ later.position ∧
      (position ≤ source.tokens.length → later.position ≤ source.tokens.length) := by
  obtain ⟨passed, split, moved⟩ := h
  have left := congrArg List.length split
  rw [Source.position_cursorAt] at moved
  simp only [Source.cursorAt, Cursor.ofTokens, List.length_drop, List.length_append] at left
  omega

end

/-! ## Whole scripts -/

namespace Grammar

/-- A statement that cannot be read is told from its own failures alone. -/
theorem scriptFrom_blind (source : Source) (position : Nat) (tokens : List Token)
    (before other : Journal) :
    (source.scriptFrom ⟨position, tokens⟩ before).1 =
      (source.scriptFrom ⟨position, tokens⟩ other).1 := by
  induction course position tokens generalizing before other with
  | done position => rw [scriptFrom_nil, scriptFrom_nil]
  | unread nonempty unparsed =>
    -- the tracker of each run starts from nothing, whatever the events in front
    rw [scriptFrom_of_unparsed source nonempty unparsed,
      scriptFrom_of_unparsed source nonempty unparsed, tracker_foldl_noteMismatch,
      tracker_foldl_noteMismatch]
  | unclosed tree follows opened =>
    rw [scriptFrom_unclosed source tree follows opened,
      scriptFrom_unclosed source tree follows opened]
  | clause clause ends _ ih =>
    obtain ⟨later, step⟩ := scriptFrom_clause source clause ends before
    obtain ⟨later', step'⟩ := scriptFrom_clause source clause ends other
    rw [step, step', ih later later']

/-- The tracker has no influence on what is read, and no failure is lost on it. For every text with
its tokens and any two journals, where a parser writes its failures down as it reads:

* every rule reads at every position what its grammar does, and leaves the same journal;
* what it reads, or that it reads nothing, is the same with both journals;
* where it reads nothing, the furthest position is afterwards no less than the position it started
  from, and no less than the furthest before, unless the rule is the one of expressions, which
  leaves the recording to its callers;
* where it reads something, it stops at its start or behind, and in the tokens if it started there;
* a script, with its error if it has one, is the same with both journals, and that of its grammar.
-/
theorem tracker_never_influences_what_is_read (source : Source) (before other : Journal) :
    (∀ (rule : Rule) (position : Nat),
      let run := rule.steps source position before
      let grammar := rule.read source position before
      run = (grammar.1.map Source.parsedAt, grammar.2) ∧
      run.1 = (rule.steps source position other).1 ∧
      (run.1 = none → rule ≠ .expression → run.2.tracker.Reached position ∧
        ∀ furthest ∈ before.tracker.position, run.2.tracker.Reached furthest) ∧
      ∀ value next, run.1 = some (value, next) →
        position ≤ next ∧ (position ≤ source.tokens.length → next ≤ source.tokens.length)) ∧
    source.scriptSteps [] 0 before = source.script before ∧
    (source.scriptSteps [] 0 before).1 = (source.scriptSteps [] 0 other).1 := by
  have script (journal : Journal) : source.scriptSteps [] 0 journal = source.script journal := by
    rw [Source.scriptSteps_eq]
    refine Prod.ext ?_ rfl
    show (source.script journal).1.map ([] ++ ·) = (source.script journal).1
    cases (source.script journal).1 <;> rfl
  refine ⟨fun rule position => ?_, script before, ?_⟩
  · have reads := rule.reads source position
    intro run grammar
    have same : run = (grammar.1.map Source.parsedAt, grammar.2) := reads.steps_eq before
    refine ⟨same, ?_, fun failed records => ?_, fun value next stopped => ?_⟩
    · rw [same, reads.steps_eq other, reads.blind before other]
    · rw [same] at failed ⊢
      exact ⟨rule.reached_of_failed records (Option.map_eq_none_iff.1 failed),
        fun furthest held => reads.keeps before furthest ⟨furthest, held, Nat.le_refl _⟩⟩
    · rw [same] at stopped
      obtain ⟨⟨value', later⟩, read, here⟩ := Option.map_eq_some_iff.1 stopped
      cases here
      exact le_of_reaches (reads.reaches before _ _ read)
  · rw [script before, script other]
    exact scriptFrom_blind source 0 _ before other

end Grammar

end SqlShell
