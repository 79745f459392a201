import Mathlib.Data.List.DropRight
import SqlShell.Diagnosis.Tracker

/-!
# What a tracker makes of its history

A tracker is told of failures, is reset, and is asked for the furthest position and for the error.
Whatever it has been through, it stands for the failures since the last reset: it holds the greatest
of their positions, and what it says of the others depends on the failures there alone
(`SumsUp`). Failures in front of that position and questions leave no trace.
-/

namespace SqlShell.Tracker

/-! ## Calls -/

/-- What a tracker is called to do. -/
inductive Call where
  | track (failure : Failure)
  | reset
  /-- A question for the furthest position. -/
  | position
  /-- A question for the error of a text. -/
  | error (text : String)

namespace Call

def isReset : Call → Bool
  | reset => true
  | _ => false

def isQuestion : Call → Bool
  | position | error _ => true
  | track _ | reset => false

def failure? : Call → Option Failure
  | track failure => some failure
  | _ => none

end Call

/-- What a call makes of a tracker. A question is answered from the tracker as it stands. -/
def call (tracker : Tracker) : Call → Tracker
  | .track failure => tracker.track failure
  | .reset => {}
  | .position | .error _ => tracker

/-- The tracker after calls in order. -/
def after (tracker : Tracker) (calls : List Call) : Tracker :=
  calls.foldl call tracker

/-- The failures since the last reset. -/
def recent (calls : List Call) : List Failure :=
  (calls.rtakeWhile (! ·.isReset)).filterMap (·.failure?)

theorem after_concat (tracker : Tracker) (calls : List Call) (last : Call) :
    tracker.after (calls ++ [last]) = (tracker.after calls).call last :=
  List.foldl_concat ..

theorem recent_track (calls : List Call) (failure : Failure) :
    recent (calls ++ [.track failure]) = recent calls ++ [failure] := by
  rw [recent, List.rtakeWhile_concat, if_pos (by rfl), List.filterMap_append]
  rfl

theorem recent_reset (calls : List Call) : recent (calls ++ [.reset]) = [] := by
  rw [recent, List.rtakeWhile_concat, if_neg (by decide)]
  rfl

theorem recent_question (calls : List Call) {question : Call} (asks : question.isQuestion = true) :
    recent (calls ++ [question]) = recent calls := by
  cases question with
  | track | reset => cases asks
  | position | error =>
    rw [recent, List.rtakeWhile_concat, if_pos (by rfl), List.filterMap_append]
    exact List.append_nil _

theorem after_question (tracker : Tracker) {question : Call} (asks : question.isQuestion = true) :
    tracker.call question = tracker := by
  cases question with
  | track | reset => cases asks
  | position | error => rfl

/-! ## What failures amount to -/

/-- The failures at a position. -/
def failuresAt (position : Nat) (failures : List Failure) : List Failure :=
  failures.filter (·.position = position)

/-- What is expected in some failures, once each, in the order of first occurrence. -/
def expectations (failures : List Failure) : List String :=
  (failures.map (·.expected)).eraseDups

/-- `furthest` is what some failures amount to: no failure stands behind it, the first of those at its
position has its place and its token, and together they have its expectations. -/
structure SumsUp (failures : List Failure) (furthest : Furthest) : Prop where
  greatest : ∀ failure ∈ failures, failure.position ≤ furthest.position
  here : ∃ first rest, failuresAt furthest.position failures = first :: rest ∧
    furthest.location = first.location ∧ furthest.found = first.found ∧
    furthest.expected = expectations (first :: rest)

theorem expectations_concat (failures : List Failure) (failure : Failure) :
    expectations (failures ++ [failure]) =
      if failure.expected ∈ expectations failures then expectations failures
      else expectations failures ++ [failure.expected] := by
  simp only [expectations, List.map_append, List.map_cons, List.map_nil, List.eraseDups_append,
    List.mem_eraseDups, List.removeAll, List.filter_cons, List.filter_nil]
  by_cases known : failure.expected ∈ failures.map (·.expected)
  · simp [known]
  · simp [known, List.eraseDups_cons]

theorem failuresAt_of_lt {failures : List Failure} {position : Nat}
    (before : ∀ failure ∈ failures, failure.position < position) : failuresAt position failures = [] := by
  rw [failuresAt, List.filter_eq_nil_iff]
  intro failure inside here
  have := before failure inside
  have := of_decide_eq_true here
  omega

namespace SumsUp

variable {failures : List Failure} {furthest : Furthest} {failure : Failure}

theorem exists_failure (h : SumsUp failures furthest) :
    ∃ failure ∈ failures, failure.position = furthest.position := by
  obtain ⟨first, rest, shape, -⟩ := h.here
  have inside : first ∈ failuresAt furthest.position failures := by simp [shape]
  obtain ⟨known, here⟩ := List.mem_filter.1 inside
  exact ⟨first, known, of_decide_eq_true here⟩

/-- A failure behind all others stands for itself. -/
theorem ofFailure (further : ∀ other ∈ failures, other.position < failure.position) :
    SumsUp (failures ++ [failure]) (.ofFailure failure) where
  greatest := by
    intro other inside
    rcases List.mem_append.1 inside with inside | inside
    · exact Nat.le_of_lt (further other inside)
    · cases List.mem_singleton.1 inside
      exact Nat.le_refl _
  here := by
    refine ⟨failure, [], ?_, rfl, rfl, ?_⟩
    · show failuresAt failure.position (failures ++ [failure]) = [failure]
      rw [failuresAt, List.filter_append, ← failuresAt, failuresAt_of_lt further]
      simp
    · simp [expectations, Furthest.ofFailure, List.eraseDups_cons]

/-- A failure in front adds nothing. -/
theorem before (h : SumsUp failures furthest) (lower : failure.position < furthest.position) :
    SumsUp (failures ++ [failure]) furthest where
  greatest := by
    intro other inside
    rcases List.mem_append.1 inside with inside | inside
    · exact h.greatest other inside
    · cases List.mem_singleton.1 inside
      exact Nat.le_of_lt lower
  here := by
    have elsewhere : failuresAt furthest.position [failure] = [] :=
      failuresAt_of_lt (by simpa using lower)
    have same : failuresAt furthest.position (failures ++ [failure]) =
        failuresAt furthest.position failures := by
      rw [failuresAt, List.filter_append, ← failuresAt, ← failuresAt, elsewhere, List.append_nil]
    rw [same]
    exact h.here

/-- A failure at the same position adds what it expects. -/
theorem also (h : SumsUp failures furthest) (same : failure.position = furthest.position) :
    SumsUp (failures ++ [failure]) (furthest.also failure.expected) := by
  obtain ⟨first, rest, shape, location, found, expected⟩ := h.here
  have merged : furthest.also failure.expected =
      { furthest with expected := expectations (first :: rest ++ [failure]) } := by
    rw [Furthest.also, expectations_concat, ← expected]
    split
    · rfl
    · rfl
  rw [merged]
  refine ⟨?_, first, rest ++ [failure], ?_, location, found, rfl⟩
  · intro other inside
    rcases List.mem_append.1 inside with inside | inside
    · exact h.greatest other inside
    · cases List.mem_singleton.1 inside
      exact Nat.le_of_eq same
  · show failuresAt furthest.position (failures ++ [failure]) = _
    rw [failuresAt, List.filter_append, ← failuresAt, shape]
    simp [same]

/-- Failures amount to one thing. -/
theorem unique {other : Furthest} (h : SumsUp failures furthest) (h' : SumsUp failures other) :
    furthest = other := by
  obtain ⟨failure, inside, here⟩ := h.exists_failure
  obtain ⟨failure', inside', here'⟩ := h'.exists_failure
  have positions : furthest.position = other.position := by
    have := h.greatest failure' inside'
    have := h'.greatest failure inside
    omega
  obtain ⟨first, rest, shape, location, found, expected⟩ := h.here
  obtain ⟨first', rest', shape', location', found', expected'⟩ := h'.here
  rw [positions, shape'] at shape
  cases shape
  cases furthest
  cases other
  simp_all

/-- What failures amount to is decided by those that do not stand in front of it. -/
theorem congr {others : List Failure} (h : SumsUp failures furthest)
    (same : others.filter (furthest.position ≤ ·.position) =
      failures.filter (furthest.position ≤ ·.position)) : SumsUp others furthest where
  greatest := by
    intro failure inside
    by_cases lower : failure.position < furthest.position
    · exact Nat.le_of_lt lower
    · have kept : failure ∈ others.filter (furthest.position ≤ ·.position) :=
        List.mem_filter.2 ⟨inside, decide_eq_true (Nat.le_of_not_lt lower)⟩
      rw [same] at kept
      exact h.greatest failure (List.mem_filter.1 kept).1
  here := by
    -- The failures at the position are among those from it on.
    have twice (failures : List Failure) : failuresAt furthest.position
        (failures.filter (furthest.position ≤ ·.position)) =
          failuresAt furthest.position failures := by
      rw [failuresAt, List.filter_filter]
      refine List.filter_congr fun failure _ => ?_
      rw [← Bool.decide_and, decide_eq_decide]
      omega
    rw [← twice, same, twice]
    exact h.here

end SumsUp

/-! ## Runs -/

/-- A tracker stands for some failures. -/
inductive StandsFor : Tracker → List Failure → Prop where
  | nothing : StandsFor {} []
  | furthest {failures : List Failure} {furthest : Furthest} (sums : SumsUp failures furthest) :
      StandsFor ⟨some furthest⟩ failures

theorem StandsFor.track {tracker : Tracker} {failures : List Failure}
    (h : tracker.StandsFor failures) (failure : Failure) :
    (tracker.track failure).StandsFor (failures ++ [failure]) := by
  cases h with
  | nothing => exact .furthest (SumsUp.ofFailure nofun)
  | furthest sums =>
    simp only [Tracker.track]
    split
    · next lower => exact .furthest (sums.before lower)
    · split
      · next same => exact .furthest (sums.also same)
      · next notBefore notSame =>
        refine .furthest (SumsUp.ofFailure fun other inside => ?_)
        have := sums.greatest other inside
        omega

/-- After any calls a tracker stands for the failures since the last reset. -/
theorem standsFor_after (calls : List Call) : (after {} calls).StandsFor (recent calls) := by
  -- Calls are made at the end, so the induction is on the last one.
  induction calls using List.reverseRecOn with
  | nil => exact .nothing
  | append_singleton calls last ih =>
    rw [after_concat]
    cases last with
    | track failure =>
      rw [recent_track]
      exact ih.track failure
    | reset =>
      rw [recent_reset]
      exact .nothing
    | position =>
      rw [recent_question calls rfl]
      exact ih
    | error text =>
      rw [recent_question calls rfl]
      exact ih

theorem StandsFor.eq_empty {tracker : Tracker} (h : tracker.StandsFor []) : tracker = {} := by
  cases h with
  | nothing => rfl
  | furthest sums =>
    obtain ⟨failure, inside, -⟩ := sums.exists_failure
    cases inside

theorem StandsFor.sumsUp {tracker : Tracker} {failures : List Failure}
    (h : tracker.StandsFor failures) (nonempty : failures ≠ []) :
    ∃ furthest, tracker = ⟨some furthest⟩ ∧ SumsUp failures furthest := by
  cases h with
  | nothing => exact absurd rfl nonempty
  | furthest sums => exact ⟨_, rfl, sums⟩

/-- Failures in front of the furthest position make no difference. -/
theorem StandsFor.eq_of_filter_eq {tracker other : Tracker} {failures others : List Failure}
    (h : tracker.StandsFor failures) (h' : other.StandsFor others) {position : Nat}
    (known : tracker.position = some position)
    (same : others.filter (position ≤ ·.position) = failures.filter (position ≤ ·.position)) :
    other = tracker := by
  cases h with
  | nothing => cases known
  | furthest sums =>
    cases known
    have sums' := sums.congr same
    obtain ⟨failure, inside, -⟩ := sums'.exists_failure
    obtain ⟨furthest', rfl, sums''⟩ := h'.sumsUp (List.ne_nil_of_mem inside)
    rw [sums''.unique sums']

/-- Questions leave no trace. -/
theorem after_without_questions (tracker : Tracker) (calls : List Call) :
    tracker.after (calls.filter (! ·.isQuestion)) = tracker.after calls := by
  induction calls generalizing tracker with
  | nil => rfl
  | cons first calls ih =>
    by_cases asks : first.isQuestion = true
    · rw [List.filter_cons_of_neg (by simp [asks]), ih]
      show _ = after (tracker.call first) calls
      rw [after_question tracker asks]
    · rw [List.filter_cons_of_pos (by simp [asks])]
      exact ih (tracker.call first)

/-! ## The error -/

theorem wanted_of_several {furthest : Furthest} (several : 1 < furthest.expected.length) :
    furthest.wanted = "one of: " ++ String.intercalate ", " furthest.expected := by
  obtain ⟨position, location, expected, found⟩ := furthest
  match expected with
  | [] => cases several
  | [_] => exact absurd several (Nat.lt_irrefl 1)
  | _ :: _ :: _ => simp only [Furthest.wanted]

theorem message_token (expected : String) (found : Option String) :
    (ParseFault.token expected found).message = "Expected " ++ expected ++ (match found with
      | some found => ", found '" ++ found ++ "'"
      | none => ", reached end of input") := by
  cases found with
  | none => rfl
  | some found =>
    show "Expected " ++ expected ++ ", found '" ++ found ++ "'" = _
    simp only [String.append_assoc]

/-- A tracker computes the maximum of its history. Of the failures since the last reset, whatever came
before and whatever was asked in between:

* without any, there is no furthest position;
* otherwise the furthest position is the greatest of theirs, and the error has the place and the token
  of the first failure there and wants what the failures there expect, each text once, in the order of
  first occurrence: a single one alone, several as a list;
* questions change nothing;
* nor do failures in front of the furthest position: any other calls whose recent failures are the same
  from that position on lead to the same tracker. -/
theorem tracker_computes_maximum_of_history (calls : List Call) :
    let tracker := after {} calls
    let failures := recent calls
    (failures = [] → tracker.position = none) ∧
    (failures ≠ [] → ∃ position first rest, tracker.position = some position ∧
      (∀ failure ∈ failures, failure.position ≤ position) ∧
      failures.filter (·.position = position) = first :: rest ∧
      ∀ text, ∃ wanted,
        (tracker.error text).location = first.location ∧
        (tracker.error text).fault = .token wanted first.found ∧
        (tracker.error text).fault.message = "Expected " ++ wanted ++ (match first.found with
          | some found => ", found '" ++ found ++ "'"
          | none => ", reached end of input") ∧
        let expected := ((first :: rest).map (·.expected)).eraseDups
        (∀ alone, expected = [alone] → wanted = alone) ∧
        (1 < expected.length → wanted = "one of: " ++ String.intercalate ", " expected)) ∧
    after {} (calls.filter (! ·.isQuestion)) = tracker ∧
    ∀ position others, tracker.position = some position →
      (recent others).filter (position ≤ ·.position) =
        failures.filter (position ≤ ·.position) → after {} others = tracker := by
  intro tracker failures
  have stands : tracker.StandsFor failures := standsFor_after calls
  refine ⟨fun none_ => ?_, fun some_ => ?_, after_without_questions {} calls, ?_⟩
  · rw [none_] at stands
    rw [stands.eq_empty]
    rfl
  · obtain ⟨furthest, same, sums⟩ := stands.sumsUp some_
    obtain ⟨first, rest, shape, location, found, expected⟩ := sums.here
    refine ⟨furthest.position, first, rest, by rw [same]; rfl, sums.greatest, shape, fun text => ?_⟩
    refine ⟨furthest.wanted, by rw [same]; exact location, by rw [same, ← found]; rfl, ?_, ?_, ?_⟩
    · rw [same, ← found]
      exact message_token furthest.wanted furthest.found
    · intro alone one
      rw [Furthest.wanted, expected, expectations, one]
    · intro several
      rw [← expectations, ← expected] at several ⊢
      exact wanted_of_several several
  · intro position others known same
    exact stands.eq_of_filter_eq (standsFor_after others) known same

end SqlShell.Tracker
