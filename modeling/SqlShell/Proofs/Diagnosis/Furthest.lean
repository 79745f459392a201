import SqlShell.Diagnosis.Tracker

/-!
# What a tracker keeps

A run of failures leaves the tracker at the furthest of their positions. Two cases decide which
error is reported: one failure alone stands furthest (`foldl_track_of_furthest`), or all of them
stand at the same place (`foldl_track_of_same`).
-/

namespace SqlShell

namespace Tracker

/-- Whatever the tracker holds stands before a position. -/
def Before (tracker : Tracker) (position : Nat) : Prop :=
  ∀ furthest ∈ tracker.furthest, furthest.position < position

theorem before_empty (position : Nat) : Before {} position := by
  simp [Before]

theorem track_of_before {tracker : Tracker} {failure : Failure}
    (h : tracker.Before failure.position) :
    tracker.track failure = ⟨some (.ofFailure failure)⟩ := by
  obtain ⟨_ | furthest⟩ := tracker
  · rfl
  · have behind : furthest.position < failure.position := h furthest rfl
    have notBefore : ¬ failure.position < furthest.position := by omega
    have notSame : failure.position ≠ furthest.position := by omega
    simp only [track, notBefore, notSame, if_false]

theorem track_of_lt {furthest : Furthest} {failure : Failure}
    (h : failure.position < furthest.position) :
    track ⟨some furthest⟩ failure = ⟨some furthest⟩ := by
  simp only [track, h, if_true]

theorem before_track {tracker : Tracker} {failure : Failure} {position : Nat}
    (h : tracker.Before position) (h' : failure.position < position) :
    (tracker.track failure).Before position := by
  obtain ⟨_ | furthest⟩ := tracker
  · simpa [Before, track, Furthest.ofFailure] using h'
  · have : furthest.position < position := h furthest rfl
    simp only [track]
    split
    · exact h
    · split
      · simp only [Before, Furthest.also]
        split <;> simpa using this
      · simpa [Before, Furthest.ofFailure] using h'

/-- A failure that stands behind all the others is what remains. -/
theorem foldl_track_of_furthest {front back : List Failure} {failure : Failure}
    (alone : ∀ other ∈ front ++ back, other.position < failure.position) {tracker : Tracker}
    (h : tracker.Before failure.position) :
    (front ++ failure :: back).foldl track tracker = ⟨some (.ofFailure failure)⟩ := by
  induction front generalizing tracker with
  | nil =>
    rw [List.nil_append, List.foldl_cons, track_of_before h]
    rw [List.nil_append] at alone
    -- from here on every failure stands before the one that is kept
    induction back with
    | nil => rfl
    | cons other back ih =>
      rw [List.foldl_cons, track_of_lt (alone other List.mem_cons_self)]
      exact ih fun g inside => alone g (List.mem_cons_of_mem _ inside)
  | cons other front ih =>
    exact ih (fun g inside => alone g (List.mem_cons_of_mem _ inside))
      (before_track h (alone other List.mem_cons_self))

/-- Failures where the furthest one stands add to what it expected, and to nothing else. -/
theorem foldl_track_of_same {failures : List Failure} {furthest : Furthest}
    (same : ∀ failure ∈ failures, failure.position = furthest.position) :
    ∃ expected, failures.foldl track ⟨some furthest⟩ = ⟨some { furthest with expected }⟩ := by
  induction failures generalizing furthest with
  | nil => exact ⟨furthest.expected, rfl⟩
  | cons failure failures ih =>
    have here : failure.position = furthest.position := same failure List.mem_cons_self
    have merged : ∃ expected, furthest.also failure.expected = { furthest with expected } := by
      simp only [Furthest.also]
      split
      · exact ⟨furthest.expected, rfl⟩
      · exact ⟨_, rfl⟩
    obtain ⟨expected, merged⟩ := merged
    have step : track ⟨some furthest⟩ failure = ⟨some { furthest with expected }⟩ := by
      simp only [track, here, Nat.lt_irrefl, if_false, if_true, merged]
    rw [List.foldl_cons, step]
    exact ih fun g inside => same g (List.mem_cons_of_mem _ inside)

end Tracker

end SqlShell
