import SqlShell.Token.Word
import Mathlib.Data.List.Infix

/-!
# The longest word is found

`longestMatch` reads a text once and never goes back. `narrow_longest` is the invariant that makes
this right: the best word is the longest that fits what has been read, and a candidate is in the
running exactly when what has been read is a proper start of its word.

Main result: `longestMatch_eq_some_iff` and `longestMatch_eq_none_iff`, which say what is found
without saying how.
-/

namespace SqlShell.Token

/-- The longest of some words that a text starts with. The empty word does not count. -/
def Longest (words : List (List Char)) (text : List Char) : Option (List Char) → Prop
  | none => ∀ word ∈ words, word <+: text → word = []
  | some best => best ∈ words ∧ best ≠ [] ∧ best <+: text ∧
      ∀ word ∈ words, word <+: text → word.length ≤ best.length

/-- The candidates in the running once `seen` has been read. -/
structure InRunning (words : List (List Char)) (seen : List Char) (running : List Candidate) :
    Prop where
  sound : ∀ k ∈ running, k.word ∈ words ∧ k.word = seen ++ k.left
  complete : ∀ word ∈ words, ∀ left, word = seen ++ left → left ≠ [] → ⟨word, left⟩ ∈ running

theorem follow?_eq_some_iff {c : Char} {k k' : Candidate} :
    k.follow? c = some k' ↔ k.word = k'.word ∧ k.left = c :: k'.left := by
  obtain ⟨word, left⟩ := k
  obtain ⟨word', left'⟩ := k'
  cases left with
  | nil => simp [Candidate.follow?]
  | cons expected left =>
    simp only [Candidate.follow?]
    split
    · next same => simp [same]
    · next different => simp [different]

/-- Following a character keeps the words that go on with it, those at their end included. -/
theorem mem_follow_iff {words : List (List Char)} {seen : List Char} {running : List Candidate}
    (h : InRunning words seen running) (c : Char) (k : Candidate) :
    k ∈ running.filterMap (·.follow? c) ↔ k.word ∈ words ∧ k.word = seen ++ [c] ++ k.left := by
  rw [List.mem_filterMap]
  constructor
  · rintro ⟨j, inside, follows⟩
    obtain ⟨same, left⟩ := follow?_eq_some_iff.1 follows
    obtain ⟨isWord, shape⟩ := h.sound j inside
    refine ⟨same ▸ isWord, ?_⟩
    rw [← same, shape, left]
    simp
  · rintro ⟨isWord, shape⟩
    refine ⟨⟨k.word, c :: k.left⟩, h.complete k.word isWord _ ?_ (by simp), ?_⟩
    · rw [shape]
      simp
    · exact follow?_eq_some_iff.2 ⟨rfl, rfl⟩

theorem inRunning_filter {words : List (List Char)} {seen : List Char} {running : List Candidate}
    (h : InRunning words seen running) (c : Char) :
    InRunning words (seen ++ [c])
      ((running.filterMap (·.follow? c)).filter (!·.left.isEmpty)) where
  sound k inside := (mem_follow_iff h c k).1 (List.mem_filter.1 inside).1
  complete word isWord left shape nonempty :=
    List.mem_filter.2 ⟨(mem_follow_iff h c ⟨word, left⟩).2 ⟨isWord, shape⟩, by simpa using nonempty⟩

/-- A longer text has the same longest word if no word comes to fit. -/
theorem Longest.extend {words : List (List Char)} {seen longer : List Char}
    {best : Option (List Char)} (h : Longest words seen best) (start : seen <+: longer)
    (before : ∀ word ∈ words, word <+: longer → word <+: seen) : Longest words longer best := by
  cases best with
  | none => exact fun word isWord fits => h word isWord (before word isWord fits)
  | some best =>
    obtain ⟨isBest, nonempty, fits, longest⟩ := h
    exact ⟨isBest, nonempty, fits.trans start,
      fun word isWord fits => longest word isWord (before word isWord fits)⟩

/-- A word that is the whole text is the longest. -/
theorem longest_of_mem {words : List (List Char)} {text : List Char} (isWord : text ∈ words)
    (nonempty : text ≠ []) : Longest words text (some text) :=
  ⟨isWord, nonempty, List.prefix_rfl, fun _ _ fits => fits.length_le⟩

/-- One more character makes no difference unless a word ends with it. -/
theorem Longest.concat {words : List (List Char)} {seen : List Char} {best : Option (List Char)}
    (h : Longest words seen best) {c : Char} (unended : seen ++ [c] ∉ words) :
    Longest words (seen ++ [c]) best := by
  refine h.extend (List.prefix_append _ _) fun word isWord fits => ?_
  refine (List.prefix_concat_iff.1 fits).resolve_left fun whole => ?_
  exact unended (whole ▸ isWord)

/-- One more character: a word that ends with it is the best so far. -/
theorem longest_step {words : List (List Char)} {seen : List Char} {running : List Candidate}
    {best : Option (List Char)} (h : InRunning words seen running)
    (hbest : Longest words seen best) (c : Char) :
    Longest words (seen ++ [c])
      (match (running.filterMap (·.follow? c)).find? (·.left.isEmpty) with
        | some complete => some complete.word
        | none => best) := by
  cases found : (running.filterMap (·.follow? c)).find? (·.left.isEmpty) with
  | some complete =>
    have ended : complete.left = [] := by simpa using List.find?_some found
    obtain ⟨isWord, shape⟩ := (mem_follow_iff h c complete).1 (List.mem_of_find?_eq_some found)
    rw [ended, List.append_nil] at shape
    rw [shape] at isWord
    simp only [shape]
    exact longest_of_mem isWord (by simp)
  | none =>
    refine hbest.concat fun isWord => ?_
    have inside := (mem_follow_iff h c ⟨seen ++ [c], []⟩).2 ⟨isWord, by simp⟩
    simpa using List.find?_eq_none.1 found _ inside

/-- When nothing is in the running, the rest of the text does not matter. -/
theorem longest_append {words : List (List Char)} {seen : List Char} {best : Option (List Char)}
    (h : InRunning words seen []) (hbest : Longest words seen best) (rest : List Char) :
    Longest words (seen ++ rest) best := by
  refine hbest.extend (List.prefix_append _ _) fun word isWord start => ?_
  rcases List.prefix_or_prefix_of_prefix start (List.prefix_append seen rest) with short | long
  · exact short
  · -- a longer word would still be in the running
    obtain ⟨left, rfl⟩ := long
    by_cases ended : left = []
    · simp [ended]
    · exact absurd (h.complete _ isWord left rfl ended) (by simp)

theorem narrow_longest {words : List (List Char)} {seen : List Char} {running : List Candidate}
    {best : Option (List Char)} (h : InRunning words seen running)
    (hbest : Longest words seen best) (cs : List Char) :
    Longest words (seen ++ cs.map Char.toLower) (narrow best running cs) := by
  induction cs generalizing seen running best with
  | nil => simpa [narrow] using hbest
  | cons c rest ih =>
    have step := longest_step h hbest c.toLower
    have next := inRunning_filter h c.toLower
    rw [List.map_cons, ← List.singleton_append, ← List.append_assoc]
    simp only [narrow]
    -- the reader stops early once no candidate is left
    split
    · next empty =>
      rw [List.isEmpty_iff.1 empty] at next
      exact longest_append next step _
    · exact ih next step

theorem longest_longestMatch (words : List (List Char)) (cs : List Char) :
    Longest words (cs.map Char.toLower) (longestMatch words cs) := by
  -- before the first character every word is in the running, and none has been found
  have start : InRunning words [] (words.map fun word => ⟨word, word⟩) := by
    refine ⟨?_, ?_⟩
    · intro k inside
      obtain ⟨word, isWord, rfl⟩ := List.mem_map.1 inside
      exact ⟨isWord, rfl⟩
    · rintro word isWord left rfl -
      exact List.mem_map.2 ⟨_, isWord, rfl⟩
  have nothing : Longest words [] none := fun word _ fits => List.prefix_nil.1 fits
  exact narrow_longest start nothing cs

theorem Longest.unique {words : List (List Char)} {text : List Char}
    {best other : Option (List Char)}
    (h : Longest words text best) (h' : Longest words text other) : best = other := by
  match best, other with
  | none, none => rfl
  | none, some word => exact absurd (h word h'.1 h'.2.2.1) h'.2.1
  | some word, none => exact absurd (h' word h.1 h.2.2.1) h.2.1
  | some word, some word' =>
    -- starts of one text of the same length
    have same := Nat.le_antisymm (h'.2.2.2 word h.1 h.2.2.1) (h.2.2.2 word' h'.1 h'.2.2.1)
    rw [List.prefix_iff_eq_take.1 h.2.2.1, List.prefix_iff_eq_take.1 h'.2.2.1, same]

/-- The word that is found is the longest that the text starts with, in any case of its letters. -/
theorem longestMatch_eq_some_iff {words : List (List Char)} {cs best : List Char} :
    longestMatch words cs = some best ↔ Longest words (cs.map Char.toLower) (some best) := by
  constructor
  · exact fun h => h ▸ longest_longestMatch words cs
  · exact (longest_longestMatch words cs).unique

theorem longestMatch_eq_none_iff {words : List (List Char)} {cs : List Char} :
    longestMatch words cs = none ↔
      ∀ word ∈ words, word <+: cs.map Char.toLower → word = [] := by
  constructor
  · intro h
    have longest := longest_longestMatch words cs
    rwa [h] at longest
  · intro h
    have nothing : Longest words (cs.map Char.toLower) none := h
    exact (longest_longestMatch words cs).unique nothing

end SqlShell.Token
