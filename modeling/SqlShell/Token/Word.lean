/-!
# The longest word at the start of a text

`longestMatch` finds which of some lower-case words a text starts with, ignoring the case of ASCII
letters, and prefers the longest. It reads the text once: every word runs along while it fits, a
word read to its end is the best so far, and reading stops once no longer word is running.
A match needs no word boundary after it.
-/

namespace SqlShell.Token

/-- A word in the running, and the rest of it that is still to be matched. -/
structure Candidate where
  word : List Char
  left : List Char

/-- The candidate after one more character, or nothing when the character does not fit. -/
def Candidate.follow? (c : Char) (candidate : Candidate) : Option Candidate :=
  match candidate.left with
  | [] => none
  | expected :: left => if expected = c then some ⟨candidate.word, left⟩ else none

/-- Read on with the candidates in the running and the best complete word so far. -/
def narrow (best : Option (List Char)) (running : List Candidate) :
    List Char → Option (List Char)
  | [] => best
  | c :: rest =>
    let followed := running.filterMap (·.follow? c.toLower)
    let best :=
      match followed.find? (·.left.isEmpty) with
      | some complete => some complete.word
      | none => best
    let running := followed.filter (!·.left.isEmpty)
    if running.isEmpty then best else narrow best running rest

/-- The longest of `words` that a text starts with, ignoring ASCII case. -/
def longestMatch (words : List (List Char)) (cs : List Char) : Option (List Char) :=
  narrow none (words.map fun word => ⟨word, word⟩) cs

/-! ## A match has characters -/

theorem Candidate.word_ne_nil_of_follow? {c : Char} {k k' : Candidate}
    (fits : k.left ≠ [] → k.word ≠ []) (h : k.follow? c = some k') : k'.word ≠ [] := by
  obtain ⟨word, left⟩ := k
  cases left with
  | nil => simp [follow?] at h
  | cons expected left =>
    simp only [follow?] at h
    split at h
    · cases h
      exact fits (by simp)
    · cases h

theorem narrow_ne_nil {best : Option (List Char)} {running : List Candidate} {cs w : List Char}
    (hbest : ∀ b, best = some b → b ≠ [])
    (hrunning : ∀ k ∈ running, k.left ≠ [] → k.word ≠ [])
    (h : narrow best running cs = some w) : w ≠ [] := by
  induction cs generalizing best running with
  | nil => exact hbest w h
  | cons c rest ih =>
    have followed : ∀ k ∈ running.filterMap (·.follow? c.toLower), k.word ≠ [] := by
      intro k hk
      obtain ⟨j, hj, hjk⟩ := List.mem_filterMap.1 hk
      exact j.word_ne_nil_of_follow? (hrunning j hj) hjk
    have better : ∀ b,
        (match (running.filterMap (·.follow? c.toLower)).find? (·.left.isEmpty) with
          | some complete => some complete.word
          | none => best) = some b → b ≠ [] := by
      intro b hb
      split at hb
      · next complete found =>
        cases hb
        exact followed complete (List.mem_of_find?_eq_some found)
      · exact hbest b hb
    simp only [narrow] at h
    split at h
    · exact better w h
    · exact ih better (fun k hk _ => followed k (List.mem_filter.1 hk).1) h

/-- The empty word is never found. -/
theorem longestMatch_ne_nil {words : List (List Char)} {cs w : List Char}
    (h : longestMatch words cs = some w) : w ≠ [] := by
  apply narrow_ne_nil (by simp) _ h
  intro k hk
  obtain ⟨word, -, rfl⟩ := List.mem_map.1 hk
  exact id

/-- Nothing is found at the end of a text. -/
@[simp] theorem longestMatch_nil (words : List (List Char)) : longestMatch words [] = none := rfl

end SqlShell.Token
