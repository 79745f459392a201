import SqlShell.Proofs.Lexing.LongestWord
import SqlShell.Proofs.Lexing.NumeralBytes
import Mathlib.Data.Finset.Card

/-!
# The longest word by elimination

The longest word at the start of a text can be found without candidates that carry their rests: a
`Sieve` keeps the places of the words that are out, and what has been read of the text grows by one
character a turn. A word is out when it has been read to its end, even as the best so far, and when
it no longer fits. Reading stops when every word is out.

* `longest_sift` — it finds the longest word, since a word that is out never comes to fit again;
* `sift_eq` — so it finds what `longestMatch` finds;
* `longest_fitting_word_is_found` — what that is, for words in lower case: the longest that fits the
  text in any case of its letters, and as many bytes of the text as it has characters.
-/

namespace SqlShell.Token

open Text (byteSize byteSize_cons byteSize_append)

/-! ## The sieve -/

/-- Which words are out, by their places, and the best word so far. -/
structure Sieve where
  eliminated : Finset Nat := ∅
  best : Option (List Char) := none

/-- Judge the word at a place by what has been read. Sizes are in bytes. -/
def Sieve.judge (seen : List Char) (sieve : Sieve) (entry : List Char × Nat) : Sieve :=
  let (word, place) := entry
  if place ∈ sieve.eliminated then
    sieve
  else if word = seen then
    { eliminated := insert place sieve.eliminated
      best := if sieve.best.all (byteSize · < byteSize word) then some word else sieve.best }
  else if byteSize word < byteSize seen ∨ ¬ seen <+: word then
    { sieve with eliminated := insert place sieve.eliminated }
  else
    sieve

/-- Judge every word. -/
def Sieve.turn (words : List (List Char)) (seen : List Char) (sieve : Sieve) : Sieve :=
  words.zipIdx.foldl (judge seen) sieve

/-- Read on, behind `seen`, until every word is out. -/
def sift (words : List (List Char)) (seen : List Char) (sieve : Sieve) :
    List Char → Option (List Char)
  | [] => sieve.best
  | c :: rest =>
    let seen := seen ++ [c.toLower]
    let sieve := sieve.turn words seen
    if sieve.eliminated.card = words.length then sieve.best else sift words seen sieve rest

/-! ## One turn -/

/-- A word goes on behind what has been read. -/
def RunsOn (seen word : List Char) : Prop :=
  seen <+: word ∧ word ≠ seen

theorem RunsOn.of_concat {seen word : List Char} {c : Char} (h : RunsOn (seen ++ [c]) word) :
    RunsOn seen word := by
  refine ⟨(List.prefix_append seen [c]).trans h.1, ?_⟩
  rintro rfl
  simpa using h.1.length_le

theorem runsOn_concat {front seen : List Char} (h : front <+: seen) (c : Char) :
    RunsOn front (seen ++ [c]) := by
  refine ⟨h.trans (List.prefix_append seen [c]), ?_⟩
  rintro rfl
  simpa using h.length_le

theorem byteSize_le_of_starts {front word : List Char} (h : front <+: word) :
    byteSize front ≤ byteSize word := by
  obtain ⟨back, rfl⟩ := h
  rw [byteSize_append]
  exact Nat.le_add_right _ _

theorem byteSize_lt_of_runsOn {front word : List Char} (h : RunsOn front word) :
    byteSize front < byteSize word := by
  obtain ⟨⟨back, rfl⟩, longer⟩ := h
  obtain ⟨c, back, rfl⟩ := List.exists_cons_of_ne_nil (by simpa using longer)
  have := c.utf8Size_pos
  rw [byteSize_append, byteSize_cons]
  omega

namespace Sieve

variable {words : List (List Char)} {seen word : List Char} {sieve : Sieve} {place : Nat}

/-- A word is out unless it goes on. -/
theorem mem_judge_iff (i : Nat) : i ∈ (sieve.judge seen (word, place)).eliminated ↔
    i ∈ sieve.eliminated ∨ i = place ∧ ¬ RunsOn seen word := by
  simp only [judge]
  by_cases out : place ∈ sieve.eliminated
  · rw [if_pos out]
    refine ⟨.inl, fun h => h.elim id ?_⟩
    rintro ⟨rfl, -⟩
    exact out
  rw [if_neg out]
  by_cases ended : word = seen
  · simp [ended, RunsOn, or_comm]
  rw [if_neg ended]
  by_cases fits : seen <+: word
  · have stays : ¬ (byteSize word < byteSize seen ∨ ¬ seen <+: word) := by
      rintro (smaller | clash)
      · exact absurd (byteSize_le_of_starts fits) (Nat.not_le_of_lt smaller)
      · exact clash fits
    rw [if_neg stays]
    simp [RunsOn, fits, ended]
  · simp [fits, RunsOn, or_comm]

/-- The best word is replaced by one that has just been read to its end. -/
theorem best_judge (shorter : ∀ best ∈ sieve.best, best = seen ∨ RunsOn best seen)
    (inside : word = seen → place ∉ sieve.eliminated) :
    (sieve.judge seen (word, place)).best = if word = seen then some seen else sieve.best := by
  by_cases ended : word = seen
  · subst ended
    simp only [judge, inside rfl, if_false, if_true]
    -- the best so far is a prefix of what has been read, so it is shorter unless it is the same
    cases best : sieve.best with
    | none => rfl
    | some before =>
      rcases shorter before best with rfl | before'
      · simp
      · simp [byteSize_lt_of_runsOn before']
  · simp only [judge, ended, if_false]
    split
    · rfl
    · split <;> rfl

theorem turn_concat (words : List (List Char)) (word : List Char) :
    sieve.turn (words ++ [word]) seen = (sieve.turn words seen).judge seen (word, words.length) := by
  simp [turn, List.zipIdx_append]

theorem mem_turn_iff (i : Nat) : i ∈ (sieve.turn words seen).eliminated ↔
    i ∈ sieve.eliminated ∨ ∃ word, words[i]? = some word ∧ ¬ RunsOn seen word := by
  induction words using List.reverseRecOn with
  | nil => simp [turn]
  | append_singleton words word ih =>
    rw [turn_concat, mem_judge_iff, ih, or_assoc]
    refine or_congr_right ?_
    rcases Nat.lt_trichotomy i words.length with before | rfl | behind
    · simp [List.getElem?_append_left before, Nat.ne_of_lt before]
    · simp
    · have outside : (words ++ [word]).length ≤ i := by simpa using behind
      simp [List.getElem?_eq_none outside, List.getElem?_eq_none (Nat.le_of_lt behind),
        Nat.ne_of_gt behind]

/-- A turn finds the word that has just been read to its end, provided that it was not out. -/
theorem best_turn (shorter : ∀ best ∈ sieve.best, RunsOn best seen)
    (inside : ∀ i ∈ sieve.eliminated, words[i]? ≠ some seen) :
    (sieve.turn words seen).best = if seen ∈ words then some seen else sieve.best := by
  induction words using List.reverseRecOn with
  | nil => simp [turn]
  | append_singleton words word ih =>
    have inside' : ∀ i ∈ sieve.eliminated, words[i]? ≠ some seen := by
      intro i out there
      refine inside i out ?_
      rw [List.getElem?_append_left (List.getElem?_eq_some_iff.1 there).1, there]
    have before := ih inside'
    rw [turn_concat, best_judge, before]
    · by_cases ended : word = seen
      · simp [ended]
      · simp [ended, Ne.symm ended]
    · intro best found
      rw [before] at found
      split at found
      · exact .inl (Option.some.inj found).symm
      · exact .inr (shorter best found)
    · rintro rfl out
      rcases (mem_turn_iff _).1 out with out | ⟨other, there, -⟩
      · exact inside _ out (by simp)
      · simp at there

end Sieve

/-! ## The whole reading -/

/-- What holds once `seen` has been read: a word that is out does not go on, and the best word is the
longest so far. -/
structure Sifted (words : List (List Char)) (seen : List Char) (sieve : Sieve) : Prop where
  place : ∀ i ∈ sieve.eliminated, i < words.length
  out : ∀ i ∈ sieve.eliminated, ∀ word, words[i]? = some word → ¬ RunsOn seen word
  best : Longest words seen sieve.best

variable {words : List (List Char)} {seen : List Char} {sieve : Sieve}

theorem Sifted.turn (h : Sifted words seen sieve) (c : Char) :
    Sifted words (seen ++ [c]) (sieve.turn words (seen ++ [c])) where
  place i out := by
    rcases (Sieve.mem_turn_iff i).1 out with out | ⟨word, there, -⟩
    · exact h.place i out
    · exact (List.getElem?_eq_some_iff.1 there).1
  out i out word there := by
    rcases (Sieve.mem_turn_iff i).1 out with out | ⟨other, there', ended⟩
    · exact fun runs => h.out i out word there runs.of_concat
    · cases there.symm.trans there'
      exact ended
  best := by
    have shorter : ∀ best ∈ sieve.best, RunsOn best (seen ++ [c]) := by
      intro best found
      have longest := h.best
      rw [found] at longest
      exact runsOn_concat longest.2.2.1 c
    have inside : ∀ i ∈ sieve.eliminated, words[i]? ≠ some (seen ++ [c]) :=
      fun i out there => h.out i out _ there (runsOn_concat List.prefix_rfl c)
    rw [Sieve.best_turn shorter inside]
    split
    · next isWord => exact longest_of_mem isWord (by simp)
    · next unended => exact h.best.concat unended

/-- When every word is out, no longer text has a longer word. -/
theorem Sifted.inRunning (h : Sifted words seen sieve)
    (all : sieve.eliminated.card = words.length) : InRunning words seen [] where
  sound := by simp
  complete := by
    rintro word isWord left rfl nonempty
    obtain ⟨i, inside, there⟩ := List.getElem_of_mem isWord
    -- the places are below the number of words, so as many places as words are all of them
    have whole : sieve.eliminated = Finset.range words.length := by
      refine Finset.eq_of_subset_of_card_le (fun j out => ?_) (by simp [all])
      exact Finset.mem_range.2 (h.place j out)
    have out : i ∈ sieve.eliminated := by
      rw [whole]
      exact Finset.mem_range.2 inside
    have runs : RunsOn seen (seen ++ left) := ⟨List.prefix_append seen left, by simpa using nonempty⟩
    exact absurd runs (h.out i out _ (List.getElem?_eq_some_iff.2 ⟨inside, there⟩))

theorem Sifted.longest (h : Sifted words seen sieve) (cs : List Char) :
    Longest words (seen ++ cs.map Char.toLower) (sift words seen sieve cs) := by
  induction cs generalizing seen sieve with
  | nil => simpa [sift] using h.best
  | cons c rest ih =>
    have next := h.turn c.toLower
    rw [List.map_cons, ← List.singleton_append, ← List.append_assoc]
    simp only [sift]
    split
    · next all => exact longest_append (next.inRunning all) next.best _
    · exact ih next

/-- The sieve finds the longest word at the start of a text. -/
theorem longest_sift (words : List (List Char)) (cs : List Char) :
    Longest words (cs.map Char.toLower) (sift words [] {} cs) := by
  have start : Sifted words [] {} :=
    { place := by simp
      out := by simp
      best := fun word _ fits => List.prefix_nil.1 fits }
  exact start.longest cs

theorem sift_eq (words : List (List Char)) (cs : List Char) :
    sift words [] {} cs = longestMatch words cs :=
  (longest_sift words cs).unique (longest_longestMatch words cs)

/-! ## Words in lower case -/

/-- A text starts with a word, in any case of the ASCII letters of the two. -/
def FitsStart (word text : List Char) : Prop :=
  ∃ front, front <+: text ∧ front.map Char.toLower = word.map Char.toLower

/-- A word of ASCII characters without upper case. -/
structure IsLowerWord (word : List Char) : Prop where
  nonempty : word ≠ []
  ascii : ∀ c ∈ word, c.toNat < 128
  lower : ∀ c ∈ word, c.isUpper = false

theorem IsLowerWord.map_toLower {word : List Char} (h : IsLowerWord word) :
    word.map Char.toLower = word := by
  have same : ∀ c ∈ word, c.toLower = c := fun c inside =>
    Char.toLower_eq_of_not_isUpper (by simp [h.lower c inside])
  exact (List.map_congr_left same).trans (List.map_id _)

theorem IsLowerWord.fitsStart_iff {word : List Char} (h : IsLowerWord word) (cs : List Char) :
    FitsStart word cs ↔ word <+: cs.map Char.toLower := by
  constructor
  · rintro ⟨front, ⟨rest, rfl⟩, same⟩
    rw [h.map_toLower] at same
    exact ⟨rest.map Char.toLower, by rw [← same, List.map_append]⟩
  · intro fits
    refine ⟨cs.take word.length, List.take_prefix _ _, ?_⟩
    rw [h.map_toLower, List.map_take, ← List.prefix_iff_eq_take.1 fits]

theorem ascii_of_toLower {c : Char} (h : c.toLower.toNat < 128) : c.toNat < 128 := by
  by_cases upper : c.isUpper = true
  · simp only [Char.isUpper, decide_eq_true_eq] at upper
    exact Nat.lt_of_le_of_lt upper.2 (by decide)
  · rwa [Char.toLower_eq_of_not_isUpper upper] at h

/-- The longest word that fits is found. Of some words in lower case, a text that is read from any
place of it on:

* the sieve, which stops when every word is out, finds what is found by candidates;
* that is a word if and only if the word fits the start of the text, in any case of the letters, and
  no longer one does; nothing is found if and only if no word fits;
* the text of a word that is found is as long as the word, in characters and in bytes. -/
theorem longest_fitting_word_is_found {words : List (List Char)}
    (lower : ∀ word ∈ words, IsLowerWord word) (front back : String) :
    let found := longestMatch words back.toList
    sift words [] {} back.toList = found ∧
    (∀ word, found = some word ↔ word ∈ words ∧ FitsStart word back.toList ∧
      ∀ other ∈ words, FitsStart other back.toList → other.length ≤ word.length) ∧
    (found = none ↔ ∀ word ∈ words, ¬ FitsStart word back.toList) ∧
    ∀ word, found = some word → ∃ text rest, back.toList = text ++ rest ∧
      text.map Char.toLower = word ∧ text.length = word.length ∧
      byteSize text = word.length ∧ byteSize word = word.length ∧
      textBetween (front ++ back).toUTF8 front.utf8ByteSize (front.utf8ByteSize + word.length) =
        .ok (String.ofList text) := by
  intro found
  refine ⟨sift_eq words back.toList, fun word => ?_, ?_, fun word known => ?_⟩
  · rw [longestMatch_eq_some_iff]
    constructor
    · rintro ⟨isWord, nonempty, fits, longest⟩
      refine ⟨isWord, ((lower word isWord).fitsStart_iff _).2 fits, fun other isOther fits' => ?_⟩
      exact longest other isOther (((lower other isOther).fitsStart_iff _).1 fits')
    · rintro ⟨isWord, fits, longest⟩
      refine ⟨isWord, (lower word isWord).nonempty, ((lower word isWord).fitsStart_iff _).1 fits,
        fun other isOther fits' => ?_⟩
      exact longest other isOther (((lower other isOther).fitsStart_iff _).2 fits')
  · rw [longestMatch_eq_none_iff]
    refine forall₂_congr fun word isWord => ?_
    rw [(lower word isWord).fitsStart_iff, imp_iff_not (lower word isWord).nonempty]
  · obtain ⟨isWord, -, fits, -⟩ := longestMatch_eq_some_iff.1 known
    obtain ⟨text, ⟨rest, split⟩, same⟩ := ((lower word isWord).fitsStart_iff _).2 fits
    rw [(lower word isWord).map_toLower] at same
    have sizes : text.length = word.length := by rw [← same, List.length_map]
    have ascii : ∀ c ∈ text, c.toNat < 128 := fun c inside =>
      ascii_of_toLower ((lower word isWord).ascii _ (same ▸ List.mem_map_of_mem inside))
    have ahead : Ahead (front ++ back).toUTF8 front.utf8ByteSize (text ++ rest) :=
      split ▸ Ahead.ofText front back
    refine ⟨text, rest, split.symm, same, sizes, ?_, byteSize_of_ascii (lower word isWord).ascii, ?_⟩
    · rw [byteSize_of_ascii ascii, sizes]
    · rw [← sizes]
      exact ahead.textBetween_eq ascii

theorem isLowerWord_of_mem_keyword : ∀ word ∈ Keyword.spellings, IsLowerWord word := by
  have plain : ∀ word ∈ Keyword.spellings,
      word ≠ [] ∧ (∀ c ∈ word, c.toNat < 128) ∧ ∀ c ∈ word, c.isUpper = false := by
    simp [Keyword.spellings, Keyword.all, Keyword.spelling, Char.isUpper]
  intro word isWord
  obtain ⟨nonempty, ascii, lower⟩ := plain word isWord
  exact ⟨nonempty, ascii, lower⟩

/-- `INTO` wins over `INT`, and a character of two bytes on each side makes no difference. -/
theorem into_wins_over_int :
    (∀ word ∈ Keyword.spellings, IsLowerWord word) ∧
      sift Keyword.spellings [] {} "InTOé".toList = some "into".toList ∧
      ∃ text rest, "InTOé".toList = text ++ rest ∧ text.map Char.toLower = "into".toList ∧
        textBetween ("é" ++ "InTOé").toUTF8 2 6 = .ok (String.ofList text) := by
  have lower := isLowerWord_of_mem_keyword
  obtain ⟨sifted, -, -, text⟩ := longest_fitting_word_is_found lower "é" "InTOé"
  have found : longestMatch Keyword.spellings "InTOé".toList = some "into".toList := by decide
  obtain ⟨text, rest, split, same, -, -, -, bytes⟩ := text _ found
  have place : "é".utf8ByteSize = 2 := by decide
  have size : "into".toList.length = 4 := by decide
  rw [place, size] at bytes
  exact ⟨lower, sifted.trans found, text, rest, split, same, bytes⟩

end SqlShell.Token
