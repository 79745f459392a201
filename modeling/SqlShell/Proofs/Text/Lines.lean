import SqlShell.Text.Lines

/-!
# How a text falls into lines

A line ends at a line feed, which belongs to no line, and gives up one carriage return in front of
it. `CutInto` says so of the whole text, and `cutInto_textLines` and `CutInto.eq_textLines` that
`textLines` cuts in this way and in no other.
-/

namespace SqlShell.Text

/-- How a text falls into lines: at each line feed, with one carriage return in front of it. -/
inductive CutInto : List Char → List (List Char) → Prop
  | empty : CutInto [] []
  | unended {line : List Char} : line ≠ [] → '\n' ∉ line → CutInto line [line]
  | feed {line rest : List Char} {lines : List (List Char)} :
      '\n' ∉ line → line.getLast? ≠ some '\r' → CutInto rest lines →
        CutInto (line ++ '\n' :: rest) (line :: lines)
  | carriageFeed {line rest : List Char} {lines : List (List Char)} :
      '\n' ∉ line → CutInto rest lines → CutInto (line ++ '\r' :: '\n' :: rest) (line :: lines)

theorem CutInto.eq_nil {text : List Char} (cut : CutInto text []) : text = [] := by
  cases cut
  rfl

theorem CutInto.cons_feed {rest : List Char} {lines : List (List Char)} (cut : CutInto rest lines) :
    CutInto ('\n' :: rest) ([] :: lines) :=
  @CutInto.feed [] _ _ (by simp) (by simp) cut

/-- A character in front of the first line, unless it is dropped there. -/
theorem CutInto.cons {c : Char} {rest line : List Char} {lines : List (List Char)}
    (cut : CutInto rest (line :: lines)) (other : c ≠ '\n')
    (kept : ¬(c = '\r' ∧ rest.head? = some '\n')) :
    CutInto (c :: rest) ((c :: line) :: lines) := by
  cases cut with
  | unended nonempty free => exact .unended (by simp) (by simp [free, other.symm])
  | @feed rest _ _ free bare cut =>
    refine @CutInto.feed (c :: line) _ _ (by simp [free, other.symm]) ?_ cut
    cases line with
    | nil => exact fun last => kept ⟨by simpa using last, rfl⟩
    | cons d line => simpa using bare
  | carriageFeed free cut =>
    exact @CutInto.carriageFeed (c :: line) _ _ (by simp [free, other.symm]) cut

/-- A carriage return in front of a line feed is dropped. -/
theorem CutInto.carriage {rest line : List Char} {lines : List (List Char)}
    (cut : CutInto rest (line :: lines)) (fed : rest.head? = some '\n') :
    CutInto ('\r' :: rest) (line :: lines) := by
  -- With a line feed in front of the rest, its first line is empty.
  cases line with
  | nil =>
    cases cut with
    | unended nonempty => exact absurd rfl nonempty
    | feed free bare cut => exact @CutInto.carriageFeed [] _ _ free cut
    | carriageFeed free cut => simp at fed
  | cons d line =>
    have stopped : '\n' ∉ d :: line := by cases cut <;> assumption
    have isFeed : d = '\n' := by cases cut <;> simpa using fed
    exact absurd isFeed fun same => stopped (by simp [same])

theorem CutInto.mem {text line : List Char} {lines : List (List Char)} (cut : CutInto text lines)
    (inside : line ∈ lines) {c : Char} (h : c ∈ line) : c ∈ text := by
  induction cut with
  | empty => cases inside
  | unended => exact List.mem_singleton.1 inside ▸ h
  | feed _ _ _ ih | carriageFeed _ _ ih =>
    rcases List.mem_cons.1 inside with rfl | inside
    · simp [h]
    · simp [ih inside]

theorem cutInto_textLines (text : List Char) : CutInto text (textLines text) := by
  unfold textLines
  induction text with
  | nil => exact .empty
  | cons c rest ih =>
    rw [lines]
    by_cases isFeed : c = '\n'
    · rw [if_pos isFeed, isFeed]
      exact ih.cons_feed
    · rw [if_neg isFeed]
      cases cut : lines '\n' '\r' rest with
      | nil =>
        rw [cut] at ih
        rw [ih.eq_nil]
        exact .unended (by simp) (by simpa using Ne.symm isFeed)
      | cons line more =>
        rw [cut] at ih
        simp only
        by_cases dropped : c = '\r' ∧ rest.head? = some '\n'
        · rw [if_pos dropped, dropped.1]
          exact ih.carriage dropped.2
        · rw [if_neg dropped]
          exact ih.cons isFeed dropped

theorem textLines_cons_of_ne {c : Char} (other : c ≠ '\n') {rest line : List Char}
    {more : List (List Char)} (cut : textLines rest = line :: more) :
    textLines (c :: rest) =
      if c = '\r' ∧ rest.head? = some '\n' then line :: more else (c :: line) :: more := by
  rw [textLines] at cut ⊢
  rw [lines, if_neg other, cut]

theorem textLines_unended {line : List Char} (nonempty : line ≠ []) (free : '\n' ∉ line) :
    textLines line = [line] := by
  induction line with
  | nil => exact absurd rfl nonempty
  | cons c line ih =>
    obtain ⟨other, free⟩ := not_or.1 (mt List.mem_cons.2 free)
    cases line with
    | nil => simp [textLines, lines, Ne.symm other]
    | cons d line =>
      have next : d ≠ '\n' := fun same => free (by simp [same])
      rw [textLines_cons_of_ne (Ne.symm other) (ih (by simp) free), if_neg]
      exact fun dropped => next (by simpa using dropped.2)

/-- A line in front of a text that begins with an empty line. -/
theorem textLines_append {line rest : List Char} {more : List (List Char)} (free : '\n' ∉ line)
    (bare : line.getLast? = some '\r' → rest.head? ≠ some '\n')
    (cut : textLines rest = [] :: more) : textLines (line ++ rest) = line :: more := by
  induction line with
  | nil => exact cut
  | cons c line ih =>
    obtain ⟨other, free⟩ := not_or.1 (mt List.mem_cons.2 free)
    have bare' : line.getLast? = some '\r' → rest.head? ≠ some '\n' := fun last => by
      cases line with
      | nil => simp at last
      | cons d line => exact bare (by simpa using last)
    rw [List.cons_append, textLines_cons_of_ne (Ne.symm other) (ih free bare'), if_neg]
    intro dropped
    cases line with
    | nil => exact bare (by simp [dropped.1]) dropped.2
    | cons d line => exact free (by simpa using Or.inl (Eq.symm (by simpa using dropped.2)))

/-- There is one way to cut a text into lines. -/
theorem CutInto.eq_textLines {text : List Char} {lines : List (List Char)}
    (cut : CutInto text lines) : lines = textLines text := by
  induction cut with
  | empty => rfl
  | unended nonempty free => exact (textLines_unended nonempty free).symm
  | @feed line rest lines free bare cut ih =>
    have fed : textLines ('\n' :: rest) = [] :: lines := by rw [ih]; simp [textLines, Text.lines]
    exact (textLines_append free (fun last => absurd last bare) fed).symm
  | @carriageFeed line rest lines free cut ih =>
    have fed : textLines ('\n' :: rest) = [] :: lines := by rw [ih]; simp [textLines, Text.lines]
    have returned : textLines ('\r' :: '\n' :: rest) = [] :: lines := by
      rw [textLines_cons_of_ne (by decide) fed, if_pos ⟨rfl, rfl⟩]
    exact (textLines_append free (fun _ => by simp) returned).symm

/-- Without carriage returns, lines with their line feeds are the text again, but for a line feed
that may be missing at its end. -/
theorem CutInto.unlines {text : List Char} {lines : List (List Char)} (cut : CutInto text lines)
    (noReturn : '\r' ∉ text) :
    lines.flatMap (· ++ ['\n']) = text ∨ lines.flatMap (· ++ ['\n']) = text ++ ['\n'] := by
  induction cut with
  | empty => exact .inl rfl
  | unended => exact .inr (by simp)
  | feed free bare cut ih =>
    rcases ih fun inside => noReturn (by simp [inside]) with whole | whole
    · exact .inl (by simp [whole])
    · exact .inr (by simp [whole])
  | carriageFeed => exact absurd (by simp) noReturn

end SqlShell.Text
