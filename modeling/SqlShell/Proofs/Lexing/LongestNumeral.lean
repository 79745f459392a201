import SqlShell.Proofs.Lexing.NumeralLanguage

/-!
# The longest numeral

`readNumeral` is greedy, and refuses more than the language of numerals does: it reads the longest
numeral at the start of a text, and nothing at all if a period or an exponent marker follows that
one, or if its marker is the last character of the text.

`LongestStart` says so for any language. A language is read character by character, and
`longestStart_cons` is the step; what the phases read is `readNumeralTail_eq_some_iff`, and
`readNumeral_eq_some_iff` is what a numeral is.

A proof about what follows a numeral need not look at longer words: of all that follows, only the
first character matters (`longestStart_iff`).
-/

namespace SqlShell.Token

variable {Member Later : List Char → Prop} {phase next : NumeralPhase} {c : Char}
  {cs text rest : List Char}

/-- Of the words of a language, `text` is the longest at the start of `text ++ rest`; no period or
exponent marker follows it, and it has no marker that ends the whole. -/
structure LongestStart (Member : List Char → Prop) (text rest : List Char) : Prop where
  member : Member text
  longest : ∀ other, Member other → other <+: text ++ rest → other.length ≤ text.length
  boundary : ∀ c ∈ rest.head?, c ≠ '.' ∧ c ≠ 'e'
  marker : ∀ front back, text = front ++ 'e' :: back → back ++ rest ≠ []

theorem longestStart_nil : LongestStart Member [] rest ↔
    Member [] ∧ (∀ other, Member other → other <+: rest → other = []) ∧
      ∀ c ∈ rest.head?, c ≠ '.' ∧ c ≠ 'e' := by
  constructor
  · rintro ⟨member, longest, boundary, -⟩
    exact ⟨member, fun other h start => List.length_eq_zero_iff.1 (Nat.le_zero.1
      (longest other h start)), boundary⟩
  · rintro ⟨member, longest, boundary⟩
    refine ⟨member, fun other h start => ?_, boundary, fun front back empty => ?_⟩
    · exact Nat.le_of_eq (congrArg List.length (longest other h start))
    · simp at empty

theorem longestStart_cons (later : ∀ cs, Member (c :: cs) ↔ Later cs) :
    LongestStart Member (c :: text) rest ↔
      LongestStart Later text rest ∧ (c = 'e' → text ++ rest ≠ []) := by
  constructor
  · rintro ⟨member, longest, boundary, marker⟩
    refine ⟨⟨(later _).1 member, fun other h start => ?_, boundary, fun front back split => ?_⟩,
      fun first => marker [] text (by rw [first, List.nil_append])⟩
    · have start' : c :: other <+: c :: text ++ rest := List.cons_prefix_cons.2 ⟨rfl, start⟩
      exact Nat.le_of_succ_le_succ (longest _ ((later _).2 h) start')
    · exact marker (c :: front) back (by rw [split, List.cons_append])
  · rintro ⟨⟨member, longest, boundary, marker⟩, first⟩
    refine ⟨(later _).2 member, fun other h start => ?_, boundary, fun front back split => ?_⟩
    · cases other with
      | nil => exact Nat.zero_le _
      | cons d other =>
        obtain ⟨rfl, shorter⟩ := List.cons_prefix_cons.1 start
        exact Nat.succ_le_succ (longest other ((later _).1 h) shorter)
    · cases front with
      | nil =>
        obtain ⟨marker, rfl⟩ := List.cons.inj split
        exact first marker
      | cons d front => exact marker front back (List.cons.inj split).2

/-! ## The phases -/

theorem continues_cons_iff (belongs : phase.judge c = .belongs next) (cs : List Char) :
    Continues phase (c :: cs) ↔ Continues next cs := by
  constructor
  · intro h
    cases h with
    | cons belongs' more =>
      cases belongs.symm.trans belongs'
      exact more
  · exact .cons belongs

theorem not_continues_cons (other : ∀ next, phase.judge c ≠ .belongs next) :
    ¬ Continues phase (c :: cs) := by
  intro h
  cases h with
  | cons belongs => exact other _ belongs

theorem ne_of_judge_ends (ends : phase.judge c = .ends) : c ≠ '.' ∧ c ≠ 'e' := by
  constructor
  all_goals
    rintro rfl
    cases phase <;> cases ends

theorem eq_of_judge_clashes (clashes : phase.judge c = .clashes) : c = '.' ∨ c = 'e' := by
  by_contra neither
  obtain ⟨period, marker⟩ := not_or.1 neither
  simp only [NumeralPhase.judge, period, marker, if_false] at clashes
  split at clashes
  · cases clashes
  · split at clashes <;> cases clashes

theorem marker_of_belongs (belongs : phase.judge c = .belongs next) :
    next = .marker ↔ c = 'e' := by
  constructor
  · rintro rfl
    rcases judge_eq_belongs belongs with ⟨-, -, next⟩ | ⟨marker, -, -⟩ | ⟨-, next⟩ | ⟨-, -, next⟩
    · cases next
    · exact marker
    · split at next
      · cases next
      · next other => exact absurd next.symm other
    · cases next
  · rintro rfl
    cases phase <;> cases belongs <;> rfl

/-- Nothing is read in front of a character that does not belong. -/
theorem LongestStart.eq_nil (other : ∀ next, phase.judge c ≠ .belongs next)
    (h : LongestStart (Continues phase) text rest) (split : c :: cs = text ++ rest) :
    text = [] ∧ rest = c :: cs := by
  cases text with
  | nil => exact ⟨rfl, split.symm⟩
  | cons d more =>
    obtain ⟨rfl, -⟩ := List.cons.inj split
    exact absurd h.member (not_continues_cons other)

/-- Behind the marker there must be something, if only to show that the numeral ends there. -/
theorem readNumeralTail_eq_some_iff : readNumeralTail phase cs = some (text, rest) ↔
    cs = text ++ rest ∧ LongestStart (Continues phase) text rest ∧
      (phase = .marker → cs ≠ []) := by
  -- every character may change the phase, so the phases are dealt with together
  induction cs generalizing phase text with
  | nil =>
    have start : LongestStart (Continues phase) [] [] :=
      longestStart_nil.2 ⟨.nil phase, fun _ _ => List.prefix_nil.1, by simp⟩
    constructor
    · intro read
      simp only [readNumeralTail] at read
      split at read
      · cases read
      · next other =>
        cases read
        exact ⟨rfl, start, fun marker => absurd marker other⟩
    · rintro ⟨split, -, other⟩
      obtain ⟨rfl, rfl⟩ := List.append_eq_nil_iff.1 split.symm
      rw [readNumeralTail, if_neg fun marker => other marker rfl]
  | cons c cs ih =>
    cases judged : phase.judge c with
    | belongs next =>
      simp only [readNumeralTail, judged, Option.map_eq_some_iff, Prod.exists, Prod.mk.injEq]
      constructor
      · rintro ⟨more, _, read, rfl, rfl⟩
        obtain ⟨rfl, start, behind⟩ := ih.1 read
        refine ⟨rfl, (longestStart_cons (continues_cons_iff judged)).2 ⟨start, fun marker => ?_⟩,
          fun _ => List.cons_ne_nil _ _⟩
        exact behind ((marker_of_belongs judged).2 marker)
      · rintro ⟨split, start, -⟩
        cases text with
        | nil =>
          -- a character that belongs makes a longer word
          obtain rfl : rest = c :: cs := split.symm
          have longer := (longestStart_nil.1 start).2.1 [c] (.cons judged (.nil next))
            (List.cons_prefix_cons.2 ⟨rfl, List.nil_prefix⟩)
          cases longer
        | cons d more =>
          obtain ⟨rfl, rfl⟩ := List.cons.inj split
          obtain ⟨start, behind⟩ := (longestStart_cons (continues_cons_iff judged)).1 start
          exact ⟨more, rest, ih.2 ⟨rfl, start, fun marker =>
            behind ((marker_of_belongs judged).1 marker)⟩, rfl, rfl⟩
    | ends =>
      have other (next : NumeralPhase) : phase.judge c ≠ .belongs next := by simp [judged]
      simp only [readNumeralTail, judged, Option.some.injEq, Prod.mk.injEq]
      constructor
      · rintro ⟨rfl, rfl⟩
        refine ⟨rfl, longestStart_nil.2 ⟨.nil phase, fun word h start => ?_, ?_⟩, fun _ =>
          List.cons_ne_nil c cs⟩
        · cases word with
          | nil => rfl
          | cons d word =>
            obtain ⟨rfl, -⟩ := List.cons_prefix_cons.1 start
            exact absurd h (not_continues_cons other)
        · simpa using ne_of_judge_ends judged
      · rintro ⟨split, start, -⟩
        obtain ⟨rfl, rfl⟩ := start.eq_nil other split
        exact ⟨rfl, rfl⟩
    | clashes =>
      simp only [readNumeralTail, judged]
      constructor
      · intro read
        cases read
      · rintro ⟨split, start, -⟩
        obtain ⟨rfl, rfl⟩ := start.eq_nil (by simp [judged]) split
        obtain ⟨period, marker⟩ := start.boundary c rfl
        exact absurd (eq_of_judge_clashes judged) (not_or.2 ⟨period, marker⟩)

/-! ## Whole numerals -/

theorem isNumeral_period_cons (cs : List Char) :
    IsNumeral ('.' :: cs) ↔ Continues .fraction cs := by
  rw [isNumeral_iff]
  constructor
  · rintro ⟨c, rest, split, ⟨-, h⟩ | ⟨digit, -⟩⟩
    · obtain ⟨-, rfl⟩ := List.cons.inj split
      exact h
    · obtain ⟨rfl, -⟩ := List.cons.inj split
      cases digit
  · exact fun h => ⟨'.', cs, rfl, .inl ⟨rfl, h⟩⟩

theorem isNumeral_digit_cons (digit : c.isDigit = true) (cs : List Char) :
    IsNumeral (c :: cs) ↔ Continues .whole cs := by
  rw [isNumeral_iff]
  constructor
  · rintro ⟨d, rest, split, ⟨rfl, -⟩ | ⟨-, h⟩⟩
    · obtain ⟨rfl, -⟩ := List.cons.inj split
      cases digit
    · obtain ⟨-, rfl⟩ := List.cons.inj split
      exact h
  · exact fun h => ⟨c, cs, rfl, .inr ⟨digit, h⟩⟩

/-- The reader of numerals takes the longest one, or nothing. -/
theorem readNumeral_eq_some_iff : readNumeral cs = some (text, rest) ↔
    cs = text ++ rest ∧ LongestStart IsNumeral text rest := by
  -- the first character is no marker, and decides the phase of the others
  have first {c : Char} {cs text : List Char} {phase : NumeralPhase} (other : c ≠ 'e')
      (early : phase ≠ .marker) (later : ∀ cs, IsNumeral (c :: cs) ↔ Continues phase cs) :
      (∃ more rest', readNumeralTail phase cs = some (more, rest') ∧ c :: more = text ∧
          rest' = rest) ↔
        c :: cs = text ++ rest ∧ LongestStart IsNumeral text rest := by
    constructor
    · rintro ⟨more, _, read, rfl, rfl⟩
      obtain ⟨rfl, start, -⟩ := readNumeralTail_eq_some_iff.1 read
      exact ⟨rfl, (longestStart_cons later).2 ⟨start, fun marker => absurd marker other⟩⟩
    · rintro ⟨split, start⟩
      obtain ⟨d, more, rfl, -⟩ := isNumeral_iff.1 start.member
      obtain ⟨rfl, rfl⟩ := List.cons.inj split
      exact ⟨more, rest, readNumeralTail_eq_some_iff.2
        ⟨rfl, ((longestStart_cons later).1 start).1, fun marker => absurd marker early⟩, rfl, rfl⟩
  cases cs with
  | nil =>
    simp only [readNumeral]
    constructor
    · intro read
      cases read
    · rintro ⟨split, start⟩
      obtain ⟨c, more, rfl, -⟩ := isNumeral_iff.1 start.member
      cases split
  | cons c cs =>
    simp only [readNumeral]
    split
    · next period =>
      subst period
      simpa only [Option.map_eq_some_iff, Prod.exists, Prod.mk.injEq] using
        first (by decide) (by decide) isNumeral_period_cons
    · next period =>
      split
      · next digit =>
        have other : c ≠ 'e' := by
          rintro rfl
          cases digit
        simpa only [Option.map_eq_some_iff, Prod.exists, Prod.mk.injEq] using
          first other (by decide) (isNumeral_digit_cons digit)
      · next digit =>
        constructor
        · intro read
          cases read
        · rintro ⟨split, start⟩
          obtain ⟨d, more, rfl, ⟨first, -⟩ | ⟨first, -⟩⟩ := isNumeral_iff.1 start.member
          · exact absurd ((List.cons.inj split).1.trans first) period
          · exact absurd ((List.cons.inj split).1 ▸ first) digit

-- `1.5` is a numeral, but the second period does not let it end there
example : readNumeral "1.5.2".toList = none := by decide

/-! ## The next character -/

theorem Continues.of_append {front back : List Char} (h : Continues phase (front ++ back)) :
    Continues phase front := by
  induction front generalizing phase with
  | nil => exact .nil phase
  | cons c front ih =>
    cases h with
    | cons belongs more => exact .cons belongs (ih more)

theorem Continues.belongs (h : Continues phase cs) :
    ∀ c ∈ cs, ∃ phase next, NumeralPhase.judge phase c = .belongs next := by
  induction h with
  | nil => simp
  | cons belongs _ ih => exact List.forall_mem_cons.2 ⟨⟨_, _, belongs⟩, ih⟩

theorem IsNumeral.of_append {front back : List Char} (h : IsNumeral (front ++ back))
    (nonempty : front ≠ []) : IsNumeral front := by
  obtain ⟨c, front, rfl⟩ := List.exists_cons_of_ne_nil nonempty
  obtain ⟨_, _, split, first⟩ := isNumeral_iff.1 h
  obtain ⟨rfl, rfl⟩ := List.cons.inj split
  exact isNumeral_iff.2 ⟨c, front, rfl,
    first.imp (.imp_right Continues.of_append) (.imp_right Continues.of_append)⟩

/-- In front of a character only that character matters, and nothing behind it. -/
theorem longestStart_iff : LongestStart IsNumeral text (c :: rest) ↔
    IsNumeral text ∧ ¬ IsNumeral (text ++ [c]) ∧ c ≠ '.' ∧ c ≠ 'e' := by
  constructor
  · rintro ⟨numeral, longest, boundary, -⟩
    refine ⟨numeral, fun longer => ?_, boundary c rfl⟩
    have short := longest _ longer ⟨rest, by simp⟩
    rw [List.length_append, List.length_singleton] at short
    exact Nat.not_succ_le_self _ short
  · rintro ⟨numeral, stuck, boundary⟩
    refine ⟨numeral, fun other h start => ?_, by simpa using boundary, fun _ _ _ => by simp⟩
    by_contra longer
    -- a longer numeral would go on with the character
    have fits : (text ++ [c]).length ≤ other.length := by
      rw [List.length_append, List.length_singleton]
      omega
    have goesOn : text ++ [c] <+: other :=
      List.prefix_of_prefix_length_le ⟨rest, by simp⟩ start fits
    obtain ⟨back, rfl⟩ := goesOn
    exact stuck (h.of_append (by simp))

/-- A character that belongs to no numeral and clashes with none. -/
def EndsNumeral (c : Char) : Prop :=
  ∀ phase : NumeralPhase, phase.judge c = .ends

theorem longestStart_of_ends (numeral : IsNumeral text) (ends : EndsNumeral c) (rest : List Char) :
    LongestStart IsNumeral text (c :: rest) := by
  refine longestStart_iff.2 ⟨numeral, fun longer => ?_, ne_of_judge_ends (ends .whole)⟩
  obtain ⟨d, more, rfl, -⟩ := isNumeral_iff.1 numeral
  obtain ⟨_, _, split, first⟩ := isNumeral_iff.1 longer
  obtain ⟨rfl, rfl⟩ := List.cons.inj split
  have belongs : ∃ phase next, NumeralPhase.judge phase c = .belongs next := by
    rcases first with ⟨-, continues⟩ | ⟨-, continues⟩
    all_goals exact continues.belongs c (by simp)
  obtain ⟨phase, next, belongs⟩ := belongs
  cases (ends phase).symm.trans belongs

end SqlShell.Token
