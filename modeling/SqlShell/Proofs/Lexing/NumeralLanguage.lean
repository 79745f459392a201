import SqlShell.Token.Numeral
import Mathlib.Data.List.Basic

/-!
# The language of numerals

A numeral is digits with at most one period among them, and perhaps an exponent behind them:

    numeral  := mantissa [exponent]
    mantissa := D+ | D* '.' D*
    exponent := 'e' ['+' | '-'] D*

`readNumeral` goes through four phases instead. `Continues` is what it may read from a phase on, one
character at a time, and `isNumeral_iff` says that from the first phases this is the language.
-/

namespace SqlShell.Token

/-! ## The grammar -/

/-- Digits alone, perhaps none. -/
def AreDigits (cs : List Char) : Prop :=
  ∀ c ∈ cs, c.isDigit = true

/-- `D+ | D* '.' D*` -/
inductive IsMantissa : List Char → Prop where
  | whole {digits : List Char} (digit : AreDigits digits) (nonempty : digits ≠ []) :
      IsMantissa digits
  | fraction {front back : List Char} (digit : AreDigits front) (digit' : AreDigits back) :
      IsMantissa (front ++ '.' :: back)

/-- `'e' ['+' | '-'] D*` -/
inductive IsExponent : List Char → Prop where
  | unsigned {digits : List Char} (digit : AreDigits digits) : IsExponent ('e' :: digits)
  | signed {sign : Char} {digits : List Char} (isSign : sign = '+' ∨ sign = '-')
      (digit : AreDigits digits) : IsExponent ('e' :: sign :: digits)

/-- `mantissa [exponent]` -/
inductive IsNumeral : List Char → Prop where
  | plain {mantissa : List Char} (h : IsMantissa mantissa) : IsNumeral mantissa
  | scaled {mantissa exponent : List Char} (h : IsMantissa mantissa) (h' : IsExponent exponent) :
      IsNumeral (mantissa ++ exponent)

/-! ## The phases -/

/-- Characters that belong to a numeral one after the other, from a phase on. -/
inductive Continues : NumeralPhase → List Char → Prop where
  | nil (phase : NumeralPhase) : Continues phase []
  | cons {phase next : NumeralPhase} {c : Char} {cs : List Char}
      (belongs : phase.judge c = .belongs next) (more : Continues next cs) :
      Continues phase (c :: cs)

theorem areDigits_cons {c : Char} {cs : List Char} :
    AreDigits (c :: cs) ↔ c.isDigit = true ∧ AreDigits cs := by
  simp [AreDigits]

theorem judge_digit (phase : NumeralPhase) {c : Char} (h : c.isDigit = true) :
    phase.judge c = .belongs (if phase = .marker then .exponent else phase) := by
  have period : c ≠ '.' := by rintro rfl; cases h
  have marker : c ≠ 'e' := by rintro rfl; cases h
  simp only [NumeralPhase.judge, period, marker, h, if_false, if_true]

theorem judge_eq_belongs {phase next : NumeralPhase} {c : Char}
    (h : phase.judge c = .belongs next) :
    (c = '.' ∧ phase = .whole ∧ next = .fraction) ∨
      (c = 'e' ∧ (phase = .whole ∨ phase = .fraction) ∧ next = .marker) ∨
      (c.isDigit = true ∧ next = if phase = .marker then .exponent else phase) ∨
      ((c = '+' ∨ c = '-') ∧ phase = .marker ∧ next = .exponent) := by
  simp only [NumeralPhase.judge] at h
  split at h
  · next period =>
    split at h
    · next whole => cases h; exact .inl ⟨period, whole, rfl⟩
    · cases h
  · split at h
    · next marker =>
      split at h
      · next early => cases h; exact .inr (.inl ⟨marker, early, rfl⟩)
      · cases h
    · split at h
      · next digit => cases h; exact .inr (.inr (.inl ⟨digit, rfl⟩))
      · split at h
        · next sign => cases h; exact .inr (.inr (.inr ⟨sign.1.symm, sign.2, rfl⟩))
        · cases h

theorem continues_of_areDigits {phase : NumeralPhase} {cs : List Char} (h : AreDigits cs) :
    Continues phase cs := by
  induction cs generalizing phase with
  | nil => exact .nil phase
  | cons c cs ih =>
    obtain ⟨digit, digits⟩ := areDigits_cons.1 h
    exact .cons (judge_digit phase digit) (ih digits)

/-- Digits may stand in front of what goes on, except behind the marker. -/
theorem Continues.digits {phase : NumeralPhase} {front cs : List Char} (h : AreDigits front)
    (other : phase ≠ .marker) (more : Continues phase cs) : Continues phase (front ++ cs) := by
  induction front with
  | nil => exact more
  | cons c front ih =>
    obtain ⟨digit, digits⟩ := areDigits_cons.1 h
    have step := judge_digit phase digit
    rw [if_neg other] at step
    exact .cons step (ih digits)

theorem areDigits_of_continues {cs : List Char} (h : Continues .exponent cs) : AreDigits cs := by
  -- no phase leads back: behind an exponent there is no period, no marker and no sign
  induction cs with
  | nil => simp [AreDigits]
  | cons c cs ih =>
    cases h with
    | cons belongs more =>
      rcases judge_eq_belongs belongs with ⟨-, phase, -⟩ | ⟨-, phase | phase, -⟩ | ⟨digit, rfl⟩ |
        ⟨-, phase, -⟩
      · cases phase
      · cases phase
      · cases phase
      · exact areDigits_cons.2 ⟨digit, ih more⟩
      · cases phase

theorem continues_marker_iff {cs : List Char} :
    Continues .marker cs ↔ IsExponent ('e' :: cs) := by
  constructor
  · intro h
    cases h with
    | nil => exact .unsigned (by simp [AreDigits])
    | cons belongs more =>
      rcases judge_eq_belongs belongs with ⟨-, phase, -⟩ | ⟨-, phase | phase, -⟩ | ⟨digit, rfl⟩ |
        ⟨sign, -, rfl⟩
      · cases phase
      · cases phase
      · cases phase
      · exact .unsigned (areDigits_cons.2 ⟨digit, areDigits_of_continues more⟩)
      · exact .signed sign (areDigits_of_continues more)
  · intro h
    cases h with
    | unsigned digits => exact continues_of_areDigits digits
    | @signed sign digits isSign digit =>
      have belongs : NumeralPhase.marker.judge sign = .belongs .exponent := by
        rcases isSign with rfl | rfl <;> rfl
      exact .cons belongs (continues_of_areDigits digit)

theorem continues_exponent {phase : NumeralPhase} (early : phase = .whole ∨ phase = .fraction)
    {exponent : List Char} (h : IsExponent exponent) : Continues phase exponent := by
  have belongs : phase.judge 'e' = .belongs .marker := by
    rcases early with rfl | rfl <;> rfl
  cases h with
  | unsigned digits => exact .cons belongs (continues_marker_iff.2 (.unsigned digits))
  | signed sign digits => exact .cons belongs (continues_marker_iff.2 (.signed sign digits))

/-- Behind the period stand digits, and perhaps an exponent. -/
theorem continues_fraction_iff {cs : List Char} : Continues .fraction cs ↔
    ∃ digits exponent, AreDigits digits ∧ (exponent = [] ∨ IsExponent exponent) ∧
      cs = digits ++ exponent := by
  constructor
  · intro h
    induction cs with
    | nil => exact ⟨[], [], by simp [AreDigits], .inl rfl, rfl⟩
    | cons c cs ih =>
      cases h with
      | cons belongs more =>
        rcases judge_eq_belongs belongs with ⟨-, phase, -⟩ | ⟨rfl, -, rfl⟩ | ⟨digit, rfl⟩ |
          ⟨-, phase, -⟩
        · cases phase
        · exact ⟨[], _, by simp [AreDigits], .inr (continues_marker_iff.1 more), rfl⟩
        · obtain ⟨digits, exponent, digit', shape, rfl⟩ := ih more
          exact ⟨c :: digits, exponent, areDigits_cons.2 ⟨digit, digit'⟩, shape, rfl⟩
        · cases phase
  · rintro ⟨digits, exponent, digit, rfl | shape, rfl⟩
    · exact .digits digit (by simp) (.nil _)
    · exact .digits digit (by simp) (continues_exponent (.inr rfl) shape)

/-- Behind a digit stand further digits, and perhaps a period and what may follow it, or an
exponent. -/
theorem continues_whole_iff {cs : List Char} : Continues .whole cs ↔
    ∃ digits more, AreDigits digits ∧ cs = digits ++ more ∧
      (more = [] ∨ IsExponent more ∨ ∃ back, Continues .fraction back ∧ more = '.' :: back) := by
  constructor
  · intro h
    induction cs with
    | nil => exact ⟨[], [], by simp [AreDigits], rfl, .inl rfl⟩
    | cons c cs ih =>
      cases h with
      | cons belongs more =>
        rcases judge_eq_belongs belongs with ⟨rfl, -, rfl⟩ | ⟨rfl, -, rfl⟩ | ⟨digit, rfl⟩ |
          ⟨-, phase, -⟩
        · exact ⟨[], _, by simp [AreDigits], rfl, .inr (.inr ⟨cs, more, rfl⟩)⟩
        · exact ⟨[], _, by simp [AreDigits], rfl, .inr (.inl (continues_marker_iff.1 more))⟩
        · obtain ⟨digits, rest, digit', rfl, shape⟩ := ih more
          exact ⟨c :: digits, rest, areDigits_cons.2 ⟨digit, digit'⟩, rfl, shape⟩
        · cases phase
  · rintro ⟨digits, more, digit, rfl, rfl | shape | ⟨back, continues, rfl⟩⟩
    · exact .digits digit (by simp) (.nil _)
    · exact .digits digit (by simp) (continues_exponent (.inl rfl) shape)
    · have belongs : NumeralPhase.whole.judge '.' = .belongs .fraction := rfl
      exact .digits digit (by simp) (.cons belongs continues)

/-- The first character of a numeral decides the first phase. -/
theorem isNumeral_iff {cs : List Char} : IsNumeral cs ↔
    ∃ c rest, cs = c :: rest ∧ ((c = '.' ∧ Continues .fraction rest) ∨
      (c.isDigit = true ∧ Continues .whole rest)) := by
  constructor
  · -- a numeral without an exponent is treated as one with an empty exponent
    have start {mantissa exponent : List Char} (h : IsMantissa mantissa)
        (h' : exponent = [] ∨ IsExponent exponent) :
        ∃ c rest, mantissa ++ exponent = c :: rest ∧ ((c = '.' ∧ Continues .fraction rest) ∨
          (c.isDigit = true ∧ Continues .whole rest)) := by
      cases h with
      | whole digit nonempty =>
        obtain ⟨c, digits, rfl⟩ := List.exists_cons_of_ne_nil nonempty
        obtain ⟨first, digit⟩ := areDigits_cons.1 digit
        exact ⟨c, _, rfl, .inr ⟨first,
          continues_whole_iff.2 ⟨digits, exponent, digit, rfl, h'.imp_right .inl⟩⟩⟩
      | @fraction front back digit digit' =>
        have behind : Continues .fraction (back ++ exponent) :=
          continues_fraction_iff.2 ⟨back, exponent, digit', h', rfl⟩
        cases front with
        | nil => exact ⟨'.', _, rfl, .inl ⟨rfl, behind⟩⟩
        | cons c front =>
          obtain ⟨first, digit⟩ := areDigits_cons.1 digit
          refine ⟨c, _, rfl, .inr ⟨first, continues_whole_iff.2 ⟨front, _, digit, ?_,
            .inr (.inr ⟨back ++ exponent, behind, rfl⟩)⟩⟩⟩
          simp
    intro h
    cases h with
    | plain h => simpa using start h (.inl rfl)
    | scaled h h' => exact start h (.inr h')
  · have finish {mantissa exponent : List Char} (h : IsMantissa mantissa)
        (h' : exponent = [] ∨ IsExponent exponent) : IsNumeral (mantissa ++ exponent) := by
      rcases h' with rfl | h'
      · simpa using IsNumeral.plain h
      · exact .scaled h h'
    rintro ⟨c, rest, rfl, ⟨rfl, h⟩ | ⟨first, h⟩⟩
    · obtain ⟨back, exponent, digit, shape, rfl⟩ := continues_fraction_iff.1 h
      have mantissa : IsMantissa ([] ++ '.' :: back) := .fraction (by simp [AreDigits]) digit
      exact finish mantissa shape
    · obtain ⟨digits, more, digit, rfl, shape⟩ := continues_whole_iff.1 h
      have digit' : AreDigits (c :: digits) := areDigits_cons.2 ⟨first, digit⟩
      rcases shape with rfl | shape | ⟨back, behind, rfl⟩
      · exact finish (.whole digit' (by simp)) (.inl rfl)
      · exact finish (.whole digit' (by simp)) (.inr shape)
      · obtain ⟨back, exponent, digit'', shape, rfl⟩ := continues_fraction_iff.1 behind
        have whole := finish (.fraction digit' digit'') shape
        simpa using whole

end SqlShell.Token
