/-!
# Numerals

Digits with at most one period and at most one exponent: a numeral starts with a digit or a period,
the exponent marker is a small `e`, and a sign may follow the marker. `.`, `5.` and `1e` are
numerals, but a marker that ends the whole text is not. Where a numeral is followed by a second
period or a second marker, there is no numeral at all, rather than a shorter one.

Reading goes through four phases (`NumeralPhase`); `NumeralPhase.judge` says what a character does
to a numeral in each of them.
-/

namespace SqlShell.Token

/-- How much of a numeral has been read: digits alone; also the period; the exponent marker just
now; something behind the marker. -/
inductive NumeralPhase where
  | whole
  | fraction
  | marker
  | exponent
  deriving Repr, DecidableEq

/-- What the next character does: it belongs to the numeral, it ends the numeral, or it shows that
there was none. -/
inductive NumeralVerdict where
  | belongs (phase : NumeralPhase)
  | ends
  | clashes
  deriving Repr, DecidableEq

/-- The verdict on a character after the first. -/
def NumeralPhase.judge (phase : NumeralPhase) (c : Char) : NumeralVerdict :=
  if c = '.' then
    if phase = .whole then .belongs .fraction else .clashes
  else if c = 'e' then
    if phase = .whole ∨ phase = .fraction then .belongs .marker else .clashes
  else if c.isDigit then
    .belongs (if phase = .marker then .exponent else phase)
  else if (c = '-' ∨ c = '+') ∧ phase = .marker then
    .belongs .exponent
  else
    .ends

/-- Read on inside a numeral: the characters that belong to it, and the rest. -/
def readNumeralTail (phase : NumeralPhase) : List Char → Option (List Char × List Char)
  | [] => if phase = .marker then none else some ([], [])
  | c :: rest =>
    match phase.judge c with
    | .belongs phase => (readNumeralTail phase rest).map fun (text, rest) => (c :: text, rest)
    | .ends => some ([], c :: rest)
    | .clashes => none

/-- Read a numeral from the start of a text. -/
def readNumeral : List Char → Option (List Char × List Char)
  | [] => none
  | c :: rest =>
    if c = '.' then
      (readNumeralTail .fraction rest).map fun (text, rest) => (c :: text, rest)
    else if c.isDigit then
      (readNumeralTail .whole rest).map fun (text, rest) => (c :: text, rest)
    else
      none

/-! ## What is read -/

theorem append_of_readNumeralTail {phase : NumeralPhase} {cs text rest : List Char}
    (h : readNumeralTail phase cs = some (text, rest)) : text ++ rest = cs := by
  fun_induction readNumeralTail phase cs generalizing text rest with
  | case1 => cases h
  | case2 => cases h; rfl
  | case3 _ _ _ _ _ ih =>
    simp only [Option.map_eq_some_iff, Prod.exists, Prod.mk.injEq] at h
    obtain ⟨t, r, ht, rfl, rfl⟩ := h
    simp [ih ht]
  | case4 => cases h; rfl
  | case5 => cases h

/-- What is read is the start of the text. -/
theorem append_of_readNumeral {cs text rest : List Char}
    (h : readNumeral cs = some (text, rest)) : text ++ rest = cs ∧ text ≠ [] := by
  have tail {phase : NumeralPhase} {c : Char} {cs : List Char}
      (h : (readNumeralTail phase cs).map (fun (t, r) => (c :: t, r)) = some (text, rest)) :
      text ++ rest = c :: cs ∧ text ≠ [] := by
    simp only [Option.map_eq_some_iff, Prod.exists, Prod.mk.injEq] at h
    obtain ⟨t, r, ht, rfl, rfl⟩ := h
    simp [append_of_readNumeralTail ht]
  cases cs with
  | nil => cases h
  | cons c cs =>
    simp only [readNumeral] at h
    split at h
    · exact tail h
    · split at h
      · exact tail h
      · cases h

end SqlShell.Token
