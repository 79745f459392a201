import SqlShell.Text.Style
import Mathlib.Tactic.Common

/-!
# Styles can be taken out of a text

A styled text is the plain one with escape sequences in it (`Styled`), whatever is styled in it and
however often: a style that is opened again behind an inner reset only adds a sequence. Taking the
sequences out gives the plain text back (`Styled.unstyled_eq`), unless it has an escape character of
its own.
-/

namespace SqlShell.Text

/-! ## Taking styles out -/

/-- The text without its styles, from the middle of a sequence on or not: each sequence from an escape
character and a bracket to the next `m` is left out. -/
def unstyledFrom : Bool → List Char → List Char
  | false, '\x1b' :: '[' :: rest =>
    if 'm' ∈ rest then unstyledFrom true rest else '\x1b' :: '[' :: unstyledFrom false rest
  | false, c :: rest => c :: unstyledFrom false rest
  | true, c :: rest => unstyledFrom (c ≠ 'm') rest
  | _, [] => []

/-- The text without its styles. -/
def unstyled (text : String) : String :=
  String.ofList (unstyledFrom false text.toList)

example : unstyled (paint true .red ("a" ++ paint true .boldRed "b" ++ "[m")) = "ab[m" := by
  decide

theorem unstyledFrom_cons {c : Char} (other : c ≠ '\x1b') (rest : List Char) :
    unstyledFrom false (c :: rest) = c :: unstyledFrom false rest := by
  rw [unstyledFrom]
  exact fun _ same => absurd same other

theorem unstyledFrom_codes {codes : List Char} (free : 'm' ∉ codes) (rest : List Char) :
    unstyledFrom true (codes ++ 'm' :: rest) = unstyledFrom false rest := by
  induction codes with
  | nil => simp [unstyledFrom]
  | cons c codes ih =>
    have ⟨other, free⟩ := List.ne_and_not_mem_of_not_mem_cons free
    simp [unstyledFrom, other.symm, ih free]

/-! ## Styled texts -/

/-- The first text is the second with sequences in it. -/
inductive Styled : List Char → List Char → Prop where
  | nil : Styled [] []
  | char {c : Char} {painted plain : List Char} (other : c ≠ '\x1b') (more : Styled painted plain) :
      Styled (c :: painted) (c :: plain)
  | sequence {codes painted plain : List Char} (free : 'm' ∉ codes) (free' : '\x1b' ∉ codes)
      (more : Styled painted plain) : Styled ('\x1b' :: '[' :: (codes ++ 'm' :: painted)) plain

theorem Styled.unstyledFrom_eq {painted plain : List Char} (styled : Styled painted plain) :
    unstyledFrom false painted = plain := by
  induction styled with
  | nil => rfl
  | char other _ ih => rw [unstyledFrom_cons other, ih]
  | sequence free _ _ ih =>
    rw [unstyledFrom, if_pos (by simp), unstyledFrom_codes free, ih]

theorem Styled.append {painted plain painted' plain' : List Char} (styled : Styled painted plain)
    (styled' : Styled painted' plain') : Styled (painted ++ painted') (plain ++ plain') := by
  induction styled with
  | nil => exact styled'
  | char other _ ih => exact .char other ih
  | sequence free free' _ ih =>
    simpa using Styled.sequence free free' ih

theorem styled_of_free {text : List Char} (free : '\x1b' ∉ text) : Styled text text := by
  induction text with
  | nil => exact .nil
  | cons c text ih =>
    have ⟨other, free⟩ := List.ne_and_not_mem_of_not_mem_cons free
    exact .char other.symm (ih free)

/-! ## Styling -/

theorem Style.free_codes (style : Style) :
    'm' ∉ style.codes.toList ∧ '\x1b' ∉ style.codes.toList := by
  cases style <;> decide

theorem Styled.opening (style : Style) {painted plain : List Char} (styled : Styled painted plain) :
    Styled (style.opening ++ painted) plain := by
  have opened := Styled.sequence style.free_codes.1 style.free_codes.2 styled
  simpa [Style.opening] using opened

theorem Styled.reset {painted plain : List Char} (styled : Styled painted plain) :
    Styled (resetSequence ++ painted) plain :=
  @Styled.sequence ['0'] _ _ (by decide) (by decide) styled

/-- Only a reset is followed by the opening again. -/
theorem reopen_cons {opening : List Char} {c : Char} (other : c ≠ '\x1b') (rest : List Char) :
    reopen opening (c :: rest) = c :: reopen opening rest := by
  rw [reopen]
  exact fun _ same => absurd same other

theorem reopen_of_free {opening front : List Char} (free : '\x1b' ∉ front) (rest : List Char) :
    reopen opening (front ++ rest) = front ++ reopen opening rest := by
  induction front with
  | nil => rfl
  | cons c front ih =>
    have ⟨other, free⟩ := List.ne_and_not_mem_of_not_mem_cons free
    rw [List.cons_append, reopen_cons other.symm, ih free, List.cons_append]

theorem reopen_sequence {opening codes : List Char} (free : 'm' ∉ codes) (free' : '\x1b' ∉ codes)
    (rest : List Char) :
    reopen opening ('\x1b' :: '[' :: (codes ++ 'm' :: rest)) =
      '\x1b' :: '[' :: (codes ++ 'm' :: ((if codes = ['0'] then opening else []) ++
        reopen opening rest)) := by
  by_cases resets : codes = ['0']
  · simp [resets, reopen, resetSequence]
  · -- The first `m` is the one behind the codes, so the text starts with no reset.
    have noReset (more : List Char) : '[' :: (codes ++ 'm' :: rest) ≠ '[' :: '0' :: 'm' :: more := by
      intro same
      rcases codes with _ | ⟨c, _ | ⟨d, codes⟩⟩
      · simp at same
      · simp_all
      · simp_all
    have kept : reopen opening (codes ++ 'm' :: rest) = _ := reopen_of_free free' _
    rw [reopen, reopen_cons (by decide), kept, reopen_cons (by decide), if_neg resets,
      List.nil_append]
    exact fun more _ same => noReset more same

/-- A style that is opened again within a styled text adds sequences to it, and nothing else. -/
theorem Styled.reopen (style : Style) {painted plain : List Char} (styled : Styled painted plain) :
    Styled (reopen style.opening painted) plain := by
  induction styled with
  | nil => exact .nil
  | char other _ ih => rw [reopen_cons other]; exact .char other ih
  | sequence free free' _ ih =>
    rw [reopen_sequence free free']
    refine .sequence free free' ?_
    split
    · exact ih.opening style
    · exact ih

/-! ## Strings -/

/-- Without an escape character. -/
def Legible (text : String) : Prop :=
  '\x1b' ∉ text.toList

instance (text : String) : Decidable (Legible text) :=
  inferInstanceAs (Decidable (¬ _))

theorem Legible.append {front back : String} (legible : Legible front) (legible' : Legible back) :
    Legible (front ++ back) := by
  rw [Legible, String.toList_append, List.mem_append, not_or]
  exact ⟨legible, legible'⟩

/-- The first text is the second with styles in it. -/
def Shows (painted plain : String) : Prop :=
  Styled painted.toList plain.toList

theorem Legible.shows {text : String} (legible : Legible text) : Shows text text :=
  styled_of_free legible

theorem Shows.append {painted plain painted' plain' : String} (shows : Shows painted plain)
    (shows' : Shows painted' plain') : Shows (painted ++ painted') (plain ++ plain') := by
  rw [Shows, String.toList_append, String.toList_append]
  exact Styled.append shows shows'

/-- Whatever is in a style already, putting all of it in a style shows the same text. -/
theorem Shows.paint (style : Style) {painted plain : String} (shows : Shows painted plain) :
    Shows (paint true style painted) (paint false style plain) := by
  have closed := (Styled.reopen style shows).append (Styled.reset .nil)
  simpa [Shows, Text.paint] using closed.opening style

theorem Legible.shows_paint (style : Style) {text : String} (legible : Legible text) :
    Shows (Text.paint true style text) (Text.paint false style text) :=
  legible.shows.paint style

theorem Shows.unstyled_eq {painted plain : String} (shows : Shows painted plain) :
    unstyled painted = plain := by
  rw [unstyled, Styled.unstyledFrom_eq shows, String.ofList_toList]

end SqlShell.Text
