/-!
# Delimited literals

A value between two delimiters, with every delimiter inside it written twice. `enclose` writes a
value in this form; `readDelimited` reads one from the start of a text. Main statement: what
`readDelimited` takes from a text is the written form of the value it returns
(`append_of_readDelimited`), so the value alone tells how much was read.
-/

namespace SqlShell.Token

/-- The value with each delimiter written twice. -/
def double (delimiter : Char) (value : List Char) : List Char :=
  value.flatMap fun c => if c = delimiter then [delimiter, delimiter] else [c]

/-- The written form of a value. -/
def enclose (delimiter : Char) (value : List Char) : List Char :=
  delimiter :: double delimiter value ++ [delimiter]

/-- Read up to the closing delimiter: the value and the text behind that delimiter. A text that
ends first holds no literal. -/
def readEnclosed (delimiter : Char) : List Char → Option (List Char × List Char)
  | [] => none
  | c :: rest =>
    if c = delimiter then
      match rest with
      | [] => some ([], [])
      | next :: after =>
        if next = delimiter then
          (readEnclosed delimiter after).map fun (value, rest) => (delimiter :: value, rest)
        else
          some ([], next :: after)
    else
      (readEnclosed delimiter rest).map fun (value, rest) => (c :: value, rest)

/-- Read a delimited literal from the start of a text. -/
def readDelimited (delimiter : Char) : List Char → Option (List Char × List Char)
  | [] => none
  | c :: rest => if c = delimiter then readEnclosed delimiter rest else none

/-! ## What is read -/

theorem append_of_readEnclosed {d : Char} {cs value rest : List Char}
    (h : readEnclosed d cs = some (value, rest)) : double d value ++ d :: rest = cs := by
  fun_induction readEnclosed d cs generalizing value rest with
  | case1 => cases h
  | case2 => cases h; rfl
  | case3 _ ih =>
    simp only [Option.map_eq_some_iff, Prod.exists, Prod.mk.injEq] at h
    obtain ⟨v, r, hv, rfl, rfl⟩ := h
    have := ih hv
    simp [double] at this ⊢
    exact this
  | case4 => cases h; rfl
  | case5 c cs hc ih =>
    simp only [Option.map_eq_some_iff, Prod.exists, Prod.mk.injEq] at h
    obtain ⟨v, r, hv, rfl, rfl⟩ := h
    have := ih hv
    simp [double, hc] at this ⊢
    exact this

/-- What is read is the written form of the value. -/
theorem append_of_readDelimited {d : Char} {cs value rest : List Char}
    (h : readDelimited d cs = some (value, rest)) : enclose d value ++ rest = cs := by
  cases cs with
  | nil => cases h
  | cons c cs =>
    simp only [readDelimited] at h
    split at h
    · next hc =>
      have := append_of_readEnclosed h
      simp [enclose, hc, this]
    · cases h

end SqlShell.Token
