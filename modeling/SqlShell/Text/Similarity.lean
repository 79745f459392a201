/-!
# Likeness of words

The Jaro–Winkler measure of how alike two words are, from 0 (nothing shared) to 1 (equal), in
double-precision arithmetic.

* Two characters match when they are equal and not further apart than the window; each character is
  used once, the earliest free partner first (`Pairing.step`).
* A match to the left of the one before it counts as transposed.
* `jaro` averages the matched share of either word and the untransposed share of the matches.
* `jaroWinkler` adds a tenth of what is missing to 1 for every character of the shared opening,
  however long that opening is.
-/

namespace SqlShell.Text

/-- The state of pairing up two words: the second word with its used characters blanked out, and
the counts so far. -/
structure Pairing where
  free : List (Option Char)
  matched : Nat
  transposed : Nat
  last : Nat

/-- The first free position from `position` on, at least `low` and at most `high`, that holds `c`,
and the word with that position blanked out. -/
def takeFirst (c : Char) (low high position : Nat) :
    List (Option Char) → Option (Nat × List (Option Char))
  | [] => none
  | slot :: rest =>
    if low ≤ position && position ≤ high && slot == some c then
      some (position, none :: rest)
    else
      (takeFirst c low high (position + 1) rest).map fun (found, rest) => (found, slot :: rest)

/-- Pair up the character at `index` of the first word. -/
def Pairing.step (window : Nat) (pairing : Pairing) (entry : Char × Nat) : Pairing :=
  let (c, index) := entry
  match takeFirst c (index - window) (index + window) 0 pairing.free with
  | none => pairing
  | some (found, free) =>
    { free
      matched := pairing.matched + 1
      transposed := if found < pairing.last then pairing.transposed + 1 else pairing.transposed
      last := found }

/-- The Jaro measure of two words. -/
def jaro (a b : List Char) : Float :=
  let la := a.length
  let lb := b.length
  if la == 0 && lb == 0 then 1
  else if la == 0 || lb == 0 then 0
  else if la == 1 && lb == 1 then (if a == b then 1 else 0)
  else
    let window := max la lb / 2 - 1
    let result := a.zipIdx.foldl (Pairing.step window) ⟨b.map some, 0, 0, 0⟩
    if result.matched == 0 then 0
    else
      let m := result.matched.toFloat
      (1.0 / 3.0) * (m / la.toFloat + m / lb.toFloat + (m - result.transposed.toFloat) / m)

/-- How many characters two words share at their start. -/
def sharedOpening : List Char → List Char → Nat
  | a :: as, b :: bs => if a = b then sharedOpening as bs + 1 else 0
  | _, _ => 0

/-- The Jaro–Winkler measure of two words. -/
def jaroWinkler (a b : List Char) : Float :=
  let base := jaro a b
  let score := base + 0.1 * (sharedOpening a b).toFloat * (1.0 - base)
  if score > 1.0 then 1.0 else score

end SqlShell.Text
