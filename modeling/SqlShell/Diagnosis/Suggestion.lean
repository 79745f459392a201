import SqlShell.Text.Similarity
import SqlShell.Text.Upper
import SqlShell.Token.Basic

/-!
# Which keyword was meant

`Keyword.suggest` proposes the keyword a word resembles most, in upper case on both sides, when the
likeness exceeds `Keyword.threshold`. A word that is a keyword itself does not resemble itself, but
may resemble another. Of equally alike keywords the last in `Keyword.all` is taken.
-/

namespace SqlShell.Keyword

/-- A keyword less alike than this, or just as much, is not suggested. -/
def threshold : Float := 0.8

/-- The later of two scored keywords unless the earlier is strictly more alike. -/
def moreAlike (best : Option (Keyword × Float)) (next : Keyword × Float) :
    Option (Keyword × Float) :=
  match best with
  | none => some next
  | some previous => if next.2 < previous.2 then some previous else some next

/-- The keyword a word resembles most, if any is alike enough. -/
def suggest (word : String) : Option Keyword :=
  let shown := Text.upper word
  let scored := (all.filter (·.display ≠ shown)).map fun keyword =>
    (keyword, Text.jaroWinkler shown.toList keyword.display.toList)
  ((scored.filter fun (_, score) => threshold < score).foldl moreAlike none).map (·.1)

end SqlShell.Keyword
