/-!
# Lines

`lines` cuts a sequence at its line feeds. The rule is the same for characters and for bytes, so
the feed and the carriage return are parameters:

* a line ends at a feed, which belongs to no line;
* one carriage return directly in front of that feed is dropped with it;
* what follows the last feed is a line only when it is not empty, and then keeps its carriage
  returns.

`pieces` is the plainer cut at a separator, which keeps everything in between.
-/

namespace SqlShell.Text

variable {α : Type} [DecidableEq α]

/-- The lines of a sequence; see the module's rule. -/
def lines (feed carriage : α) : List α → List (List α)
  | [] => []
  | c :: rest =>
    if c = feed then
      [] :: lines feed carriage rest
    else
      match lines feed carriage rest with
      | [] => [[c]]
      | line :: more =>
        if c = carriage ∧ rest.head? = some feed then line :: more else (c :: line) :: more

/-- The lines of a text, which end at `\n` or `\r\n`. -/
def textLines (cs : List Char) : List (List Char) :=
  lines '\n' '\r' cs

/-- The pieces between separators. There is always one more piece than there are separators, so a
trailing separator leaves an empty last piece. -/
def pieces (separator : Char) : List Char → List (List Char)
  | [] => [[]]
  | c :: rest =>
    if c = separator then
      [] :: pieces separator rest
    else
      match pieces separator rest with
      | [] => [[c]]
      | piece :: more => (c :: piece) :: more

end SqlShell.Text
