/-!
# Styled text

Terminal styles as escape sequences. A styled text opens with its style, ends with the reset
sequence, and opens its style again after each reset inside it, so that a style survives styled
parts within. With colors switched off, styling is the identity.
-/

namespace SqlShell.Text

/-- The styles in use. -/
inductive Style where
  | red
  | green
  | yellow
  | dimmed
  | boldRed
  deriving Repr, DecidableEq

/-- The attribute codes of a style. -/
def Style.codes : Style → String
  | .red => "31"
  | .green => "32"
  | .yellow => "33"
  | .dimmed => "2"
  | .boldRed => "1;31"

/-- The sequence that switches a style on. -/
def Style.opening (style : Style) : List Char :=
  '\x1b' :: '[' :: style.codes.toList ++ ['m']

/-- The sequence that switches every style off. -/
def resetSequence : List Char :=
  ['\x1b', '[', '0', 'm']

/-- The text with `opening` written after each reset sequence in it. -/
def reopen (opening : List Char) : List Char → List Char
  | '\x1b' :: '[' :: '0' :: 'm' :: rest => resetSequence ++ opening ++ reopen opening rest
  | c :: rest => c :: reopen opening rest
  | [] => []

/-- A text in a style, when `color` is on. -/
def paint (color : Bool) (style : Style) (text : String) : String :=
  if color then
    String.ofList (style.opening ++ reopen style.opening text.toList ++ resetSequence)
  else
    text

end SqlShell.Text
