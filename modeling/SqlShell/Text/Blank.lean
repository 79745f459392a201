/-!
# White space

The characters that separate words for a reader of lines:

* `isBlank` is the Unicode property `White_Space`;
* `trimEnd` and `trim` drop such characters at the end, or at both ends, of a text;
* `isBlankText` asks whether a text holds nothing else.

Between the tokens of a statement only some of them may stand; see `SqlShell.Token.isSeparator`.
-/

namespace SqlShell.Text

/-- Unicode `White_Space`: the five control separators, the spaces, the line and paragraph
separators, and the next-line control. -/
def isBlank (c : Char) : Bool :=
  let n := c.toNat
  (0x09 ≤ n && n ≤ 0x0D) || n == 0x20 || n == 0x85 || n == 0xA0 || n == 0x1680 ||
    (0x2000 ≤ n && n ≤ 0x200A) || n == 0x2028 || n == 0x2029 || n == 0x202F || n == 0x205F ||
    n == 0x3000

/-- Nothing but white space; the empty text counts. -/
def isBlankText (cs : List Char) : Bool :=
  cs.all isBlank

/-- The text without its trailing white space. -/
def trimEnd (cs : List Char) : List Char :=
  (cs.reverse.dropWhile isBlank).reverse

/-- The text without white space at either end. -/
def trim (cs : List Char) : List Char :=
  trimEnd (cs.dropWhile isBlank)

end SqlShell.Text
