import SqlShell.Text.Lines
import SqlShell.Text.Width

/-!
# Grids of text

Records of texts as a grid in the style of a Markdown table:

* a column is as wide as the widest line of its texts, and there are as many columns as the longest
  record has texts; a shorter record is filled up with empty texts;
* a text is padded on the right to the width of its column, with one more space on either side;
* a record takes as many lines as the text with most lines, the other texts leaving blanks below;
* a rule of hyphens separates the first record from the others.
-/

namespace SqlShell.Text

/-- The columns that the widest line of a text takes. -/
def textWidth (text : String) : Nat :=
  (pieces '\n' text.toList).foldl (fun widest line => max widest (width line)) 0

/-- The texts of a record, filled up to a number of columns. -/
def fillRecord (columns : Nat) (record : List String) : List String :=
  record ++ List.replicate (columns - record.length) ""

/-- The widths of the columns of records of the same length. -/
def columnWidths (columns : Nat) (records : List (List String)) : List Nat :=
  records.foldl (fun widths record => List.zipWith max widths (record.map textWidth))
    (List.replicate columns 0)

/-- One line of one text, padded to the width of its column. -/
def padLine (columnWidth : Nat) (line : List Char) : List Char :=
  ' ' :: line ++ List.replicate (columnWidth - width line) ' ' ++ [' ']

/-- A line of the grid from the padded lines in it. -/
def gridLine (parts : List (List Char)) : List Char :=
  '|' :: parts.flatMap (· ++ ['|'])

/-- The lines of a record. -/
def recordLines (widths : List Nat) (record : List String) : List (List Char) :=
  let texts := record.map fun text => pieces '\n' text.toList
  let height := texts.foldl (fun most lines => max most lines.length) 0
  (List.range height).map fun row =>
    gridLine (List.zipWith (fun columnWidth lines => padLine columnWidth (lines[row]?.getD []))
      widths texts)

/-- The rule under the first record. -/
def gridRule (widths : List Nat) : List Char :=
  gridLine (widths.map fun columnWidth => List.replicate (columnWidth + 2) '-')

/-- The lines of a grid. -/
def gridLines (header : List String) (records : List (List String)) : List (List Char) :=
  let columns := (header :: records).foldl (fun most record => max most record.length) 0
  let filled := records.map (fillRecord columns)
  let head := fillRecord columns header
  let widths := columnWidths columns (head :: filled)
  recordLines widths head ++ gridRule widths :: filled.flatMap (recordLines widths)

end SqlShell.Text
