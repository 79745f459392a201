import SqlShell.Proofs.Grammar.Leaves
import SqlShell.Proofs.Lexing.ReadBack
import SqlShell.Proofs.Lexing.Tiling
import SqlShell.Statement.Printer

/-!
# Printed scripts as rows of pieces

The text of a script is a row of pieces (`Script.textOf_pieces`), and if the tokens of the script are
ones that some text has, the lexer takes the text apart into these very pieces
(`Script.readsBack_pieces`).
-/

namespace SqlShell

open Token (Piece IsStop)

/-! ## Rows that are read back -/

/-- Each piece of a row is the first that is taken from there on. -/
def ReadsBack : List Piece → List Char → Prop
  | [], _ => True
  | piece :: pieces, rest =>
    Piece.next? (piece.text ++ (textOf pieces ++ rest)) = some (piece, textOf pieces ++ rest) ∧
      ReadsBack pieces rest

theorem textOf_cons (piece : Piece) (pieces : List Piece) :
    textOf (piece :: pieces) = piece.text ++ textOf pieces := rfl

theorem textOf_append (front back : List Piece) :
    textOf (front ++ back) = textOf front ++ textOf back :=
  List.flatMap_append

theorem tokensOf_append (before : List Char) (front back : List Piece) :
    tokensOf before (front ++ back) =
      tokensOf before front ++ tokensOf (before ++ textOf front) back := by
  induction front generalizing before with
  | nil => simp [tokensOf, textOf]
  | cons piece front ih => simp [tokensOf, ih, textOf_cons]

theorem readsBack_append {front back : List Piece} {rest : List Char}
    (h : ReadsBack front (textOf back ++ rest)) (h' : ReadsBack back rest) :
    ReadsBack (front ++ back) rest := by
  induction front with
  | nil => exact h'
  | cons piece front ih =>
    have first := h.1
    rw [← List.append_assoc (textOf front), ← textOf_append] at first
    exact ⟨first, ih h.2⟩

/-- A row that is read back is scanned into its tokens, and the scan goes on behind it. -/
theorem ofChars_append_of_readsBack {pieces : List Piece} {rest : List Char}
    (h : ReadsBack pieces rest) (previous : Option Token) (before : List Char) :
    Scan.ofChars previous (place before) (textOf pieces ++ rest) =
      (Scan.ofChars ((tokensOf before pieces).getLast?.or previous)
        (place (before ++ textOf pieces)) rest).after (tokensOf before pieces) := by
  induction pieces generalizing previous before with
  | nil =>
    rw [show textOf [] = [] from rfl, List.append_nil]
    rfl
  | cons piece pieces ih =>
    -- the last token of the row is that of the piece only if the others have none
    have last : (tokensOf (before ++ piece.text) pieces).getLast?.or
        ((piece.token? (place before)).or previous) =
          (tokensOf before (piece :: pieces)).getLast?.or previous := by
      rw [tokensOf, List.getLast?_append, Option.or_assoc]
      cases piece.token? (place before) <;> rfl
    rw [textOf_cons, List.append_assoc, ofChars_of_taken h.1, advance_place, ih h.2, last]
    simp only [Scan.after, tokensOf, List.append_assoc]

theorem ofChars_of_readsBack {pieces : List Piece} (h : ReadsBack pieces [])
    (previous : Option Token) (before : List Char) :
    Scan.ofChars previous (place before) (textOf pieces) = ⟨tokensOf before pieces, none⟩ := by
  have whole := ofChars_append_of_readsBack h previous before
  rw [List.append_nil] at whole
  rw [whole, ofChars_of_stuck (by rfl)]
  simp [Scan.after]

/-! ## Layout -/

def gap : Piece := .separator ' '

def printedWord (word : Keyword) : Piece := (Token.keyword word).written

def printedMark (mark : Symbol) : Piece := (Token.symbol mark).written

/-- Items with a comma and a space between them. -/
def listed : List (List Piece) → List Piece
  | [] => []
  | item :: items => item ++ items.flatMap fun next => printedMark .comma :: gap :: next

def ColumnDefinition.pieces (column : ColumnDefinition) : List Piece :=
  [column.name.written, gap, column.datatype.written]

def itemPieces (items : List Token) : List Piece :=
  if items.isEmpty then [] else gap :: listed (items.map fun item => [item.written])

def sourcePieces : Option Token → List Piece
  | none => []
  | some table => [gap, printedWord .from, gap, table.written]

def Statement.pieces : Statement → List Piece
  | .createTable name columns =>
    [printedWord .create, gap, printedWord .table, gap, name.written, gap,
      printedMark .leftParen] ++
      (listed (columns.map (·.pieces)) ++ [printedMark .rightParen])
  | .insert table values =>
    [printedWord .insert, gap, printedWord .into, gap, table.written, gap, printedWord .values, gap,
      printedMark .leftParen] ++
      (listed (values.map fun value => [value.written]) ++ [printedMark .rightParen])
  | .select items source => printedWord .select :: (itemPieces items ++ sourcePieces source)

def Script.pieces (script : Script) : List Piece :=
  script.flatMap fun statement => statement.pieces ++ [printedMark .semicolon, .separator '\n']

/-! ## Their text -/

@[simp] theorem textOf_nil : textOf [] = [] := rfl

@[simp] theorem textOf_gap (pieces : List Piece) : textOf (gap :: pieces) = ' ' :: textOf pieces :=
  rfl

@[simp] theorem textOf_written (token : Token) (pieces : List Piece) :
    textOf (token.written :: pieces) = token.toSql.toList ++ textOf pieces := rfl

@[simp] theorem textOf_printedWord (word : Keyword) (pieces : List Piece) :
    textOf (printedWord word :: pieces) = word.display.toList ++ textOf pieces := by
  have spelled : (printedWord word).text = word.display.toList :=
    congrArg String.toList word.upper_spelling
  rw [textOf_cons, spelled]

@[simp] theorem textOf_printedMark (mark : Symbol) (pieces : List Piece) :
    textOf (printedMark mark :: pieces) = mark.spelling.toList ++ textOf pieces := rfl

theorem toList_commaSeparated (text : String) (texts : List String) :
    (commaSeparated (text :: texts)).toList =
      text.toList ++ texts.flatMap fun next => [',', ' '] ++ next.toList := by
  induction texts generalizing text with
  | nil => simp [commaSeparated]
  | cons next texts ih =>
    have rest := ih next
    simp only [commaSeparated] at rest ⊢
    simp [String.intercalate_cons_cons, rest]

theorem textOf_listed {α : Type} (pieces : α → List Piece) (text : α → String)
    (same : ∀ a, textOf (pieces a) = (text a).toList) (items : List α) :
    textOf (listed (items.map pieces)) = (commaSeparated (items.map text)).toList := by
  cases items with
  | nil => rfl
  | cons item items =>
    rw [List.map_cons, List.map_cons, toList_commaSeparated, listed, textOf_append, same]
    congr 1
    induction items with
    | nil => rfl
    | cons next items ih =>
      simp only [List.map_cons, List.flatMap_cons, textOf_append, ih, textOf_cons, same]
      rfl

theorem ColumnDefinition.textOf_pieces (column : ColumnDefinition) :
    textOf column.pieces = column.toSql.toList := by
  simp [pieces, toSql]

theorem textOf_literals (items : List Token) :
    textOf (listed (items.map fun item => [item.written])) =
      (commaSeparated (items.map (·.toSql))).toList :=
  textOf_listed _ _ (fun token => by simp) items

theorem textOf_columns (columns : List ColumnDefinition) :
    textOf (listed (columns.map (·.pieces))) =
      (commaSeparated (columns.map (·.toSql))).toList :=
  textOf_listed _ _ ColumnDefinition.textOf_pieces columns

theorem Statement.textOf_pieces (statement : Statement) :
    textOf statement.pieces = statement.toSql.toList := by
  cases statement with
  | createTable name columns =>
    simp [pieces, toSql, textOf_append, textOf_columns, Keyword.display, Symbol.spelling]
  | insert table values =>
    simp [pieces, toSql, textOf_append, textOf_literals, Keyword.display, Symbol.spelling]
  | select items source =>
    have itemsText : textOf (itemPieces items) =
        (if items.isEmpty then "" else " " ++ commaSeparated (items.map (·.toSql))).toList := by
      simp only [itemPieces]
      split <;> simp [textOf_literals]
    cases source with
    | none =>
      simp [pieces, toSql, itemsText, sourcePieces, Keyword.display]
    | some table =>
      simp [pieces, toSql, textOf_append, itemsText, sourcePieces, Keyword.display]

theorem Script.textOf_pieces (script : Script) : textOf script.pieces = script.toSql.toList := by
  rw [toSql, String.toList_join]
  induction script with
  | nil => rfl
  | cons statement script ih =>
    have first : textOf (statement.pieces ++ [printedMark .semicolon, .separator '\n']) =
        (statement.toSql ++ ";\n").toList := by
      rw [textOf_append, Statement.textOf_pieces, String.toList_append]
      rfl
    rw [List.map_cons, List.flatMap_cons, ← ih, ← first, ← textOf_append]
    rfl

/-! ## They are read back -/

/-- A text that starts with a character that the printer puts behind a token. -/
def Stops (rest : List Char) : Prop :=
  ∃ c more, rest = c :: more ∧ IsStop c

theorem stops_gap (rest : List Char) : Stops (' ' :: rest) :=
  ⟨' ', rest, rfl, .inl rfl⟩

theorem readsBack_gap {pieces : List Piece} {rest : List Char} (h : ReadsBack pieces rest) :
    ReadsBack (gap :: pieces) rest :=
  ⟨Token.next?_separator (.inl rfl) _, h⟩

theorem readsBack_printedMark (mark : Symbol) {pieces : List Piece} {rest : List Char}
    (h : ReadsBack pieces rest) : ReadsBack (printedMark mark :: pieces) rest := by
  have isMark : (Token.symbol mark).value.toList ∈ Symbol.spellings := by
    cases mark <;> decide
  exact ⟨Token.next?_symbol isMark _, h⟩

theorem readsBack_written {token : Token} (writable : token.IsWritable) {pieces : List Piece}
    {rest : List Char} (stops : Stops (textOf pieces ++ rest)) (h : ReadsBack pieces rest) :
    ReadsBack (token.written :: pieces) rest := by
  obtain ⟨c, more, shape, stop⟩ := stops
  refine ⟨?_, h⟩
  rw [shape]
  exact Token.next?_written writable stop more

theorem readsBack_printedWord (word : Keyword) {pieces : List Piece} {rest : List Char}
    (stops : Stops (textOf pieces ++ rest)) (h : ReadsBack pieces rest) :
    ReadsBack (printedWord word :: pieces) rest := by
  have isWord : word.spelling.toList ∈ Keyword.spellings := by
    cases word <;> decide
  have writable : (Token.keyword word).IsWritable := isWord
  exact readsBack_written writable stops h

/-- A list of items is read back if each item is, in front of any stop. -/
theorem readsBack_listed {α : Type} {pieces : α → List Piece} {items : List α}
    (h : ∀ item ∈ items, ∀ rest, Stops rest → ReadsBack (pieces item) rest) {rest : List Char}
    (stops : Stops rest) : ReadsBack (listed (items.map pieces)) rest := by
  cases items with
  | nil => trivial
  | cons item items =>
    -- behind an item stands a comma, or what stands behind the list
    have behind : ∀ (more : List α), (∀ next ∈ more, next ∈ items) →
        Stops (textOf ((more.map pieces).flatMap fun next => printedMark .comma :: gap :: next) ++
          rest) ∧
        ReadsBack ((more.map pieces).flatMap fun next => printedMark .comma :: gap :: next)
          rest := by
      intro more inside
      induction more with
      | nil => exact ⟨stops, trivial⟩
      | cons next more ih =>
        obtain ⟨stops', back⟩ := ih fun other member => inside other (List.mem_cons_of_mem _ member)
        have member := List.mem_cons_of_mem item (inside next List.mem_cons_self)
        refine ⟨⟨',', _, rfl, .inr (.inl rfl)⟩, ?_⟩
        have first := readsBack_gap (h next member _ stops')
        exact readsBack_append (readsBack_printedMark .comma first) back
    obtain ⟨stops', back⟩ := behind items fun _ member => member
    exact readsBack_append (h item List.mem_cons_self _ stops') back

theorem readsBack_literals {items : List Token} (h : ∀ item ∈ items, item.IsWritable)
    {rest : List Char} (stops : Stops rest) :
    ReadsBack (listed (items.map fun item => [item.written])) rest := by
  refine readsBack_listed (fun item inside rest stops => ?_) stops
  exact readsBack_written (h item inside) stops trivial

theorem readsBack_columns {columns : List ColumnDefinition}
    (h : ∀ column ∈ columns, column.name.IsWritable ∧ column.datatype.IsWritable)
    {rest : List Char} (stops : Stops rest) :
    ReadsBack (listed (columns.map (·.pieces))) rest := by
  refine readsBack_listed (fun column inside rest stops => ?_) stops
  obtain ⟨name, datatype⟩ := h column inside
  exact readsBack_written name (stops_gap _)
    (readsBack_gap (readsBack_written datatype stops trivial))

theorem stops_closing (rest : List Char) :
    Stops (textOf [printedMark .rightParen] ++ rest) :=
  ⟨')', rest, rfl, .inr (.inr (.inl rfl))⟩

theorem Statement.readsBack_pieces {statement : Statement}
    (h : ∀ token ∈ statement.leaves, token.IsWritable) {rest : List Char} (stops : Stops rest) :
    ReadsBack statement.pieces rest := by
  have closing : ReadsBack [printedMark .rightParen] rest := readsBack_printedMark _ trivial
  cases statement with
  | createTable name columns =>
    have columnsWritable : ∀ column ∈ columns,
        column.name.IsWritable ∧ column.datatype.IsWritable := by
      intro column inside
      have member (token : Token) (h' : token ∈ [column.name, column.datatype]) :
          token.IsWritable :=
        h token (List.mem_cons_of_mem name (List.mem_flatMap.2 ⟨column, inside, h'⟩))
      exact ⟨member _ (by simp), member _ (by simp)⟩
    have list := readsBack_append (readsBack_columns columnsWritable (stops_closing rest)) closing
    refine readsBack_append ?_ list
    refine readsBack_printedWord _ (stops_gap _) (readsBack_gap ?_)
    refine readsBack_printedWord _ (stops_gap _) (readsBack_gap ?_)
    refine readsBack_written (h name (by simp [leaves])) (stops_gap _) (readsBack_gap ?_)
    exact readsBack_printedMark _ trivial
  | insert table values =>
    have valuesWritable : ∀ value ∈ values, value.IsWritable :=
      fun value inside => h value (List.mem_cons_of_mem table inside)
    have list := readsBack_append (readsBack_literals valuesWritable (stops_closing rest)) closing
    refine readsBack_append ?_ list
    refine readsBack_printedWord _ (stops_gap _) (readsBack_gap ?_)
    refine readsBack_printedWord _ (stops_gap _) (readsBack_gap ?_)
    refine readsBack_written (h table (by simp [leaves])) (stops_gap _) (readsBack_gap ?_)
    refine readsBack_printedWord _ (stops_gap _) (readsBack_gap ?_)
    exact readsBack_printedMark _ trivial
  | select items source =>
    have itemsWritable : ∀ item ∈ items, item.IsWritable :=
      fun item inside => h item (List.mem_append_left _ inside)
    have last : Stops (textOf (sourcePieces source) ++ rest) ∧
        ReadsBack (sourcePieces source) rest := by
      cases source with
      | none => exact ⟨stops, trivial⟩
      | some table =>
        refine ⟨stops_gap _, readsBack_gap ?_⟩
        refine readsBack_printedWord _ (stops_gap _) (readsBack_gap ?_)
        exact readsBack_written (h table (by simp [leaves])) stops trivial
    obtain ⟨stops', back⟩ := last
    -- without expressions the word stands right in front of the source
    by_cases empty : items.isEmpty = true
    · have shape : itemPieces items = [] := if_pos empty
      rw [pieces, shape]
      exact readsBack_printedWord _ stops' back
    · have shape : itemPieces items = gap :: listed (items.map fun item => [item.written]) :=
        if_neg empty
      rw [pieces, shape]
      exact readsBack_printedWord _ (stops_gap _)
        (readsBack_append (readsBack_gap (readsBack_literals itemsWritable stops')) back)

theorem Script.readsBack_pieces {script : Script}
    (h : ∀ token ∈ script.leaves, token.IsWritable) : ReadsBack script.pieces [] := by
  induction script with
  | nil => trivial
  | cons statement script ih =>
    have first : ∀ token ∈ statement.leaves, token.IsWritable :=
      fun token inside => h token (List.mem_append_left _ inside)
    have more := ih fun token inside => h token (List.mem_append_right _ inside)
    have ending : ReadsBack [printedMark .semicolon, .separator '\n']
        (textOf (Script.pieces script) ++ []) :=
      readsBack_printedMark _ ⟨Token.next?_separator (.inr (.inr rfl)) _, trivial⟩
    refine readsBack_append (readsBack_append (statement.readsBack_pieces first ?_) ending) more
    exact ⟨';', _, rfl, .inr (.inr (.inr rfl))⟩

/-- The lexer takes a printed script apart into its pieces. -/
theorem Script.ofText_toSql {script : Script} (h : ∀ token ∈ script.leaves, token.IsWritable) :
    Scan.ofText script.toSql = ⟨tokensOf [] script.pieces, none⟩ := by
  have scanned := ofChars_of_readsBack (Script.readsBack_pieces h) none []
  rw [Script.textOf_pieces] at scanned
  exact scanned

end SqlShell
