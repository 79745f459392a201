import SqlShell.Proofs.Diagnosis.Wording
import SqlShell.Proofs.Grammar.FailingStatement
import SqlShell.Proofs.Lexing.LetterCase
import SqlShell.Proofs.Printing.WellFormed
import SqlShell.Proofs.Printing.Layout
import SqlShell.Proofs.Store.Integers
import SqlShell.Proofs.Store.Provenance
import SqlShell.Proofs.Text.Grid
import SqlShell.Proofs.Text.Lines
import SqlShell.Proofs.Text.Styled
import SqlShell.Session.Basic

/-!
# Where escape characters could come from

Nothing that a session says has an escape character of its own: those in its texts are in the source
text, or in a cell of the store. Without any there, the tokens of a text are legible, and so are the
statements they make up, the messages about them, and what is reported of them.
-/

namespace SqlShell

open Text (Legible Shows)
open Token (Piece IsLexeme)

/-! ## Numbers and lists -/

theorem legible_toString (n : Nat) : Legible (toString n) := by
  have digits := not_mem_toDigits (c := '\x1b') (by decide) n
  simpa [Legible] using digits

theorem legible_toString_int (n : Int) : Legible (toString n) := by
  have digits (n : Nat) : '\x1b' ∉ Nat.toDigits 10 n := not_mem_toDigits (by decide) n
  rw [Legible, Int.toString_eq_repr, Int.repr_eq_if]
  split <;> simp [digits]

theorem Location.legible_text (location : Location) : Legible location.text :=
  ((legible_toString _).append (by decide)).append (legible_toString _)

theorem legible_commaSeparated {texts : List String} (h : ∀ text ∈ texts, Legible text) :
    Legible (commaSeparated texts) := by
  cases texts with
  | nil => simp [Legible, commaSeparated]
  | cons text texts =>
    obtain ⟨here, behind⟩ := List.forall_mem_cons.1 h
    rw [Legible, toList_commaSeparated]
    simpa [Legible] using And.intro here behind

/-! ## Tokens -/

/-- A token without an escape character, as it is and as it is written. -/
structure Token.Legible (token : Token) : Prop where
  value : Text.Legible token.value
  sql : Text.Legible token.toSql

theorem escape_mem_enclose_iff {delimiter : Char} (other : delimiter ≠ '\x1b') {value : List Char} :
    '\x1b' ∈ Token.enclose delimiter value ↔ '\x1b' ∈ value := by
  have doubled (c : Char) :
      ('\x1b' ∈ if c = delimiter then [delimiter, delimiter] else [c]) ↔ c = '\x1b' := by
    split
    · next same => subst same; simp [other, other.symm]
    · simp [eq_comm]
  simp [Token.enclose, Token.double, List.mem_flatMap, doubled, other.symm]

theorem escape_not_mem_value {kind : Kind} {value text : List Char} (h : IsLexeme kind value text)
    (free : '\x1b' ∉ text) : '\x1b' ∉ value := by
  -- Lower case makes no escape character of another one.
  have lowered {text : List Char} (free : '\x1b' ∉ text) : '\x1b' ∉ text.map Char.toLower := by
    intro inside
    obtain ⟨c, known, lower⟩ := List.mem_map.1 inside
    have same : c.toLower = '\x1b'.toLower := lower
    exact free (Token.eq_of_toLower_eq same (by decide) ▸ known)
  cases h with
  | keyword | plain => exact lowered free
  | symbol | numeric => exact free
  | string | quoted => rwa [escape_mem_enclose_iff (by decide)] at free

theorem Keyword.legible_display (word : Keyword) : Legible word.display := by
  cases word <;> simp [Legible, display]

theorem Symbol.legible_display (mark : Symbol) : Legible mark.display := by
  cases mark <;> simp [Legible, display, spelling]

theorem Token.IsWritable.legible {token : Token} (writable : token.IsWritable)
    (value : Text.Legible token.value) : token.Legible := by
  have enclosed {delimiter : Char} (other : delimiter ≠ '\x1b') {text : String}
      (legible : Text.Legible text) :
      Text.Legible (String.ofList (enclose delimiter text.toList)) := by
    rwa [Text.Legible, String.toList_ofList, escape_mem_enclose_iff other]
  refine ⟨value, ?_⟩
  obtain ⟨kind, text, location⟩ := token
  cases kind with
  | keyword =>
    obtain ⟨word, -, spelled⟩ := List.mem_map.1 writable
    obtain rfl : word.spelling = text := String.toList_injective spelled
    simpa only [toSql, word.upper_spelling] using word.legible_display
  | symbol | numeric => exact value
  | string => exact enclosed (by decide) value
  | identifier =>
    simp only [toSql]
    split
    · exact enclosed (by decide) value
    · exact value

theorem legible_of_mem_tokensOf {pieces : List Piece}
    (wellFormed : ∀ piece ∈ pieces, piece.WellFormed) (free : '\x1b' ∉ textOf pieces)
    {before : List Char} {token : Token} (h : token ∈ tokensOf before pieces) : token.Legible := by
  refine (isWritable_of_mem_tokensOf wellFormed h).legible ?_
  induction pieces generalizing before with
  | nil => cases h
  | cons piece pieces ih =>
    obtain ⟨here, behind⟩ := List.forall_mem_cons.1 wellFormed
    rw [textOf_cons, List.mem_append, not_or] at free
    rcases List.mem_append.1 h with first | later
    · cases piece with
      | separator c => cases first
      | lexeme kind value text =>
        cases List.mem_singleton.1 first
        simpa [Legible] using escape_not_mem_value here free.1
    · exact ih behind free.2 later

/-! ## Reading a text -/

section

variable {text : String} (legible : Legible text)
include legible

theorem legible_of_lex {tokens : List Token} (lexed : lex text = .ok tokens) :
    ∀ token ∈ tokens, token.Legible := by
  obtain ⟨pieces, wellFormed, -, tiles⟩ := lex_tiles_text text
  rw [lexed] at tiles
  obtain ⟨whole, rfl⟩ := tiles
  rw [Legible, whole] at legible
  exact fun token => legible_of_mem_tokensOf (fun piece inside => (wellFormed piece inside).1) legible

theorem legible_of_lex_error {error : LexError} (failed : lex text = .error error) :
    Legible error.message := by
  obtain ⟨pieces, wellFormed, -, tiles⟩ := lex_tiles_text text
  rw [failed] at tiles
  obtain ⟨rest, split, -, -, hint⟩ := tiles
  rw [Legible, split, List.mem_append, not_or, List.mem_cons, not_or] at legible
  obtain ⟨free, other, -⟩ := legible
  have offending : Legible (String.singleton error.offending) := by simpa [Legible] using other
  have hinted : Legible error.hint := by
    rw [hint]
    refine ((Legible.append ?_ (by decide)).append offending).append (by decide)
    cases last : (tokensOf [] pieces).getLast? with
    | none => decide
    | some token =>
      have known := legible_of_mem_tokensOf (fun piece inside => (wellFormed piece inside).1) free
        (List.mem_of_getLast? last)
      exact (Legible.append (by decide) known.value).append (by decide)
  exact ((Legible.append (by decide) hinted).append (by decide)).append error.location.legible_text

theorem legible_of_find? {location : Location} {line : SourceLine}
    (found : SourceLine.find? text location = some line) : Legible line.line := by
  obtain ⟨cs, at_, rfl⟩ := Option.map_eq_some_iff.1 found
  rw [Legible, String.toList_ofList]
  exact fun inside =>
    legible ((Text.cutInto_textLines text.toList).mem (List.mem_of_getElem? at_) inside)

end

/-! ## Errors of a text -/

/-- A fault that quotes and asks for legible texts. -/
def ParseFault.Legible : ParseFault → Prop
  | lex error => Text.Legible error.message
  | statement found => Text.Legible found
  | delimiter found => ∀ text ∈ found, Text.Legible text
  | token expected found => Text.Legible expected ∧ ∀ text ∈ found, Text.Legible text
  | unexplained => True

theorem ParseFault.Legible.message {fault : ParseFault} (h : fault.Legible) :
    Text.Legible fault.message := by
  cases fault with
  | lex error => exact h
  | statement text => exact (Text.Legible.append (by decide) h).append (by decide)
  | delimiter text =>
    cases text with
    | none =>
      show Text.Legible "Expected ';' delimiter after statement, reached end of input"
      decide
    | some text => exact (Text.Legible.append (by decide) (h text rfl)).append (by decide)
  | token expected text =>
    have wanted : Text.Legible ("Expected " ++ expected) := .append (by decide) h.1
    cases text with
    | none => exact wanted.append (by decide)
    | some text => exact ((wanted.append (by decide)).append (h.2 text rfl)).append (by decide)
  | unexplained =>
    show Text.Legible "Unexpected error"
    decide

/-- An error with a legible fault in a legible line. -/
structure ParseError.Legible (error : ParseError) : Prop where
  fault : error.fault.Legible
  line : ∀ source ∈ error.context, Text.Legible source.line

theorem Expectation.legible_text {expected : Expectation} (plain : expected.IsPlain) :
    Legible expected.text := by
  obtain ⟨token, fits⟩ := Expectation.exists_fitsWording plain
  rcases fits with ⟨word, same, -⟩ | ⟨mark, same, -⟩ | ⟨same | same, -⟩ | ⟨same, -⟩ | ⟨same, -⟩
  · exact same ▸ word.legible_display
  · exact same ▸ mark.legible_display
  all_goals
    rw [same]
    decide

namespace Grammar

theorem FailsAt.legible {source : Source} {cursor : Cursor} {error : ParseError}
    (legible : Legible source.text) (tokens : ∀ token ∈ cursor.rest, token.Legible)
    (h : FailsAt source cursor error) : error.Legible := by
  have first {rest : List Token} (inside : rest ⊆ cursor.rest) :
      ∀ text ∈ rest.head?.map (·.value), Legible text := by
    intro text found
    obtain ⟨token, head, rfl⟩ := Option.map_eq_some_iff.1 found
    exact (tokens token (inside (List.mem_of_mem_head? head))).value
  have shown {location : Location} :
      ∀ line ∈ SourceLine.find? source.text location, Legible line.line :=
    fun _ => legible_of_find? legible
  cases h with
  | @unstarted token _ shape =>
    have known : Legible token.value := first (List.Subset.refl _) _ (by simp [shape])
    exact ⟨known, shown⟩
  | started _ _ _ split blamed =>
    exact ⟨⟨Expectation.legible_text blamed.plain, first (split ▸ List.subset_append_right _ _)⟩,
      shown⟩
  | unclosed split => exact ⟨first (split ▸ List.subset_append_right _ _), shown⟩

end Grammar

theorem legible_of_parse_error {text : String} (legible : Legible text) {error : ParseError}
    (failed : Script.parse text = .error error) : error.Legible := by
  cases lexed : lex text with
  | error lexError =>
    rw [Grammar.parse_eq_of_lex_error lexed, Except.error.injEq] at failed
    subst failed
    exact ⟨legible_of_lex_error legible lexed, fun _ => legible_of_find? legible⟩
  | ok tokens =>
    rw [Grammar.parse_eq_of_lex_eq lexed] at failed
    obtain ⟨derivation, left, rfl, -, fails⟩ := Grammar.exists_failing_statement _ failed
    exact fails.legible legible fun token inside =>
      legible_of_lex legible lexed token (List.mem_append_right _ inside)

/-! ## Statements -/

/-- A statement of legible tokens. -/
def Statement.Legible (statement : Statement) : Prop :=
  ∀ token ∈ statement.leaves, token.Legible

theorem legible_of_parse {text : String} (legible : Legible text) {script : Script}
    (read : Script.parse text = .ok script) : ∀ statement ∈ script, statement.Legible := by
  obtain ⟨tokens, lexed, derivation, rfl, rfl⟩ := Grammar.parse_eq_ok_iff.1 read
  intro statement inside token leaf
  exact legible_of_lex legible lexed token
    (derivation.keeps.sublist.subset (List.mem_flatMap.2 ⟨statement, inside, leaf⟩))

theorem Statement.Legible.toSql {statement : Statement} (h : statement.Legible) :
    Text.Legible statement.toSql := by
  have listed {tokens : List Token} (inside : tokens ⊆ statement.leaves) :
      Text.Legible (commaSeparated (tokens.map (·.toSql))) := by
    refine legible_commaSeparated fun text known => ?_
    obtain ⟨token, member, rfl⟩ := List.mem_map.1 known
    exact (h token (inside member)).sql
  cases statement with
  | createTable name columns =>
    have defined : Text.Legible (commaSeparated (columns.map (·.toSql))) := by
      refine legible_commaSeparated fun text known => ?_
      obtain ⟨column, member, rfl⟩ := List.mem_map.1 known
      have leaf {token : Token} (of : token = column.name ∨ token = column.datatype) :
          Text.Legible token.toSql :=
        (h token (List.mem_cons_of_mem _ (List.mem_flatMap.2 ⟨column, member, by simpa using of⟩))).sql
      exact ((leaf (.inl rfl)).append (by decide)).append (leaf (.inr rfl))
    exact (((Text.Legible.append (by decide) (h name List.mem_cons_self).sql).append
      (by decide)).append defined).append (by decide)
  | insert table values =>
    exact (((Text.Legible.append (by decide) (h table List.mem_cons_self).sql).append
      (by decide)).append (listed (List.subset_cons_self _ _))).append (by decide)
  | select items source =>
    have shown : Text.Legible
        (if items.isEmpty then "" else " " ++ commaSeparated (items.map (·.toSql))) := by
      split
      · decide
      · exact .append (by decide) (listed (List.subset_append_left _ _))
    have front : Text.Legible ("SELECT" ++ _) := .append (by decide) shown
    cases source with
    | none => exact front.append (by decide)
    | some table =>
      exact front.append (.append (by decide) (h table (List.mem_append_right _ (by simp))).sql)

/-! ## Executing a statement -/

/-- A store whose cells are printed without escape characters. -/
def Store.Legible (store : Store) : Prop :=
  store.AllCells fun cell => Text.Legible cell.display

theorem Token.Legible.denotes {token : Token} (h : token.Legible) {cell : Cell}
    (denotes : token.Denotes cell) : Text.Legible cell.display := by
  cases denotes with
  | numeral => exact legible_toString_int _
  | string => exact h.value

theorem Statement.Legible.allDenote {statement : Statement} (h : statement.Legible) :
    statement.AllDenote fun cell => Text.Legible cell.display := by
  intro token inside cell denotes
  cases statement with
  | createTable => cases inside
  | insert => exact (h token (List.mem_cons_of_mem _ inside)).denotes denotes
  | select => exact (h token (List.mem_append_left _ inside)).denotes denotes

theorem Store.Legible.afterAll {store : Store} (h : store.Legible) {script : List Statement}
    (legible : ∀ statement ∈ script, statement.Legible) : (store.afterAll script).Legible :=
  Store.AllCells.afterAll h fun statement inside => (legible statement inside).allDenote

theorem Results.legible_report {results : Results}
    (names : ∀ column ∈ results.columns, Legible column.name)
    (cells : AllCells (fun cell => Legible cell.display) results.rows) : Legible results.report := by
  have grid {line : List Char} (inside : line ∈ Text.gridLines (results.columns.map (·.name))
      (results.rows.map (·.map (·.display)))) : '\x1b' ∉ line := by
    intro escape
    rcases Text.mem_gridLines inside escape with own | ⟨record, member, text, inside, escape⟩
    · exact absurd own (by decide)
    rcases List.mem_cons.1 member with rfl | member
    · obtain ⟨column, known, rfl⟩ := List.mem_map.1 inside
      exact names column known escape
    · obtain ⟨row, known, rfl⟩ := List.mem_map.1 member
      obtain ⟨cell, stored, rfl⟩ := List.mem_map.1 inside
      exact cells row known cell stored escape
  have count : Legible (rowCount results.rows.length) := by
    have ending : Legible (if results.rows.length = 1 then "" else "s") := by
      split <;> decide
    exact (((Text.Legible.append (by decide) (legible_toString _)).append (by decide)).append
      ending).append (by decide)
  refine .append (.append ?_ count) (by decide)
  rw [Legible, String.toList_ofList]
  intro escape
  obtain ⟨line, inside, escape⟩ := List.mem_flatMap.1 escape
  split at inside
  · cases inside
  · rcases List.mem_append.1 escape with escape | feed
    · exact grid inside escape
    · exact absurd feed (by decide)

/-- What a statement prints. -/
theorem legible_report {store after : Store} (legible : store.Legible) {statement : Statement}
    (h : statement.Legible) {outcome : Outcome} (done : store.execute statement = .ok outcome after) :
    Legible outcome.report := by
  cases Store.execute_eq_ok_iff.1 done with
  | create | insert =>
    show Legible "ok\n"
    decide
  | @select items source results selected =>
    have cells := Store.AllCells.yielded legible h.allDenote selected
    refine Results.legible_report (fun column inside => ?_) cells
    obtain ⟨table, selected, -⟩ := Store.select_eq_ok selected
    obtain ⟨item, known, same⟩ := name_of_mem_columns selected inside
    exact same ▸ (h item (List.mem_append_left _ known)).value

theorem DatatypeFault.legible_detail {fault : DatatypeFault} (h : Legible fault.quoted) :
    Legible fault.detail := by
  cases fault with
  | misfit text datatype =>
    have name : Legible datatype.name := by cases datatype <;> decide
    exact (((Text.Legible.append (by decide) h).append (by decide)).append name).append (by decide)
  | unknownType | notInteger | notValue =>
    exact (Text.Legible.append (by decide) h).append (by decide)

theorem ExecutionError.legible_message {error : ExecutionError}
    (h : ∀ text ∈ error.quoted?, Legible text) : Legible error.message := by
  cases error with
  | unknownTable name | unknownColumn name => exact .append (by decide) (h name rfl)
  | invalidDatatype fault => exact .append (by decide) (fault.legible_detail (h fault.quoted rfl))
  | valueCount expected found =>
    exact (((Text.Legible.append (by decide) (legible_toString _)).append (by decide)).append
      (legible_toString _)).append (by decide)
  | outOfBounds position length =>
    exact ((Text.Legible.append (by decide) (legible_toString _)).append (by decide)).append
      (legible_toString _)

/-- Why a statement fails. -/
theorem legible_of_failure {store after : Store} {statement : Statement} (h : statement.Legible)
    {error : ExecutionError} (failed : store.execute statement = .error error after) :
    Legible error.message := by
  refine ExecutionError.legible_message fun text quoted => ?_
  obtain ⟨token, leaf, rfl⟩ := quotes_of_execute failed text quoted
  exact (h token leaf).value

end SqlShell
