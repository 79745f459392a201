import SqlShell.Proofs.Store.Integers
import SqlShell.Proofs.Store.Provenance

/-!
# What source texts put into a store

A store could hold any 32-bit integer, but no numeral has a sign in front, so a text can spell only
the integers from zero on. `Cell.Spelled` says that a cell is a text or such an integer.

Well-formed statements keep all cells of a store spelled, and every statement of a script that a text
holds is well formed. So the stores that source texts make hold spelled cells only
(`Store.Textual.afterTexts`), and so do the results of the selections in those texts.
-/

namespace SqlShell

open Token (IsNumeral)

/-! ## Integers -/

theorem toInt_nonneg_of_isNumeral {text : String} {value : Int32} (numeral : IsNumeral text.toList)
    (spelled : integer? text = some value) : 0 ≤ value.toInt := by
  obtain ⟨n, same, -⟩ := (integer?_eq_some_iff.1 spelled).isDecimal numeral
  rw [same]
  exact Int.natCast_nonneg n

/-! ## Cells -/

/-- Cells that a literal of a source text can stand for. -/
def Cell.Spelled : Cell → Prop
  | .int value => 0 ≤ value.toInt
  | .text _ => True

def AllSpelled (rows : List (List Cell)) : Prop :=
  ∀ row ∈ rows, ∀ cell ∈ row, cell.Spelled

theorem spelled_of_denotes {token : Token} {cell : Cell} (h : token.IsExpression)
    (denotes : token.Denotes cell) : cell.Spelled := by
  cases denotes with
  | numeral numeric spelled =>
    rcases h with kind | kind | ⟨-, numeral⟩
    · cases numeric.symm.trans kind
    · cases numeric.symm.trans kind
    · exact toInt_nonneg_of_isNumeral numeral spelled
  | string => trivial

theorem Statement.WellFormed.allDenote {statement : Statement} (h : statement.WellFormed) :
    statement.AllDenote Cell.Spelled := by
  intro token inside cell denotes
  cases statement with
  | createTable => cases inside
  | insert => exact spelled_of_denotes (h.2 token inside) denotes
  | select => exact spelled_of_denotes (h.1 token inside) denotes

/-! ## Stores -/

/-- Stores that source texts make: well typed, with spelled cells. -/
structure Store.Textual (store : Store) : Prop where
  typed : store.WellTyped
  spelled : ∀ name table, store.table? name = some table → AllSpelled table.rows.toList

theorem Store.textual_empty : Store.empty.Textual where
  typed := Store.wellTyped_afterAll []
  spelled := Store.allCells_empty

theorem Store.Textual.afterAll {store : Store} (h : store.Textual) {script : Script}
    (wellFormed : script.WellFormed) : (store.afterAll script).Textual where
  typed := Store.afterAll_induction Store.Step.wellTyped h.typed script
  spelled := Store.AllCells.afterAll h.spelled fun statement inside =>
    (wellFormed statement inside).allDenote

theorem Store.Textual.select {store : Store} (h : store.Textual) {items : List Token}
    {source : Option Token} {results : Results} (wellFormed : (Statement.select items source).WellFormed)
    (selected : store.select items source = .ok results) : AllSpelled results.rows :=
  Store.AllCells.yielded h.spelled wellFormed.allDenote selected

/-! ## Texts -/

/-- The store after the statements of a text, those that fail included. A text that holds no script
changes nothing. -/
def Store.afterText (store : Store) (text : String) : Store :=
  match Script.parse text with
  | .ok script => store.afterAll script
  | .error _ => store

/-- The store after texts in order. -/
def Store.afterTexts (store : Store) (texts : List String) : Store :=
  texts.foldl Store.afterText store

theorem Store.Textual.afterTexts {store : Store} (h : store.Textual) (texts : List String) :
    (store.afterTexts texts).Textual := by
  induction texts generalizing store with
  | nil => exact h
  | cons text texts ih =>
    apply ih
    rw [Store.afterText]
    split
    · next script read => exact h.afterAll (Script.wellFormed_of_parse read)
    · exact h

end SqlShell
