import SqlShell.Proofs.Store.Integers
import SqlShell.Proofs.Text.Grid
import SqlShell.Session.Report

/-!
# The table of a selection

What a selection prints is a table of its results with the number of rows below, or that number alone
when it has no column.
-/

namespace SqlShell

open Text

/-- The control characters. -/
def IsControl (c : Char) : Prop :=
  c.toNat < 0x20 ∨ (0x7F ≤ c.toNat ∧ c.toNat < 0xA0)

/-- The names of the columns. -/
def Results.header (results : Results) : List String :=
  results.columns.map (·.name)

/-- The cells as they are printed. -/
def Results.texts (results : Results) : List (List String) :=
  results.rows.map (·.map (·.display))

theorem rowCount_eq (rows : Nat) :
    rowCount rows = if rows = 1 then "(1 row)" else "(" ++ toString rows ++ " rows)" := by
  unfold rowCount
  split
  · next single => subst single; decide
  · simp [String.append_assoc]

theorem no_feed_rowCount (rows : Nat) : '\n' ∉ (rowCount rows).toList := by
  have digits : '\n' ∉ Nat.toDigits 10 rows := not_mem_toDigits (by decide) rows
  rw [rowCount]
  split <;> simp [digits]

/-- What a selection prints lays its results out as a table. Below the lines of the table, or alone if
there is no column, stands the number of rows. -/
theorem Results.report_is_a_table (results : Results) :
    let count := results.rows.length
    let last := if count = 1 then "(1 row)" else "(" ++ toString count ++ " rows)"
    (results.columns = [] → results.report = last ++ "\n") ∧
      (results.columns ≠ [] → (∀ row ∈ results.rows, row.length = results.columns.length) →
        (∀ record ∈ results.header :: results.texts, ∀ text ∈ record, ∀ c ∈ text.toList,
          ¬ IsControl c) →
        ∃ widths first body,
          let lines := first :: ruleOver widths :: body
          results.report.toList = (lines ++ [last.toList]).flatMap (· ++ ['\n']) ∧
            (∀ line ∈ lines ++ [last.toList], '\n' ∉ line) ∧
            (lines ++ [last.toList]).length = count + 3 ∧
            (∀ line ∈ lines, line.head? = some '|' ∧ line.getLast? = some '|' ∧
              width line = lineWidth widths) ∧
            IsTable widths results.header results.texts first body ∧
            ((∀ record ∈ results.header :: results.texts, ∀ text ∈ record, Bare text.toList) →
              (first :: body).map readLine = results.header :: results.texts)) := by
  intro count last
  have counted : rowCount count = last := rowCount_eq count
  refine ⟨fun none => ?_, fun some even plain => ?_⟩
  · simp [report, none, counted, count]
  have nonempty : results.header ≠ [] := by simpa [header] using some
  have even' : ∀ row ∈ results.texts, row.length = results.header.length := by
    simpa [texts, header] using even
  have free : ∀ record ∈ results.header :: results.texts, ∀ text ∈ record, '\n' ∉ text.toList :=
    fun record inside text inside' feed => plain record inside text inside' _ feed (.inl (by decide))
  obtain ⟨widths, first, body, shape, table⟩ := gridLines_isTable nonempty even' free
  have bare_last : '\n' ∉ last.toList := counted ▸ no_feed_rowCount count
  refine ⟨widths, first, body, ?_, ?_, ?_, fun _ => table.rectangular, table,
    map_readLine table.filled⟩
  · have grid : gridLines (results.columns.map (·.name)) (results.rows.map (·.map (·.display))) =
        first :: ruleOver widths :: body := shape
    have laid : results.columns.isEmpty = false := by simpa using some
    simp [report, laid, grid, counted, count]
  · intro line inside
    rcases List.mem_append.1 inside with inside | inside
    · exact table.no_feed free inside
    · rwa [List.mem_singleton.1 inside]
  · have same := table.filled.length_eq
    simp [texts, count] at same ⊢
    omega

/-- A table with a name that is wider than it is long and with a cell that is empty. -/
theorem table_of_wide_name :
    let results : Results :=
      ⟨[⟨"id", .int⟩, ⟨"名前", .text⟩], [[.int 22, .text ""], [.int (-1), .text "Phil"]]⟩
    let records := [["id", "名前"], ["22", ""], ["-1", "Phil"]]
    results.columns ≠ [] ∧ (∀ row ∈ results.rows, row.length = results.columns.length) ∧
      results.header :: results.texts = records ∧
      (∀ record ∈ records, ∀ text ∈ record, ∀ c ∈ text.toList, ¬ IsControl c) ∧
      (∀ record ∈ records, ∀ text ∈ record, Bare text.toList) ∧
      ∃ widths first body,
        results.report.toList =
          (first :: ruleOver widths :: body ++ ["(2 rows)".toList]).flatMap (· ++ ['\n']) ∧
        (first :: body).map readLine = records := by
  intro results records
  have some : results.columns ≠ [] := by decide
  have even : ∀ row ∈ results.rows, row.length = results.columns.length := by decide
  have shown : results.header :: results.texts = records := by decide
  have plain : ∀ record ∈ records, ∀ text ∈ record, ∀ c ∈ text.toList, ¬ IsControl c := by
    simp [records, IsControl]
  have bare : ∀ record ∈ records, ∀ text ∈ record, Bare text.toList := by
    have letters : Bare "id".toList ∧ Bare "名前".toList ∧ Bare "22".toList ∧ Bare "".toList ∧
        Bare "-1".toList ∧ Bare "Phil".toList := by
      refine ⟨?_, ?_, ?_, ?_, ?_, ?_⟩ <;> constructor <;> decide
    simpa [records, and_assoc] using letters
  have last : (if results.rows.length = 1 then "(1 row)"
      else "(" ++ toString results.rows.length ++ " rows)") = "(2 rows)" := by decide
  obtain ⟨widths, first, body, report, -, -, -, -, read⟩ :=
    results.report_is_a_table.2 some even (shown ▸ plain)
  exact ⟨some, even, shown, plain, bare, widths, first, body, last ▸ report,
    (read (shown ▸ bare)).trans shown⟩

end SqlShell
