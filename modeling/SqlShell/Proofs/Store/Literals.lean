import SqlShell.Store.Execute
import Mathlib.Data.List.Forall2

/-!
# What literals stand for

`Token.Denotes token cell` says that a literal stands for a cell: a numeral for the 32-bit integer
that it spells, a string for its text. No other token stands for anything. The conversions of
`SqlShell.Store.Cell` succeed exactly where this relation holds, and the row that an `INSERT` makes
is the row of cells that its literals stand for.
-/

namespace SqlShell

/-- The cell that a literal stands for. -/
inductive Token.Denotes (token : Token) : Cell → Prop where
  | numeral {value : Int32} (numeric : token.kind = .numeric)
      (spelled : integer? token.value = some value) : token.Denotes (.int value)
  | string (quoted : token.kind = .string) : token.Denotes (.text token.value)

/-- Whether a literal may be stored in a column of some type. -/
def Token.Fits (token : Token) (datatype : Datatype) : Prop :=
  ∃ cell, token.Denotes cell ∧ cell.datatype = datatype

/-! ## Conversions -/

theorem ofNumeral_eq_ok_iff {token : Token} {cell : Cell} :
    Cell.ofNumeral token = .ok cell ↔ ∃ value, integer? token.value = some value ∧
      cell = .int value := by
  simp only [Cell.ofNumeral]
  split
  · next value spelled =>
    constructor
    · rintro ⟨⟩
      exact ⟨value, spelled, rfl⟩
    · rintro ⟨value', spelled', rfl⟩
      rw [spelled] at spelled'
      cases spelled'
      rfl
  · next unspelled => simp [unspelled]

theorem ofConstant_eq_ok_iff {token : Token} {cell : Cell} :
    Cell.ofConstant token = .ok cell ↔ token.Denotes cell := by
  constructor
  · intro made
    simp only [Cell.ofConstant] at made
    split at made
    · next numeric =>
      obtain ⟨value, spelled, rfl⟩ := ofNumeral_eq_ok_iff.1 made
      exact .numeral numeric spelled
    · next quoted =>
      cases made
      exact .string quoted
    · cases made
  · intro denotes
    cases denotes with
    | numeral numeric spelled =>
      simp only [Cell.ofConstant, numeric]
      exact ofNumeral_eq_ok_iff.2 ⟨_, spelled, rfl⟩
    | string quoted => simp only [Cell.ofConstant, quoted]

theorem forColumn_eq_ok_iff {datatype : Datatype} {token : Token} {cell : Cell} :
    Cell.forColumn datatype token = .ok cell ↔ token.Denotes cell ∧ cell.datatype = datatype := by
  constructor
  · intro made
    simp only [Cell.forColumn] at made
    split at made
    · next numeric =>
      obtain ⟨value, spelled, rfl⟩ := ofNumeral_eq_ok_iff.1 made
      exact ⟨.numeral numeric spelled, rfl⟩
    · next quoted =>
      cases made
      exact ⟨.string quoted, rfl⟩
    · cases made
  · rintro ⟨denotes, rfl⟩
    cases denotes with
    | numeral numeric spelled =>
      simp only [Cell.forColumn, Cell.datatype, numeric]
      exact ofNumeral_eq_ok_iff.2 ⟨_, spelled, rfl⟩
    | string quoted => simp only [Cell.forColumn, Cell.datatype, quoted]

theorem Datatype.name_injective : Function.Injective Datatype.name := by
  intro a b same
  cases a <;> cases b <;> simp [name] at same ⊢

theorem ofToken_eq_ok_iff {token : Token} {datatype : Datatype} :
    Datatype.ofToken token = .ok datatype ↔ datatype.name = token.value := by
  simp only [Datatype.ofToken, Datatype.ofName?]
  split
  · next found =>
    split at found
    · next int => cases found; cases datatype <;> simp [Datatype.name, int]
    · next text => cases found; cases datatype <;> simp [Datatype.name, text]
    · cases found
  · next unknown =>
    split at unknown
    · cases unknown
    · cases unknown
    · next int text => cases datatype <;> simp [Datatype.name, Ne.symm int, Ne.symm text]

/-! ## Sequences -/

section

variable {ε α β : Type} {f : α → Except ε β}

theorem mapM_eq_ok_iff {as : List α} {bs : List β} :
    as.mapM f = .ok bs ↔ List.Forall₂ (fun a b => f a = .ok b) as bs := by
  induction as generalizing bs with
  | nil => cases bs <;> simp [pure, Except.pure]
  | cons a as ih =>
    rw [List.mapM_cons]
    cases first : f a with
    | error e => cases bs <;> simp [bind, Except.bind, first]
    | ok b =>
      cases rest : as.mapM f with
      | error e => cases bs <;> simp [bind, Except.bind, ← ih, rest, first]
      | ok bs' => cases bs <;> simp [bind, Except.bind, pure, Except.pure, ← ih, rest, first]

/-- What a sequence yields, its members have yielded. -/
theorem exists_of_mem_of_mapM_eq_ok {as : List α} {bs : List β} (h : as.mapM f = .ok bs) :
    ∀ b ∈ bs, ∃ a ∈ as, f a = .ok b := by
  rw [mapM_eq_ok_iff] at h
  induction h with
  | nil => simp
  | cons first _ ih =>
    intro b inside
    rcases List.mem_cons.1 inside with rfl | inside
    · exact ⟨_, List.mem_cons_self, first⟩
    · obtain ⟨a, known, made⟩ := ih b inside
      exact ⟨a, List.mem_cons_of_mem _ known, made⟩

/-- The error of a sequence is that of one of its members. -/
theorem exists_of_mapM_eq_error {as : List α} {e : ε} (h : as.mapM f = .error e) :
    ∃ a ∈ as, f a = .error e := by
  induction as with
  | nil => cases h
  | cons a as ih =>
    rw [List.mapM_cons] at h
    cases first : f a with
    | error e' =>
      rw [first] at h
      cases h
      exact ⟨a, List.mem_cons_self, first⟩
    | ok b =>
      cases rest : as.mapM f with
      | error e' =>
        rw [first, rest] at h
        cases h
        obtain ⟨a', inside, failed⟩ := ih rest
        exact ⟨a', List.mem_cons_of_mem a inside, failed⟩
      | ok bs =>
        rw [first, rest] at h
        cases h

end

theorem liftFault_eq_ok_iff {α : Type} {result : Except DatatypeFault α} {a : α} :
    liftFault result = .ok a ↔ result = .ok a := by
  cases result <;> simp [liftFault, Except.mapError]

theorem liftFault_eq_error {α : Type} {result : Except DatatypeFault α} {error : ExecutionError}
    (h : liftFault result = .error error) : ∃ fault, error = .invalidDatatype fault := by
  cases result with
  | ok a => cases h
  | error fault =>
    cases h
    exact ⟨fault, rfl⟩

/-! ## Rows and columns -/

/-- Literals make the cells that they stand for, each of its column's type. -/
theorem cellsFor_eq_ok_iff {datatypes : List Datatype} {values : List Token} {row : List Cell}
    (count : values.length = datatypes.length) :
    cellsFor datatypes values = .ok row ↔
      List.Forall₂ Token.Denotes values row ∧ row.map Cell.datatype = datatypes := by
  rw [cellsFor, mapM_eq_ok_iff]
  simp only [liftFault_eq_ok_iff, forColumn_eq_ok_iff]
  induction values generalizing datatypes row with
  | nil =>
    obtain rfl := List.length_eq_zero_iff.1 count.symm
    cases row <;> simp
  | cons value values ih =>
    cases datatypes with
    | nil => cases count
    | cons datatype datatypes =>
      cases row with
      | nil => simp
      | cons cell row =>
        simp only [List.zip_cons_cons, List.forall₂_cons, List.map_cons, List.cons.injEq,
          ih (Nat.succ.inj count)]
        tauto

theorem exists_cellsFor_iff {datatypes : List Datatype} {values : List Token}
    (count : values.length = datatypes.length) :
    (∃ row, cellsFor datatypes values = .ok row) ↔ List.Forall₂ Token.Fits values datatypes := by
  simp only [cellsFor_eq_ok_iff count]
  induction values generalizing datatypes with
  | nil =>
    obtain rfl := List.length_eq_zero_iff.1 count.symm
    exact iff_of_true ⟨[], .nil, rfl⟩ .nil
  | cons value values ih =>
    cases datatypes with
    | nil => cases count
    | cons datatype datatypes =>
      rw [List.forall₂_cons, ← ih (Nat.succ.inj count)]
      constructor
      · rintro ⟨row, denotes, types⟩
        cases denotes with
        | cons first rest =>
          obtain ⟨same, types⟩ := List.cons.inj types
          exact ⟨⟨_, first, same⟩, _, rest, types⟩
      · rintro ⟨⟨cell, first, same⟩, row, rest, types⟩
        exact ⟨cell :: row, .cons first rest, congrArg₂ List.cons same types⟩

/-- Definitions make a table that has their names and the types that they name, and no row. -/
theorem foldlM_addColumn_eq_ok_iff {definitions : List ColumnDefinition} {start table : Table} :
    definitions.foldlM Table.addColumn start = .ok table ↔
      ∃ datatypes, datatypes.map Datatype.name = definitions.map (·.datatype.value) ∧
        table = { start with
          columns := start.columns ++ definitions.map (·.name.value)
          datatypes := start.datatypes ++ datatypes } := by
  induction definitions generalizing start with
  | nil => simp [pure, Except.pure, eq_comm]
  | cons definition definitions ih =>
    rw [List.foldlM_cons]
    cases named : Datatype.ofToken definition.datatype with
    | error fault =>
      have failed : start.addColumn definition = .error (.invalidDatatype fault) := by
        rw [Table.addColumn, named]
        rfl
      rw [failed]
      refine iff_of_false nofun ?_
      rintro ⟨_ | ⟨datatype, datatypes⟩, names, -⟩
      · cases names
      · rw [ofToken_eq_ok_iff.2 (List.cons.inj names).1] at named
        cases named
    | ok datatype =>
      have added : start.addColumn definition = .ok { start with
          columns := start.columns ++ [definition.name.value]
          datatypes := start.datatypes ++ [datatype] } := by
        rw [Table.addColumn, named]
        rfl
      rw [added]
      change definitions.foldlM Table.addColumn _ = .ok table ↔ _
      rw [ih]
      rw [ofToken_eq_ok_iff] at named
      constructor
      · rintro ⟨datatypes, names, rfl⟩
        exact ⟨datatype :: datatypes, by simp [named, names], by simp⟩
      · rintro ⟨_ | ⟨datatype', datatypes⟩, names, rfl⟩
        · cases names
        · obtain ⟨named', names⟩ := List.cons.inj names
          have same : datatype' = datatype :=
            Datatype.name_injective (named'.trans named.symm)
          exact ⟨datatypes, names, by simp [same]⟩

theorem ofDefinitions_eq_ok_iff {definitions : List ColumnDefinition} {table : Table} :
    Table.ofDefinitions definitions = .ok table ↔
      table.columns = definitions.map (·.name.value) ∧
        table.datatypes.map Datatype.name = definitions.map (·.datatype.value) ∧
        table.rows = #[] := by
  rw [Table.ofDefinitions, foldlM_addColumn_eq_ok_iff]
  constructor
  · rintro ⟨datatypes, names, rfl⟩
    exact ⟨rfl, names, rfl⟩
  · rintro ⟨columns, names, rows⟩
    exact ⟨table.datatypes, names, by simp [← columns, ← rows]⟩

theorem exists_ofDefinitions_iff {definitions : List ColumnDefinition} :
    (∃ table, Table.ofDefinitions definitions = .ok table) ↔
      ∀ definition ∈ definitions,
        definition.datatype.value = "int" ∨ definition.datatype.value = "text" := by
  simp only [ofDefinitions_eq_ok_iff]
  constructor
  · rintro ⟨table, -, names, -⟩ definition inside
    have named : definition.datatype.value ∈ table.datatypes.map Datatype.name :=
      names ▸ List.mem_map_of_mem inside
    obtain ⟨datatype, -, name⟩ := List.mem_map.1 named
    cases datatype with
    | int => exact .inl name.symm
    | text => exact .inr name.symm
  · intro known
    have types : ∃ datatypes : List Datatype,
        datatypes.map Datatype.name = definitions.map (·.datatype.value) := by
      induction definitions with
      | nil => exact ⟨[], rfl⟩
      | cons definition definitions ih =>
        obtain ⟨datatypes, names⟩ := ih fun d inside => known d (List.mem_cons_of_mem _ inside)
        rcases known definition List.mem_cons_self with int | text
        · exact ⟨.int :: datatypes, congrArg₂ List.cons int.symm names⟩
        · exact ⟨.text :: datatypes, congrArg₂ List.cons text.symm names⟩
    obtain ⟨datatypes, names⟩ := types
    exact ⟨⟨_, datatypes, #[]⟩, rfl, names, rfl⟩

end SqlShell
