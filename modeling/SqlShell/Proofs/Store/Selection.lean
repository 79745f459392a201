import SqlShell.Proofs.Store.WellTyped

/-!
# A selection works item by item

The header and the rows of a selection are put together in loops over its items. On a well-typed
table they come apart again: to select two lists of items one behind the other is to select each and
to lay the results side by side (`Table.WellTyped.select_append`), whichever of the two fails first.
With what a single item comes to (`Table.Picks`) this settles every selection.

A selection without a table works on `Table.single`, which is well typed too.
-/

namespace SqlShell

/-- One result laid to the right of another: the columns of both, and each row of the one followed
by the row of the other at the same place. -/
def Results.beside (left right : Results) : Results :=
  ⟨left.columns ++ right.columns, List.zipWith (· ++ ·) left.rows right.rows⟩

/-! ## Sequences -/

section

variable {ε α β : Type} {f : α → Except ε β} {front back : List α}

theorem mapM_append_of_error {e : ε} (h : front.mapM f = .error e) :
    (front ++ back).mapM f = .error e := by
  rw [List.mapM_append, h]
  rfl

theorem mapM_append_of_ok {bs : List β} (h : front.mapM f = .ok bs) :
    (front ++ back).mapM f = (bs ++ ·) <$> back.mapM f := by
  rw [List.mapM_append, h]
  cases back.mapM f <;> rfl

end

theorem forall₂_zipWith {α β γ δ : Type} {R : α → β → Prop} {S : α → γ → Prop} {T : α → δ → Prop}
    {g : β → γ → δ} (joined : ∀ {a b c}, R a b → S a c → T a (g b c)) {as : List α} {bs : List β}
    {cs : List γ} (left : List.Forall₂ R as bs) (right : List.Forall₂ S as cs) :
    List.Forall₂ T as (List.zipWith g bs cs) := by
  induction left generalizing cs with
  | nil => exact .nil
  | cons first _ ih =>
    cases right with
    | cons first' rest' => exact .cons (joined first first') (ih rest')

/-! ## Literals -/

theorem Token.Denotes.unnamed {token : Token} {cell : Cell} (h : token.Denotes cell) :
    token.kind ≠ .identifier := by
  cases h with
  | numeral numeric => rw [numeric]; nofun
  | string quoted => rw [quoted]; nofun

theorem Token.Denotes.unique {token : Token} {cell cell' : Cell} (h : token.Denotes cell)
    (h' : token.Denotes cell') : cell = cell' := by
  have made := ofConstant_eq_ok_iff.2 h
  rw [ofConstant_eq_ok_iff.2 h'] at made
  cases made
  rfl

/-! ## Lists of items -/

namespace Table

variable {table : Table} {items : List Token}

/-- Items are selected from left to right, and the first that cannot be selected decides. -/
theorem WellTyped.select_append (typed : table.WellTyped) (front back : List Token) :
    table.select (front ++ back) = do
      let left ← table.select front
      let right ← table.select back
      return left.beside right := by
  cases leftParts : front.mapM table.resolve with
  | error error =>
    rw [select_of_unresolved leftParts, select_of_unresolved (mapM_append_of_error leftParts)]
    rfl
  | ok parts =>
    obtain ⟨rows, read, -⟩ := typed.exists_rows (delivers_of_resolved leftParts)
    have wholeParts : (front ++ back).mapM table.resolve =
        (parts ++ ·) <$> back.mapM table.resolve := mapM_append_of_ok leftParts
    rw [select_of_rows leftParts read]
    cases rightParts : back.mapM table.resolve with
    | error error =>
      rw [rightParts] at wholeParts
      rw [select_of_unresolved rightParts, select_of_unresolved wholeParts]
      rfl
    | ok parts' =>
      obtain ⟨rows', read', -⟩ := typed.exists_rows (delivers_of_resolved rightParts)
      rw [rightParts] at wholeParts
      -- the inner loop, over the parts of a row, is cut at the same place in every row
      have joined : List.Forall₂ (fun row cells =>
          (parts ++ parts').mapM (·.2.cell row) = .ok cells) table.rows.toList
            (List.zipWith (· ++ ·) rows rows') :=
        forall₂_zipWith (fun one other => by rw [mapM_append_of_ok one, other]; rfl)
          (mapM_eq_ok_iff.1 read) (mapM_eq_ok_iff.1 read')
      rw [select_of_rows rightParts read', select_of_rows wholeParts (mapM_eq_ok_iff.2 joined),
        List.map_append]
      rfl

/-- Every selection has as many rows as there are in the table. -/
theorem WellTyped.rows_length (typed : table.WellTyped) {results : Results}
    (h : table.select items = .ok results) : results.rows.length = table.rows.size := by
  rcases typed.select items with ⟨error, failed, -⟩ | ⟨results', selected, -, count, -⟩
  · rw [failed] at h
    cases h
  · rw [selected] at h
    cases h
    exact count

/-! ## One item -/

/-- What one item selects from a table. -/
inductive Picks (table : Table) (item : Token) : Except ExecutionError Results → Prop where
  /-- A name selects the first column called so, from every row in order. -/
  | column {position : Nat} {datatype : Datatype} {cells : List Cell}
      (named : item.kind = .identifier)
      (here : table.columns[position]? = some item.value)
      (first : ∀ earlier < position, table.columns[earlier]? ≠ some item.value)
      (typed : table.datatypes[position]? = some datatype)
      (taken : List.Forall₂ (fun row cell => row[position]? = some cell) table.rows.toList cells) :
      Picks table item (.ok ⟨[⟨item.value, datatype⟩], cells.map ([·])⟩)
  /-- A name that no column has is an error. -/
  | unknown (named : item.kind = .identifier) (nowhere : item.value ∉ table.columns) :
      Picks table item (.error (.unknownColumn item.value))
  /-- A literal that stands for a cell selects this cell for every row. -/
  | constant {cell : Cell} (denotes : item.Denotes cell) :
      Picks table item
        (.ok ⟨[⟨item.value, cell.datatype⟩], table.rows.toList.map fun _ => [cell]⟩)
  /-- Any other literal is an error. -/
  | invalid {fault : DatatypeFault} (unnamed : item.kind ≠ .identifier)
      (nothing : ∀ cell, ¬ item.Denotes cell) :
      Picks table item (.error (.invalidDatatype fault))

theorem position?_eq_some {name : String} {position : Nat}
    (h : table.position? name = some position) :
    table.columns[position]? = some name ∧
      ∀ earlier < position, table.columns[earlier]? ≠ some name := by
  rw [position?, List.findIdx?_eq_some_iff_getElem] at h
  obtain ⟨inside, here, first⟩ := h
  refine ⟨by simpa [List.getElem?_eq_getElem inside] using here, fun earlier before there => ?_⟩
  obtain ⟨within, same⟩ := List.getElem?_eq_some_iff.1 there
  simpa [same] using first earlier before

theorem position?_eq_none {name : String} (h : table.position? name = none) :
    name ∉ table.columns := by
  rw [position?, List.findIdx?_eq_none_iff] at h
  intro inside
  simpa using h name inside

theorem mapM_cell_singleton {row : List Cell} {part : Column × Projection} {cell : Cell}
    (h : part.2.cell row = .ok cell) : [part].mapM (·.2.cell row) = .ok [cell] :=
  mapM_eq_ok_iff.2 (.cons h .nil)

/-- A column of a table has a cell in every row. -/
theorem exists_cells {position : Nat} {rows : List (List Cell)}
    (h : ∀ row ∈ rows, position < row.length) :
    ∃ cells, List.Forall₂ (fun row cell => row[position]? = some cell) rows cells := by
  induction rows with
  | nil => exact ⟨[], .nil⟩
  | cons row rows ih =>
    obtain ⟨cells, taken⟩ := ih fun other inside => h other (List.mem_cons_of_mem _ inside)
    have inside := h row List.mem_cons_self
    exact ⟨row[position] :: cells, .cons (List.getElem?_eq_getElem inside) taken⟩

theorem WellTyped.picks_of_name (typed : table.WellTyped) {item : Token}
    (named : item.kind = .identifier) : table.Picks item (table.select [item]) := by
  cases found : table.position? item.value with
  | none =>
    have unresolved : table.resolve item = .error (.unknownColumn item.value) := by
      simp only [resolve, named, found, if_true]
    rw [select_of_unresolved (by rw [List.mapM_cons, unresolved]; rfl)]
    exact .unknown named (position?_eq_none found)
  | some position =>
    obtain ⟨here, first⟩ := position?_eq_some found
    obtain ⟨inTypes, inRows⟩ := typed.position_lt found
    have resolved : table.resolve item =
        .ok (⟨item.value, table.datatypes[position]⟩, .column position) := by
      simp only [resolve, named, found, if_true, entry_of_lt inTypes]
      rfl
    obtain ⟨cells, taken⟩ := exists_cells inRows
    rw [select_of_rows (mapM_eq_ok_iff.2 (.cons resolved .nil)) (mapM_eq_ok_iff.2 ?_)]
    · exact .column named here first (List.getElem?_eq_getElem inTypes) taken
    · rw [List.forall₂_map_right_iff]
      refine taken.imp fun row cell there => mapM_cell_singleton ?_
      simp only [Projection.cell, entry, there]

/-- An item that is no name makes the same cell on every row, or none at all. -/
theorem select_constant {item : Token} (unnamed : item.kind ≠ .identifier) :
    table.select [item] = (liftFault (Cell.ofConstant item)).map fun cell =>
      ⟨[⟨item.value, cell.datatype⟩], table.rows.toList.map fun _ => [cell]⟩ := by
  cases made : Cell.ofConstant item with
  | error fault =>
    have unresolved : table.resolve item = .error (.invalidDatatype fault) := by
      simp only [resolve, unnamed, if_false, made]
      rfl
    rw [select_of_unresolved (by rw [List.mapM_cons, unresolved]; rfl)]
    rfl
  | ok cell =>
    have resolved : table.resolve item = .ok (⟨item.value, cell.datatype⟩, .constant cell) := by
      simp only [resolve, unnamed, if_false, made]
      rfl
    rw [select_of_rows (mapM_eq_ok_iff.2 (.cons resolved .nil)) (mapM_eq_ok_iff.2 ?_)]
    · rfl
    · rw [List.forall₂_map_right_iff, List.forall₂_same]
      exact fun row _ => mapM_cell_singleton rfl

theorem picks_of_literal {item : Token} (unnamed : item.kind ≠ .identifier) :
    table.Picks item (table.select [item]) := by
  rw [select_constant unnamed]
  cases made : Cell.ofConstant item with
  | error fault =>
    refine .invalid unnamed fun cell denotes => ?_
    rw [ofConstant_eq_ok_iff.2 denotes] at made
    cases made
  | ok cell => exact .constant (ofConstant_eq_ok_iff.1 made)

theorem WellTyped.picks (typed : table.WellTyped) (item : Token) :
    table.Picks item (table.select [item]) := by
  by_cases named : item.kind = .identifier
  · exact typed.picks_of_name named
  · exact picks_of_literal named

/-! ## Without a table -/

section

variable {item : Token} {result : Except ExecutionError Results}
  (picked : Table.single.Picks item result)

include picked

theorem Picks.single_of_name (named : item.kind = .identifier) :
    result = .error (.unknownColumn item.value) := by
  cases picked with
  | column _ here => cases here
  | unknown => rfl
  | constant denotes => exact absurd named denotes.unnamed
  | invalid unnamed => exact absurd named unnamed

theorem Picks.single_of_denotes {cell : Cell} (denotes : item.Denotes cell) :
    result = .ok ⟨[⟨item.value, cell.datatype⟩], [[cell]]⟩ := by
  cases picked with
  | column named => exact absurd named denotes.unnamed
  | unknown named => exact absurd named denotes.unnamed
  | constant denotes' =>
    obtain rfl := denotes.unique denotes'
    rfl
  | invalid _ nothing => exact absurd denotes (nothing cell)

theorem Picks.single_of_undenoting (unnamed : item.kind ≠ .identifier)
    (nothing : ∀ cell, ¬ item.Denotes cell) : ∃ fault, result = .error (.invalidDatatype fault) := by
  cases picked with
  | column named => exact absurd named unnamed
  | unknown named => exact absurd named unnamed
  | constant denotes => exact absurd denotes (nothing _)
  | @invalid fault => exact ⟨fault, rfl⟩

end

end Table

/-! ## The store -/

namespace Store

variable {store : Store} {source : Option Token}

/-- A selection fails for want of its table, or works on a well-typed one. -/
theorem WellTyped.selects_from (typed : store.WellTyped) (source : Option Token) :
    (∃ error, ∀ items, store.select items source = .error error) ∨
      ∃ table : Table, table.WellTyped ∧
        ∀ items, store.select items source = table.select items := by
  cases source with
  | none => exact .inr ⟨.single, Table.single_wellTyped, fun items => store.select_eq items none⟩
  | some name =>
    cases found : store.table? name.value with
    | none =>
      refine .inl ⟨.unknownTable name.value, fun items => ?_⟩
      simp only [store.select_eq, found]
    | some table =>
      refine .inr ⟨table, typed _ table found, fun items => ?_⟩
      simp only [store.select_eq, found]

theorem WellTyped.select_append (typed : store.WellTyped) (front back : List Token)
    (source : Option Token) :
    store.select (front ++ back) source = do
      let left ← store.select front source
      let right ← store.select back source
      return left.beside right := by
  rcases typed.selects_from source with ⟨error, fails⟩ | ⟨table, ok, same⟩
  · rw [fails, fails]
    rfl
  · rw [same, same, same]
    exact ok.select_append front back

theorem WellTyped.rows_length_eq (typed : store.WellTyped) {items items' : List Token}
    {results results' : Results} (h : store.select items source = .ok results)
    (h' : store.select items' source = .ok results') :
    results.rows.length = results'.rows.length := by
  rcases typed.selects_from source with ⟨error, fails⟩ | ⟨table, ok, same⟩
  · rw [fails] at h
    cases h
  · rw [same] at h h'
    exact (ok.rows_length h).trans (ok.rows_length h').symm

end Store

/-- After any run, a selection works item by item. Whatever it selects from,

* it succeeds with two lists of items one behind the other if and only if it succeeds with each, and
  then has the columns of the one and of the other, as many rows as either, and in each row that of
  the one followed by that of the other;
* it fails as the first list does, or as the second does if only that one fails.

One item selects from a table what `Table.Picks` says. Without a table a name is an unknown column,
a literal that stands for a cell makes one row of it, and any other literal is an error. -/
theorem selection_works_item_by_item (statements : List Statement) :
    let store := Store.empty.afterAll statements
    (∀ source front back,
      ((∃ whole, store.select (front ++ back) source = .ok whole) ↔
        (∃ left, store.select front source = .ok left) ∧
          ∃ right, store.select back source = .ok right) ∧
      (∀ left right whole, store.select front source = .ok left →
        store.select back source = .ok right → store.select (front ++ back) source = .ok whole →
          whole.columns = left.columns ++ right.columns ∧
          whole.rows.length = left.rows.length ∧ whole.rows.length = right.rows.length ∧
          ∀ (r : Nat) row row', left.rows[r]? = some row → right.rows[r]? = some row' →
            whole.rows[r]? = some (row ++ row')) ∧
      (∀ error, store.select front source = .error error →
        store.select (front ++ back) source = .error error) ∧
      ∀ left error, store.select front source = .ok left →
        store.select back source = .error error →
          store.select (front ++ back) source = .error error) ∧
    (∀ name table item, store.table? name.value = some table →
      table.Picks item (store.select [item] (some name))) ∧
    (∀ item, item.kind = .identifier →
      store.select [item] none = .error (.unknownColumn item.value)) ∧
    (∀ item cell, item.Denotes cell →
      store.select [item] none = .ok ⟨[⟨item.value, cell.datatype⟩], [[cell]]⟩) ∧
    ∀ item, item.kind ≠ .identifier → (∀ cell, ¬ item.Denotes cell) →
      ∃ fault, store.select [item] none = .error (.invalidDatatype fault) := by
  intro store
  have typed : store.WellTyped := Store.wellTyped_afterAll statements
  have unsourced (item : Token) : Table.single.Picks item (store.select [item] none) :=
    store.select_eq [item] none ▸ Table.single_wellTyped.picks item
  refine ⟨fun source front back => ?_, fun name table item found => ?_, fun item named => ?_,
    fun item cell denotes => ?_, fun item unnamed nothing => ?_⟩
  · have joined := typed.select_append front back source
    cases left : store.select front source with
    | error error =>
      rw [joined, left]
      exact ⟨by simp [bind, Except.bind], nofun, fun _ same => by cases same; rfl, nofun⟩
    | ok front =>
      cases right : store.select back source with
      | error error =>
        rw [joined, left, right]
        exact ⟨by simp [bind, Except.bind], nofun, nofun, fun _ _ _ same => by cases same; rfl⟩
      | ok back =>
        rw [left, right] at joined
        refine ⟨by simp [joined, bind, Except.bind, pure, Except.pure], ?_, nofun, nofun⟩
        rintro _ _ whole ⟨⟩ ⟨⟩ selected
        refine ⟨?_, typed.rows_length_eq selected left, typed.rows_length_eq selected right, ?_⟩
        all_goals
          rw [joined] at selected
          cases selected
        · rfl
        · intro r row row' here there
          simp only [Results.beside, List.getElem?_zipWith, here, there]
  · simpa only [store.select_eq, found] using (typed _ table found).picks item
  · exact (unsourced item).single_of_name named
  · exact (unsourced item).single_of_denotes denotes
  · exact (unsourced item).single_of_undenoting unnamed nothing

end SqlShell
