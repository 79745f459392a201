import SqlShell.Grammar.Cursor
import SqlShell.Statement.Basic

/-!
# Comma-separated lists

Two lists of the grammar: the expressions of a statement and the columns of a new table. Both end in
front of a closing token, which is looked for where the list starts and behind each item, but not
behind a comma. Hence a list is empty exactly when a closing token comes first.

* `Cursor.literals` reads expressions up to one of several closing tokens. When the semicolon is one
  of them, the end of the tokens closes the list as well.
* `Cursor.columns` reads column definitions up to one closing token.

Each list has two mutually recursive parts, one where an item must follow and one behind an item.
-/

namespace SqlShell

/-! ## Expressions -/

/-- The end of the tokens, where a list of expressions is still open. -/
def literalsAtEnd (stops : List Token) (position : Nat) : Parse (List Token) :=
  if stops.any (·.IsSymbol .semicolon) then .ok ([], ⟨position, []⟩)
  else .error ⟨position, .closing stops, none⟩

mutual

/-- An expression and what follows it. -/
def literalItem (stops : List Token) (position : Nat) : List Token → Parse (List Token)
  | [] => .error ⟨position, .expression, none⟩
  | token :: rest =>
    if token.IsLiteral then
      (moreLiterals stops (position + 1) rest).map fun (items, cursor) => (token :: items, cursor)
    else
      .error ⟨position, .expression, some token⟩

/-- Behind an expression: the end of the list, or a comma and the next expression. -/
def moreLiterals (stops : List Token) (position : Nat) : List Token → Parse (List Token)
  | [] => literalsAtEnd stops position
  | token :: rest =>
    if stops.any token.Agrees then .ok ([], ⟨position, token :: rest⟩)
    else if token.IsSymbol .comma then literalItem stops (position + 1) rest
    else .error ⟨position, .token (.symbol .comma), some token⟩

end

/-- Expressions up to one of the closing tokens. -/
def Cursor.literals (stops : List Token) (cursor : Cursor) : Parse (List Token) :=
  match cursor.rest with
  | [] => literalsAtEnd stops cursor.position
  | token :: rest =>
    if stops.any token.Agrees then .ok ([], cursor)
    else literalItem stops cursor.position (token :: rest)

/-! ## Columns -/

mutual

/-- A column definition and what follows it. -/
def columnItem (stop : Token) (position : Nat) : List Token → Parse (List ColumnDefinition)
  | [] => .error ⟨position, .columnName, none⟩
  | [name] =>
    if name.kind = .identifier then .error ⟨position + 1, .columnType, none⟩
    else .error ⟨position, .columnName, some name⟩
  | name :: datatype :: rest =>
    if name.kind = .identifier then
      if datatype.kind = .keyword then
        (moreColumns stop (position + 2) rest).map fun (columns, cursor) =>
          (⟨name, datatype⟩ :: columns, cursor)
      else
        .error ⟨position + 1, .columnType, some datatype⟩
    else
      .error ⟨position, .columnName, some name⟩

/-- Behind a column definition: the end of the list, or a comma and the next definition. -/
def moreColumns (stop : Token) (position : Nat) : List Token → Parse (List ColumnDefinition)
  | [] => .error ⟨position, .token stop, none⟩
  | token :: rest =>
    if token.Agrees stop then .ok ([], ⟨position, token :: rest⟩)
    else if token.IsSymbol .comma then columnItem stop (position + 1) rest
    else .error ⟨position, .token (.symbol .comma), some token⟩

end

/-- Column definitions up to the closing token. -/
def Cursor.columns (stop : Token) (cursor : Cursor) : Parse (List ColumnDefinition) :=
  match cursor.rest with
  | [] => .error (cursor.mismatch (.token stop))
  | token :: rest =>
    if token.Agrees stop then .ok ([], cursor)
    else columnItem stop cursor.position (token :: rest)

/-! ## Moving forward -/

theorem Except.eq_ok_of_map_eq_ok {ε α β : Type} {f : α → β} {result : Except ε α} {b : β}
    (h : result.map f = .ok b) : ∃ a, result = .ok a ∧ f a = b := by
  cases result with
  | error => cases h
  | ok a => exact ⟨a, rfl, Except.ok.inj h⟩

theorem reaches_of_literalsAtEnd {stops items : List Token} {position : Nat} {later : Cursor}
    (h : literalsAtEnd stops position = .ok (items, later)) :
    Cursor.Reaches ⟨position, []⟩ later := by
  simp only [literalsAtEnd] at h
  split at h
  · cases h; exact .refl _
  · cases h

mutual

theorem reaches_of_literalItem {stops : List Token} {position : Nat} {later : Cursor} :
    ∀ {tokens items : List Token}, literalItem stops position tokens = .ok (items, later) →
      Cursor.Reaches ⟨position, tokens⟩ later
  | [], _, h => by simp [literalItem] at h
  | token :: rest, items, h => by
    simp only [literalItem] at h
    split at h
    · obtain ⟨⟨items, cursor⟩, more, same⟩ := Except.eq_ok_of_map_eq_ok h
      cases same
      exact Cursor.reaches_of_cons (reaches_of_moreLiterals more)
    · cases h

theorem reaches_of_moreLiterals {stops : List Token} {position : Nat} {later : Cursor} :
    ∀ {tokens items : List Token}, moreLiterals stops position tokens = .ok (items, later) →
      Cursor.Reaches ⟨position, tokens⟩ later
  | [], _, h => by
    simp only [moreLiterals] at h
    exact reaches_of_literalsAtEnd h
  | token :: rest, items, h => by
    simp only [moreLiterals] at h
    split at h
    · cases h; exact .refl _
    · split at h
      · exact Cursor.reaches_of_cons (reaches_of_literalItem h)
      · cases h

end

theorem Cursor.reaches_of_literals {stops items : List Token} {cursor later : Cursor}
    (h : cursor.literals stops = .ok (items, later)) : cursor.Reaches later := by
  obtain ⟨position, tokens⟩ := cursor
  cases tokens with
  | nil => exact reaches_of_literalsAtEnd h
  | cons token rest =>
    simp only [literals] at h
    split at h
    · cases h; exact .refl _
    · exact reaches_of_literalItem h

mutual

theorem reaches_of_columnItem {stop : Token} {position : Nat} {later : Cursor} :
    ∀ {tokens : List Token} {columns : List ColumnDefinition},
      columnItem stop position tokens = .ok (columns, later) →
        Cursor.Reaches ⟨position, tokens⟩ later
  | [], _, h => by simp [columnItem] at h
  | [_], _, h => by
    simp only [columnItem] at h
    split at h <;> cases h
  | name :: datatype :: rest, columns, h => by
    simp only [columnItem] at h
    split at h
    · split at h
      · obtain ⟨⟨columns, cursor⟩, more, same⟩ := Except.eq_ok_of_map_eq_ok h
        cases same
        exact Cursor.reaches_of_cons (Cursor.reaches_of_cons (reaches_of_moreColumns more))
      · cases h
    · cases h

theorem reaches_of_moreColumns {stop : Token} {position : Nat} {later : Cursor} :
    ∀ {tokens : List Token} {columns : List ColumnDefinition},
      moreColumns stop position tokens = .ok (columns, later) →
        Cursor.Reaches ⟨position, tokens⟩ later
  | [], _, h => by simp [moreColumns] at h
  | token :: rest, columns, h => by
    simp only [moreColumns] at h
    split at h
    · cases h; exact .refl _
    · split at h
      · exact Cursor.reaches_of_cons (reaches_of_columnItem h)
      · cases h

end

theorem Cursor.reaches_of_columns {stop : Token} {columns : List ColumnDefinition}
    {cursor later : Cursor} (h : cursor.columns stop = .ok (columns, later)) :
    cursor.Reaches later := by
  obtain ⟨position, tokens⟩ := cursor
  cases tokens with
  | nil => simp [Cursor.columns] at h
  | cons token rest =>
    simp only [Cursor.columns] at h
    split at h
    · cases h; exact .refl _
    · exact reaches_of_columnItem h

end SqlShell
