import SqlShell.Grammar.Source

/-!
# Recording as one reads

The grammars of `SqlShell.Grammar.Statement` know nothing of a journal: one that fails says why, and
this is written down at the end. A grammar can also write its failures down itself. Here each step
of it takes the journal from the step before, and writes into it when it gives up.

It comes to the same (`Source.Does`): the journal does not change until a step gives up, and then the
whole grammar does. This is so for a token, kept by one step behind another (`Does.bind`), and by
induction so for the two kinds of lists (`does_literalSteps`, `does_columnSteps`).
-/

namespace SqlShell

/-! ## Steps -/

/-- A step that takes a journal and passes it on, with a result unless it gives up. -/
def Recorder (α : Type) : Type :=
  Journal → Option α × Journal

namespace Recorder

variable {α β : Type}

instance : Monad Recorder where
  pure a := fun journal => (some a, journal)
  bind first next := fun journal =>
    match first journal with
    | (some a, journal) => next a journal
    | (none, journal) => (none, journal)

/-- Try another one when the first gives up. -/
def orElse (first other : Recorder α) : Recorder α := fun journal =>
  match first journal with
  | (some a, journal) => (some a, journal)
  | (none, journal) => other journal

end Recorder

namespace Source

variable (source : Source)

/-- Give up at a position for want of something. -/
def giveUp {α : Type} (position : Nat) (expected : String) : Recorder α := fun journal =>
  (none, source.expectAt position expected journal)

/-- The token at a position if it has some property, and the position behind it. -/
def tokenIf? (accepts : Token → Bool) (position : Nat) : Option (Token × Nat) :=
  match source.tokens[position]? with
  | some token => if accepts token then some (token, position + 1) else none
  | none => none

/-- The token at a position if it is of a kind, and the position behind it. -/
def kindAt? (kind : Kind) (position : Nat) : Option (Token × Nat) :=
  source.tokenIf? (·.kind = kind) position

/-- An expression is an identifier, a number or a string, tried in this order. -/
def expressionAt? (position : Nat) : Option (Token × Nat) :=
  [Kind.identifier, .numeric, .string].findSome? (source.kindAt? · position)

/-- Step over a token that agrees with a pattern. -/
def stepOver (pattern : Token) (position : Nat) : Recorder Nat :=
  match source.tokenIf? (·.Agrees pattern) position with
  | some (_, behind) => pure behind
  | none => source.giveUp position pattern.describe

/-- An identifier, which a failure calls `what`. -/
def nameAt (what : String) (position : Nat) : Recorder (Token × Nat) :=
  match source.kindAt? .identifier position with
  | some found => pure found
  | none => source.giveUp position what

theorem position_of_tokenIf? {accepts : Token → Bool} {position : Nat} {found : Token × Nat}
    (h : source.tokenIf? accepts position = some found) : found.2 = position + 1 := by
  simp only [tokenIf?] at h
  split at h
  · split at h
    · cases h; rfl
    · cases h
  · cases h

theorem position_of_expressionAt? {position : Nat} {found : Token × Nat}
    (h : source.expressionAt? position = some found) : found.2 = position + 1 := by
  obtain ⟨kind, -, taken⟩ := List.exists_of_findSome?_eq_some h
  exact source.position_of_tokenIf? taken

/-! ## Lists -/

/-- Expressions up to one of some closing tokens, behind those that have been read. -/
def literalSteps (stops items : List Token) (position : Nat) : Recorder (List Token × Nat) :=
  match _current : source.tokens[position]? with
  | none =>
    if stops.any (·.IsSymbol .semicolon) then pure (items, position)
    else source.giveUp position (String.intercalate " or " (stops.map (·.describe)))
  | some current =>
    if stops.any current.Agrees then
      pure (items, position)
    else if ¬ items.isEmpty ∧ ¬ current.IsSymbol .comma then
      source.giveUp position "','"
    else
      let place := if items.isEmpty then position else position + 1
      match _found : source.expressionAt? place with
      | none => source.giveUp place "expression"
      | some (item, behind) => literalSteps stops (items ++ [item]) behind
termination_by source.tokens.length - position
decreasing_by
  have inside := (List.getElem?_eq_some_iff.1 _current).1
  have moved : behind = place + 1 := source.position_of_expressionAt? _found
  have onward : position ≤ place := by
    show position ≤ if items.isEmpty then position else position + 1
    split <;> omega
  omega

/-- Column definitions up to a closing token, behind those that have been read. -/
def columnSteps (stop : Token) (columns : List ColumnDefinition) (position : Nat) :
    Recorder (List ColumnDefinition × Nat) :=
  match _current : source.tokens[position]? with
  | none => source.giveUp position stop.describe
  | some current =>
    if current.Agrees stop then
      pure (columns, position)
    else if ¬ columns.isEmpty ∧ ¬ current.IsSymbol .comma then
      source.giveUp position "','"
    else
      let place := if columns.isEmpty then position else position + 1
      match _name : source.kindAt? .identifier place with
      | none => source.giveUp place "column name"
      | some (name, behind) =>
        match _datatype : source.kindAt? .keyword behind with
        | none => source.giveUp behind "column type"
        | some (datatype, behind) => columnSteps stop (columns ++ [⟨name, datatype⟩]) behind
termination_by source.tokens.length - position
decreasing_by
  have inside := (List.getElem?_eq_some_iff.1 _current).1
  have moved := source.position_of_tokenIf? _name
  have moved' := source.position_of_tokenIf? _datatype
  dsimp only at moved moved'
  have onward : position ≤ place := by
    show position ≤ if columns.isEmpty then position else position + 1
    split <;> omega
  omega

/-! ## What steps come to -/

section

variable {source} {α β γ δ : Type} {position : Nat}

/-- Steps do what a grammar says, seen through `view`: they leave the journal alone, or they give up
with the mismatch of the grammar written into it. -/
def Does (source : Source) (steps : Recorder β) (result : Except Mismatch α) (view : α → β) : Prop :=
  ∀ journal, steps journal = match result with
    | .ok a => (some (view a), journal)
    | .error mismatch => (none, source.noteMismatch journal mismatch)

/-- What was read, and the position behind it. -/
def parsedAt (parsed : α × Cursor) : α × Nat :=
  (parsed.1, parsed.2.position)

theorem Does.bind {first : Recorder β} {next : β → Recorder δ} {result : Except Mismatch α}
    {more : α → Except Mismatch γ} {view : α → β} {view' : γ → δ} (h : source.Does first result view)
    (h' : ∀ a, result = .ok a → source.Does (next (view a)) (more a) view') :
    source.Does (first >>= next) (result >>= more) view' := by
  intro journal
  cases result with
  | error mismatch =>
    show (match first journal with | (some a, journal) => next a journal | (none, journal) => _) = _
    rw [h journal]
    rfl
  | ok a =>
    show (match first journal with | (some a, journal) => next a journal | (none, journal) => _) = _
    rw [h journal]
    exact h' a rfl journal

theorem does_pure (a : α) (view : α → β) : source.Does (pure (view a)) (.ok a) view :=
  fun _ => rfl

/-! ## One token -/

theorem current?_cursorAt (source : Source) (position : Nat) :
    (source.cursorAt position).current? = source.tokens[position]? :=
  List.head?_drop

theorem position_cursorAt (source : Source) (position : Nat) :
    (source.cursorAt position).position = position :=
  rfl

theorem next_cursorAt (source : Source) (position : Nat) :
    (source.cursorAt position).next = source.cursorAt (position + 1) := by
  simp only [cursorAt, Cursor.ofTokens, Cursor.next, List.tail_drop]

/-- A cursor behind one into the tokens is one into the tokens. -/
theorem eq_cursorAt_of_reaches {later : Cursor} (h : (source.cursorAt position).Reaches later) :
    later = source.cursorAt later.position := by
  obtain ⟨passed, split, moved⟩ := h
  have rest : later.rest = source.tokens.drop later.position := by
    rw [moved]
    show later.rest = source.tokens.drop (position + passed.length)
    rw [← List.drop_drop, show source.tokens.drop position = passed ++ later.rest from split,
      List.drop_left]
  rw [cursorAt, Cursor.ofTokens, ← rest]

theorem take?_cursorAt (accepts : Token → Bool) (position : Nat) :
    (source.cursorAt position).take? accepts =
      (source.tokenIf? accepts position).map fun (token, next) => (token, source.cursorAt next) := by
  rw [Cursor.take?, current?_cursorAt, next_cursorAt, tokenIf?]
  cases source.tokens[position]? with
  | none => rfl
  | some token => by_cases fits : accepts token = true <;> simp [fits]

theorem expressionAt?_eq (source : Source) (position : Nat) :
    source.expressionAt? position = source.tokenIf? (·.IsLiteral) position := by
  simp only [expressionAt?, kindAt?, tokenIf?, List.findSome?]
  cases source.tokens[position]? with
  | none => rfl
  | some token =>
    obtain ⟨kind, value, location⟩ := token
    cases kind <;> simp [Token.IsLiteral]

theorem expression?_cursorAt (source : Source) (position : Nat) :
    (source.cursorAt position).expression? =
      (source.expressionAt? position).map fun (token, next) => (token, source.cursorAt next) := by
  rw [expressionAt?_eq]
  exact take?_cursorAt _ position

theorem does_stepOver (pattern : Token) (position : Nat) :
    source.Does (source.stepOver pattern position)
      ((source.cursorAt position).expect pattern) Cursor.position := by
  intro journal
  simp only [stepOver, Cursor.expect, Cursor.take, take?_cursorAt]
  cases source.tokenIf? (·.Agrees pattern) position <;> rfl

theorem does_nameAt (expected : Expectation) (position : Nat) :
    source.Does (source.nameAt expected.text position)
      ((source.cursorAt position).identifier expected) parsedAt := by
  intro journal
  simp only [nameAt, kindAt?, Cursor.identifier, Cursor.take, take?_cursorAt]
  cases source.tokenIf? (·.kind = .identifier) position <;> rfl

/-! ## What lists come to -/

theorem drop_of_getElem? {tokens : List Token} {position : Nat} {token : Token}
    (there : tokens[position]? = some token) :
    tokens.drop position = token :: tokens.drop (position + 1) := by
  obtain ⟨inside, rfl⟩ := List.getElem?_eq_some_iff.1 there
  exact List.drop_eq_getElem_cons inside

-- The loop without the facts that its recursion carries, at the end of the tokens and before.
theorem literalSteps_none {stops items : List Token}
    (ended : source.tokens[position]? = none) :
    source.literalSteps stops items position =
      if stops.any (·.IsSymbol .semicolon) then pure (items, position)
      else source.giveUp position (String.intercalate " or " (stops.map (·.describe))) := by
  rw [literalSteps]
  split
  · rfl
  · next there => cases ended.symm.trans there

theorem literalSteps_some {stops items : List Token} {current : Token}
    (there : source.tokens[position]? = some current) :
    source.literalSteps stops items position =
      if stops.any current.Agrees then pure (items, position)
      else if ¬ items.isEmpty ∧ ¬ current.IsSymbol .comma then source.giveUp position "','"
      else
        let place := if items.isEmpty then position else position + 1
        match source.expressionAt? place with
        | none => source.giveUp place "expression"
        | some (item, behind) => source.literalSteps stops (items ++ [item]) behind := by
  rw [literalSteps]
  split
  · next ended => cases there.symm.trans ended
  · next current' there' =>
    cases there.symm.trans there'
    congr 2
    dsimp only
    split
    · next found => rw [found]
    · next found => rw [found]

/-- What is read behind some items, put behind them. -/
def behind (items : List α) (result : Parse (List α)) : Parse (List α) :=
  result.map fun (more, cursor) => (items ++ more, cursor)

theorem behind_nil (result : Parse (List α)) : behind [] result = result := by
  cases result <;> rfl

theorem behind_map_cons (items : List α) (a : α) (result : Parse (List α)) :
    behind items (result.map fun (more, cursor) => (a :: more, cursor)) =
      behind (items ++ [a]) result := by
  cases result with
  | error mismatch => rfl
  | ok parsed => simp [behind, Except.map]

theorem does_stop (items : List α) (cursor : Cursor) :
    source.Does (pure (items, cursor.position)) (behind items (.ok ([], cursor))) parsedAt := by
  intro journal
  simp only [behind, Except.map, List.append_nil]
  rfl

theorem does_giveUp (items : List α) (expected : Expectation) {found : Option Token}
    (there : source.tokens[position]? = found) :
    source.Does (source.giveUp position expected.text)
      (behind items (.error ⟨position, expected, found⟩)) parsedAt := by
  intro journal
  simp only [giveUp, expectAt, current?_cursorAt, there]
  rfl

theorem does_literalsAtEnd (stops items : List Token) (ended : source.tokens[position]? = none) :
    source.Does (source.literalSteps stops items position)
      (behind items (literalsAtEnd stops position)) parsedAt := by
  rw [literalSteps_none ended, literalsAtEnd]
  split
  · exact does_stop items ⟨position, []⟩
  · exact does_giveUp items (.closing stops) ended

/-- An item that has to follow, if the list behind it is read as it should be. -/
theorem does_literalItem {stops items : List Token} {place : Nat}
    (more : ∀ item, source.Does (source.literalSteps stops (items ++ [item]) (place + 1))
      (behind (items ++ [item])
        (moreLiterals stops (place + 1) (source.tokens.drop (place + 1)))) parsedAt) :
    source.Does
      (match source.expressionAt? place with
        | none => source.giveUp place "expression"
        | some (item, next) => source.literalSteps stops (items ++ [item]) next)
      (behind items (literalItem stops place (source.tokens.drop place))) parsedAt := by
  rw [expressionAt?_eq]
  cases there : source.tokens[place]? with
  | none =>
    rw [List.drop_eq_nil_iff.2 (List.getElem?_eq_none_iff.1 there), literalItem]
    simp only [tokenIf?, there]
    exact does_giveUp items .expression there
  | some token =>
    rw [drop_of_getElem? there, literalItem]
    by_cases literal : token.IsLiteral
    · simp only [tokenIf?, there, literal, decide_true, if_true]
      rw [behind_map_cons]
      exact more token
    · simp only [tokenIf?, there, literal, decide_false, Bool.false_eq_true, if_false]
      exact does_giveUp items .expression there

theorem does_moreLiterals (stops : List Token) {items : List Token} (nonempty : items ≠ [])
    (position : Nat) :
    source.Does (source.literalSteps stops items position)
      (behind items (moreLiterals stops position (source.tokens.drop position))) parsedAt := by
  -- the recursion follows the loop, which takes a comma and an item at each turn
  cases there : source.tokens[position]? with
  | none =>
    rw [List.drop_eq_nil_iff.2 (List.getElem?_eq_none_iff.1 there), moreLiterals]
    exact does_literalsAtEnd stops items there
  | some current =>
    rw [drop_of_getElem? there, literalSteps_some there, moreLiterals]
    split
    · exact does_stop items ⟨position, current :: source.tokens.drop (position + 1)⟩
    · have some : items.isEmpty = false := by simpa using nonempty
      simp only [some, Bool.false_eq_true, not_false_eq_true, true_and, if_false]
      by_cases comma : current.IsSymbol .comma
      · simp only [comma, not_true_eq_false, if_false, if_true]
        exact does_literalItem fun item => does_moreLiterals stops (by simp) (position + 1 + 1)
      · simp only [comma, not_false_eq_true, if_true, if_false]
        exact does_giveUp items (.token (.symbol .comma)) there
termination_by source.tokens.length - position
decreasing_by
  have := (List.getElem?_eq_some_iff.1 there).1
  omega

theorem does_literalSteps (stops : List Token) (position : Nat) :
    source.Does (source.literalSteps stops [] position)
      ((source.cursorAt position).literals stops) parsedAt := by
  rw [← behind_nil ((source.cursorAt position).literals stops)]
  simp only [cursorAt, Cursor.ofTokens, Cursor.literals]
  cases there : source.tokens[position]? with
  | none =>
    rw [List.drop_eq_nil_iff.2 (List.getElem?_eq_none_iff.1 there)]
    exact does_literalsAtEnd stops [] there
  | some current =>
    rw [drop_of_getElem? there, literalSteps_some there]
    dsimp only
    split
    · exact fun _ => rfl
    · -- nothing has been read, so no comma is looked for
      simp only [List.isEmpty_nil, not_true_eq_false, false_and, if_false, if_true]
      rw [← drop_of_getElem? there]
      exact does_literalItem fun item => does_moreLiterals stops (by simp) (position + 1)

theorem columnSteps_none {stop : Token} {columns : List ColumnDefinition}
    (ended : source.tokens[position]? = none) :
    source.columnSteps stop columns position = source.giveUp position stop.describe := by
  rw [columnSteps]
  split
  · rfl
  · next there => cases ended.symm.trans there

theorem columnSteps_some {stop : Token} {columns : List ColumnDefinition} {current : Token}
    (there : source.tokens[position]? = some current) :
    source.columnSteps stop columns position =
      if current.Agrees stop then pure (columns, position)
      else if ¬ columns.isEmpty ∧ ¬ current.IsSymbol .comma then source.giveUp position "','"
      else
        let place := if columns.isEmpty then position else position + 1
        match source.kindAt? .identifier place with
        | none => source.giveUp place "column name"
        | some (name, next) =>
          match source.kindAt? .keyword next with
          | none => source.giveUp next "column type"
          | some (datatype, next) => source.columnSteps stop (columns ++ [⟨name, datatype⟩]) next := by
  rw [columnSteps]
  split
  · next ended => cases there.symm.trans ended
  · next current' there' =>
    cases there.symm.trans there'
    congr 2
    dsimp only
    split
    · next found => rw [found]
    · next name next found =>
      rw [found]
      dsimp only
      split
      · next found' => rw [found']
      · next found' => rw [found']

/-- A column that has to follow, if the list behind it is read as it should be. -/
theorem does_columnItem {stop : Token} {columns : List ColumnDefinition} {place : Nat}
    (more : ∀ column, source.Does (source.columnSteps stop (columns ++ [column]) (place + 1 + 1))
      (behind (columns ++ [column])
        (moreColumns stop (place + 2) (source.tokens.drop (place + 1 + 1)))) parsedAt) :
    source.Does
      (match source.kindAt? .identifier place with
        | none => source.giveUp place "column name"
        | some (name, next) =>
          match source.kindAt? .keyword next with
          | none => source.giveUp next "column type"
          | some (datatype, next) => source.columnSteps stop (columns ++ [⟨name, datatype⟩]) next)
      (behind columns (columnItem stop place (source.tokens.drop place))) parsedAt := by
  cases there : source.tokens[place]? with
  | none =>
    rw [List.drop_eq_nil_iff.2 (List.getElem?_eq_none_iff.1 there), columnItem]
    simp only [kindAt?, tokenIf?, there]
    exact does_giveUp columns .columnName there
  | some name =>
    rw [drop_of_getElem? there]
    by_cases named : name.kind = .identifier
    · simp only [kindAt?, tokenIf?, there, named, decide_true, if_true]
      cases there' : source.tokens[place + 1]? with
      | none =>
        rw [List.drop_eq_nil_iff.2 (List.getElem?_eq_none_iff.1 there'), columnItem, if_pos named]
        exact does_giveUp columns .columnType there'
      | some datatype =>
        rw [drop_of_getElem? there', columnItem, if_pos named]
        by_cases typed : datatype.kind = .keyword
        · simp only [typed, decide_true, if_true]
          rw [behind_map_cons]
          exact more ⟨name, datatype⟩
        · simp only [typed, decide_false, Bool.false_eq_true, if_false]
          exact does_giveUp columns .columnType there'
    · -- whether there is another token behind the name is not asked any more
      have failed : columnItem stop place (name :: source.tokens.drop (place + 1)) =
          .error ⟨place, .columnName, some name⟩ := by
        cases source.tokens.drop (place + 1) <;> simp only [columnItem, named, if_false]
      rw [failed]
      simp only [kindAt?, tokenIf?, there, named, decide_false, Bool.false_eq_true, if_false]
      exact does_giveUp columns .columnName there

theorem does_moreColumns (stop : Token) {columns : List ColumnDefinition} (nonempty : columns ≠ [])
    (position : Nat) :
    source.Does (source.columnSteps stop columns position)
      (behind columns (moreColumns stop position (source.tokens.drop position))) parsedAt := by
  cases there : source.tokens[position]? with
  | none =>
    rw [List.drop_eq_nil_iff.2 (List.getElem?_eq_none_iff.1 there), moreColumns,
      columnSteps_none there]
    exact does_giveUp columns (.token stop) there
  | some current =>
    rw [drop_of_getElem? there, columnSteps_some there, moreColumns]
    split
    · exact does_stop columns ⟨position, current :: source.tokens.drop (position + 1)⟩
    · have some : columns.isEmpty = false := by simpa using nonempty
      simp only [some, Bool.false_eq_true, not_false_eq_true, true_and, if_false]
      by_cases comma : current.IsSymbol .comma
      · simp only [comma, not_true_eq_false, if_false, if_true]
        exact does_columnItem fun column => does_moreColumns stop (by simp) (position + 1 + 1 + 1)
      · simp only [comma, not_false_eq_true, if_true, if_false]
        exact does_giveUp columns (.token (.symbol .comma)) there
termination_by source.tokens.length - position
decreasing_by
  have := (List.getElem?_eq_some_iff.1 there).1
  omega

theorem does_columnSteps (stop : Token) (position : Nat) :
    source.Does (source.columnSteps stop [] position)
      ((source.cursorAt position).columns stop) parsedAt := by
  rw [← behind_nil ((source.cursorAt position).columns stop)]
  simp only [cursorAt, Cursor.ofTokens, Cursor.columns]
  cases there : source.tokens[position]? with
  | none =>
    rw [List.drop_eq_nil_iff.2 (List.getElem?_eq_none_iff.1 there), columnSteps_none there]
    exact does_giveUp [] (.token stop) there
  | some current =>
    rw [drop_of_getElem? there, columnSteps_some there]
    dsimp only
    split
    · exact fun _ => rfl
    · simp only [List.isEmpty_nil, not_true_eq_false, false_and, if_false, if_true]
      rw [← drop_of_getElem? there]
      exact does_columnItem fun column => does_moreColumns stop (by simp) (position + 1 + 1)

end

end Source

end SqlShell
