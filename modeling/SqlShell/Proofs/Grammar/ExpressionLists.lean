import SqlShell.Grammar.Source
import SqlShell.Proofs.Grammar.Statements

/-!
# Expression lists between any delimiters

A list of expressions ends in front of the first of some delimiters, which are looked for where the
list starts and behind each item, but not behind a comma. They may be any tokens. Where a comma or a
literal is among them a list can be over before it looks complete.

What the next token may be depends on the place alone (`ListPlace`), so one step of the reading is a
step from place to place, and `read_of_goesOver` is the run. A run that comes to an end stands in
front of a delimiter, and one that does not stands where the list cannot go on.

Main result: `lists_end_at_the_first_delimiter`, which says what is read by counting items.
-/

namespace SqlShell.Grammar

/-! ## The rule -/

/-- What may stand behind a list: a delimiter, or the end of the tokens if the semicolon is one. -/
def Closes (stops : List Token) : Option Token → Prop
  | some token => StopsAt stops token
  | none => ∃ stop ∈ stops, stop.IsSymbol .semicolon

/-- The position behind the first items of a list, in front of the comma that follows them. -/
def behindItems (start count : Nat) : Nat :=
  start + (2 * count - 1)

/-- A list of `count` items stands at `start`: literals with single commas between them, something
that closes it behind the last of them, and nothing that closes it before. -/
structure ListStands (tokens stops : List Token) (start count : Nat) : Prop where
  literal : ∀ j < count, ∃ token, tokens[start + 2 * j]? = some token ∧ token.IsLiteral
  comma : ∀ j, j + 1 < count →
    ∃ token, tokens[start + 2 * j + 1]? = some token ∧ token.IsSymbol .comma
  opened : ∀ j < count,
    ∃ token, tokens[behindItems start j]? = some token ∧ ¬ StopsAt stops token
  closed : Closes stops tokens[behindItems start count]?

/-- The first thing that closes a list tells how long it is. -/
theorem ListStands.unique {tokens stops : List Token} {position count other : Nat}
    (h : ListStands tokens stops position count) (h' : ListStands tokens stops position other) :
    count = other := by
  have shorter {count other : Nat} (h : ListStands tokens stops position count)
      (h' : ListStands tokens stops position other) : ¬ count < other := by
    intro less
    obtain ⟨token, there, opened⟩ := h'.opened count less
    have closed := h.closed
    rw [there] at closed
    exact opened closed
  exact Nat.le_antisymm (Nat.le_of_not_lt (shorter h' h)) (Nat.le_of_not_lt (shorter h h'))

/-! ## Places in a list -/

/-- Where the reading of a list stands: at its start, where an item has to follow, or behind one. -/
inductive ListPlace where
  | start
  | item
  | gap

namespace ListPlace

/-- The place behind one more token. -/
def next : ListPlace → ListPlace
  | start | item => gap
  | gap => item

/-- The place behind some tokens. -/
def after : ListPlace → Nat → ListPlace
  | place, 0 => place
  | place, passed + 1 => place.next.after passed

/-- A token that the list goes on with. -/
def Admits (stops : List Token) : ListPlace → Token → Prop
  | start, token => token.IsLiteral ∧ ¬ StopsAt stops token
  | item, token => token.IsLiteral
  | gap, token => token.IsSymbol .comma ∧ ¬ StopsAt stops token

/-- What the list ends in front of. -/
def EndsAt (stops : List Token) : ListPlace → Option Token → Prop
  | start, found | gap, found => Closes stops found
  | item, _ => False

/-- What is called for where something else is found. -/
def wanted (stops : List Token) : ListPlace → Option Token → Expectation
  | start, none | gap, none => .closing stops
  | start, some _ | item, _ => .expression
  | gap, some _ => .token (.symbol .comma)

/-- The items of a list with one more token. -/
def collect : ListPlace → Token → List Token → List Token
  | gap, _, items => items
  | start, token, items | item, token, items => token :: items

/-- The items among some tokens of a list. -/
def items : ListPlace → List Token → List Token
  | _, [] => []
  | place, token :: tokens => place.collect token (place.next.items tokens)

/-- The parser of the rest of a list. -/
def read (stops : List Token) : ListPlace → Nat → List Token → Parse (List Token)
  | start, position, tokens => Cursor.literals stops ⟨position, tokens⟩
  | item, position, tokens => literalItem stops position tokens
  | gap, position, tokens => moreLiterals stops position tokens

variable {stops tokens : List Token} {place : ListPlace} {position count : Nat}

/-! ## One step -/

theorem literalsAtEnd_of_closes (closes : Closes stops none) (position : Nat) :
    literalsAtEnd stops position = .ok ([], ⟨position, []⟩) := by
  rw [literalsAtEnd, if_pos]
  simpa [Closes] using closes

theorem literalsAtEnd_of_open (unclosed : ¬ Closes stops none) (position : Nat) :
    literalsAtEnd stops position = .error ⟨position, .closing stops, none⟩ := by
  rw [literalsAtEnd, if_neg]
  simpa [Closes] using unclosed

theorem read_of_endsAt (ends : place.EndsAt stops tokens.head?) (position : Nat) :
    place.read stops position tokens = .ok ([], ⟨position, tokens⟩) := by
  cases place with
  | item => cases ends
  | start | gap =>
    cases tokens with
    | nil => exact literalsAtEnd_of_closes ends position
    | cons token rest =>
      have stop : stops.any token.Agrees = true := any_agrees_iff.2 ends
      simp only [read, Cursor.literals, moreLiterals, stop, if_true]

theorem read_of_admits {token : Token} (admits : place.Admits stops token) (position : Nat)
    (rest : List Token) :
    place.read stops position (token :: rest) =
      (place.next.read stops (position + 1) rest).map fun (items, cursor) =>
        (place.collect token items, cursor) := by
  cases place with
  | start =>
    obtain ⟨literal, opened⟩ := admits
    simp only [read, Cursor.literals, any_agrees_iff, opened, if_false, literalItem, literal, if_true,
      next, collect]
  | item =>
    have literal : token.IsLiteral := admits
    simp only [read, literalItem, literal, if_true, next, collect]
  | gap =>
    obtain ⟨comma, opened⟩ := admits
    simp only [read, moreLiterals, any_agrees_iff, opened, if_false, comma, if_true, next]
    cases literalItem stops (position + 1) rest <;> rfl

theorem read_of_stuck (opened : ¬ place.EndsAt stops tokens.head?)
    (stuck : ∀ token ∈ tokens.head?, ¬ place.Admits stops token) (position : Nat) :
    place.read stops position tokens =
      .error ⟨position, place.wanted stops tokens.head?, tokens.head?⟩ := by
  cases tokens with
  | nil =>
    cases place with
    | item => rfl
    | start | gap => exact literalsAtEnd_of_open opened position
  | cons token rest =>
    have other := stuck token rfl
    cases place with
    | start =>
      have literal : ¬ token.IsLiteral := fun literal => other ⟨literal, opened⟩
      have stop : ¬ StopsAt stops token := opened
      simp only [read, Cursor.literals, any_agrees_iff, stop, if_false, literalItem, literal]
      rfl
    | item =>
      have literal : ¬ token.IsLiteral := other
      simp only [read, literalItem, literal, if_false]
      rfl
    | gap =>
      have comma : ¬ token.IsSymbol .comma := fun comma => other ⟨comma, opened⟩
      have stop : ¬ StopsAt stops token := opened
      simp only [read, moreLiterals, any_agrees_iff, stop, if_false, comma]
      rfl

/-! ## A run -/

/-- The list goes on over the first tokens. -/
def GoesOver (stops : List Token) (place : ListPlace) (tokens : List Token) (count : Nat) : Prop :=
  ∀ i < count, ∃ token, tokens[i]? = some token ∧ (place.after i).Admits stops token

theorem goesOver_succ {token : Token} {rest : List Token} :
    GoesOver stops place (token :: rest) (count + 1) ↔
      place.Admits stops token ∧ GoesOver stops place.next rest count := by
  constructor
  · intro goes
    refine ⟨?_, fun i inside => goes (i + 1) (Nat.succ_lt_succ inside)⟩
    obtain ⟨first, same, admits⟩ := goes 0 (Nat.succ_pos count)
    cases same
    exact admits
  · rintro ⟨admits, goes⟩ (_ | i) inside
    · exact ⟨token, rfl, admits⟩
    · exact goes i (Nat.lt_of_succ_lt_succ inside)

/-- Reading goes over the tokens that the list goes on with, and collects the items among them. -/
theorem read_of_goesOver (goes : GoesOver stops place tokens count) (position : Nat) :
    place.read stops position tokens =
      ((place.after count).read stops (position + count) (tokens.drop count)).map
        fun (more, cursor) => (place.items (tokens.take count) ++ more, cursor) := by
  induction count generalizing place tokens position with
  | zero =>
    rw [List.drop_zero, List.take_zero, Nat.add_zero]
    show place.read stops position tokens = (place.read stops position tokens).map _
    cases place.read stops position tokens <;> rfl
  | succ count ih =>
    cases tokens with
    | nil =>
      obtain ⟨_, inside, -⟩ := goes 0 (Nat.succ_pos count)
      cases inside
    | cons token rest =>
      obtain ⟨admits, goes⟩ := goesOver_succ.1 goes
      rw [read_of_admits admits, ih goes, Nat.add_assoc, Nat.add_comm 1, List.drop_succ_cons,
        List.take_succ_cons]
      show Except.map _ (Except.map _ ((place.next.after count).read _ _ _)) =
        Except.map _ ((place.next.after count).read _ _ _)
      cases (place.next.after count).read stops (position + (count + 1)) (rest.drop count) with
      | error mismatch => rfl
      | ok parsed => cases place <;> rfl

/-- Every list goes on for a while, and then no longer. -/
theorem exists_goesOver (stops : List Token) (place : ListPlace) (tokens : List Token) :
    ∃ count, GoesOver stops place tokens count ∧
      ∀ token ∈ tokens[count]?, ¬ (place.after count).Admits stops token := by
  induction tokens generalizing place with
  | nil => exact ⟨0, nofun, by simp⟩
  | cons token rest ih =>
    by_cases admits : place.Admits stops token
    · obtain ⟨count, goes, stuck⟩ := ih place.next
      refine ⟨count + 1, goesOver_succ.2 ⟨admits, goes⟩, ?_⟩
      rw [List.getElem?_cons_succ]
      exact stuck
    · exact ⟨0, nofun, by simpa [after] using admits⟩

/-! ## Counting -/

theorem after_gap (j : Nat) : gap.after (2 * j) = gap ∧ gap.after (2 * j + 1) = item := by
  induction j with
  | zero => exact ⟨rfl, rfl⟩
  | succ j ih => exact ih

theorem after_start (j : Nat) : start.after (2 * j + 1) = gap ∧ start.after (2 * j + 2) = item :=
  after_gap j

theorem getElem?_items (tokens : List Token) (j : Nat) :
    (start.items tokens)[j]? = tokens[2 * j]? ∧ (item.items tokens)[j]? = tokens[2 * j]? ∧
      (gap.items tokens)[j]? = tokens[2 * j + 1]? := by
  induction tokens generalizing j with
  | nil => simp [items]
  | cons token rest ih =>
    refine ⟨?_, ?_, (ih j).2.1⟩
    all_goals
      cases j with
      | zero => rfl
      | succ j => exact (ih j).2.2

theorem length_items (tokens : List Token) :
    (start.items tokens).length = (tokens.length + 1) / 2 ∧
      (item.items tokens).length = (tokens.length + 1) / 2 ∧
      (gap.items tokens).length = tokens.length / 2 := by
  induction tokens with
  | nil => exact ⟨rfl, rfl, rfl⟩
  | cons token rest ih =>
    obtain ⟨-, behindComma, behindItem⟩ := ih
    refine ⟨?_, ?_, behindComma⟩
    all_goals
      show (gap.items rest).length + 1 = _
      rw [behindItem, List.length_cons]
      omega

theorem endsAt_behindItems (stops : List Token) (count : Nat) (found : Option Token) :
    (start.after (2 * count - 1)).EndsAt stops found ↔ Closes stops found := by
  cases count with
  | zero => exact Iff.rfl
  | succ count =>
    rw [show 2 * (count + 1) - 1 = 2 * count + 1 by omega, (after_start count).1]
    exact Iff.rfl

theorem offset_cases (i : Nat) : i = 0 ∨ (∃ j, i = 2 * j + 1) ∨ ∃ j, i = 2 * j + 2 := by
  obtain first | gap | item : i = 0 ∨ i % 2 = 1 ∨ (i % 2 = 0 ∧ 0 < i) := by omega
  · exact .inl first
  · exact .inr (.inl ⟨i / 2, by omega⟩)
  · exact .inr (.inr ⟨(i - 2) / 2, by omega⟩)

/-- A list ends behind an item or where it starts. -/
theorem exists_count_of_endsAt {passed : Nat} {found : Option Token}
    (ends : (start.after passed).EndsAt stops found) : ∃ count, passed = 2 * count - 1 := by
  obtain rfl | ⟨j, rfl⟩ | ⟨j, rfl⟩ := offset_cases passed
  · exact ⟨0, rfl⟩
  · exact ⟨j + 1, by omega⟩
  · rw [(after_start j).2] at ends
    cases ends

/-- The list that counts items is the one that goes from place to place. -/
theorem listStands_iff {position : Nat} : ListStands tokens stops position count ↔
    GoesOver stops start (tokens.drop position) (2 * count - 1) ∧
      (start.after (2 * count - 1)).EndsAt stops (tokens.drop position)[2 * count - 1]? := by
  simp only [GoesOver, endsAt_behindItems, List.getElem?_drop]
  constructor
  · rintro ⟨literal, comma, opened, closed⟩
    refine ⟨fun i inside => ?_, closed⟩
    obtain rfl | ⟨j, rfl⟩ | ⟨j, rfl⟩ := offset_cases i
    · obtain ⟨token, there, isLiteral⟩ := literal 0 (by omega)
      obtain ⟨first, same, other⟩ := opened 0 (by omega)
      cases there.symm.trans same
      exact ⟨token, there, isLiteral, other⟩
    · obtain ⟨token, there, isComma⟩ := comma j (by omega)
      obtain ⟨behind, same, other⟩ := opened (j + 1) (by omega)
      rw [behindItems, show 2 * (j + 1) - 1 = 2 * j + 1 by omega, ← Nat.add_assoc] at same
      cases there.symm.trans same
      rw [(after_start j).1]
      exact ⟨token, there, isComma, other⟩
    · rw [(after_start j).2]
      exact literal (j + 1) (by omega)
  · rintro ⟨goes, closed⟩
    refine ⟨fun j inside => ?_, fun j inside => ?_, fun j inside => ?_, closed⟩
    · obtain ⟨token, there, admits⟩ := goes (2 * j) (by omega)
      refine ⟨token, there, ?_⟩
      cases j with
      | zero => exact admits.1
      | succ j =>
        rw [show 2 * (j + 1) = 2 * j + 2 by omega, (after_start j).2] at admits
        exact admits
    · obtain ⟨token, there, admits⟩ := goes (2 * j + 1) (by omega)
      rw [(after_start j).1] at admits
      exact ⟨token, there, admits.1⟩
    · obtain ⟨token, there, admits⟩ := goes (2 * j - 1) (by omega)
      refine ⟨token, there, ?_⟩
      cases j with
      | zero => exact admits.2
      | succ j =>
        rw [show 2 * (j + 1) - 1 = 2 * j + 1 by omega, (after_start j).1] at admits
        exact admits.2

/-! ## Whole lists -/

/-- What a list that stands at a position is read as. -/
theorem literals_of_listStands {position : Nat} (h : ListStands tokens stops position count) :
    ∃ items, (Cursor.ofTokens tokens position).literals stops =
        .ok (items, .ofTokens tokens (behindItems position count)) ∧
      items.length = count ∧ ∀ j < count, items[j]? = tokens[position + 2 * j]? := by
  obtain ⟨goes, ends⟩ := listStands_iff.1 h
  refine ⟨start.items ((tokens.drop position).take (2 * count - 1)), ?_, ?_, fun j inside => ?_⟩
  · show start.read stops position (tokens.drop position) = _
    rw [← List.head?_drop] at ends
    rw [read_of_goesOver goes, read_of_endsAt ends, List.drop_drop]
    simp only [Except.map, List.append_nil, Cursor.ofTokens, behindItems]
  · -- the last token of the list is there, so that many tokens are
    have enough : 2 * count - 1 ≤ (tokens.drop position).length := by
      cases count with
      | zero => exact Nat.zero_le _
      | succ count =>
        obtain ⟨_, there, -⟩ := goes (2 * count) (by omega)
        have := (List.getElem?_eq_some_iff.1 there).1
        omega
    rw [(length_items _).1, List.length_take_of_le enough]
    omega
  · rw [(getElem?_items _ j).1, List.getElem?_take_of_lt (by omega), List.getElem?_drop]

theorem literals_of_stuck {position passed : Nat}
    (goes : GoesOver stops start (tokens.drop position) passed)
    (opened : ¬ (start.after passed).EndsAt stops tokens[position + passed]?)
    (stuck : ∀ token ∈ tokens[position + passed]?, ¬ (start.after passed).Admits stops token) :
    (Cursor.ofTokens tokens position).literals stops = .error ⟨position + passed,
      (start.after passed).wanted stops tokens[position + passed]?, tokens[position + passed]?⟩ := by
  show start.read stops position (tokens.drop position) = _
  rw [← List.head?_drop] at opened stuck ⊢
  rw [read_of_goesOver goes, List.drop_drop, read_of_stuck opened stuck]
  rfl

end ListPlace

/-- A list at `position` goes on over `passed` tokens and no further, and is not over there. -/
structure ListStuck (tokens stops : List Token) (position passed : Nat) : Prop where
  goes : ListPlace.GoesOver stops .start (tokens.drop position) passed
  opened : ¬ (ListPlace.start.after passed).EndsAt stops tokens[position + passed]?
  stuck : ∀ token ∈ tokens[position + passed]?,
    ¬ (ListPlace.start.after passed).Admits stops token

/-- A list stands at every position, or is stuck behind it. -/
theorem exists_listStands_or_listStuck (tokens stops : List Token) (position : Nat) :
    (∃ count, ListStands tokens stops position count) ∨
      ∃ passed, ListStuck tokens stops position passed := by
  obtain ⟨passed, goes, stuck⟩ :=
    ListPlace.exists_goesOver stops .start (tokens.drop position)
  rw [List.getElem?_drop] at stuck
  by_cases ends : (ListPlace.start.after passed).EndsAt stops tokens[position + passed]?
  · obtain ⟨count, rfl⟩ := ListPlace.exists_count_of_endsAt ends
    rw [← List.getElem?_drop] at ends
    exact .inl ⟨count, ListPlace.listStands_iff.2 ⟨goes, ends⟩⟩
  · exact .inr ⟨passed, goes, ends, stuck⟩

theorem ListStuck.not_stands {tokens stops : List Token} {position passed : Nat}
    (stuck : ListStuck tokens stops position passed) (count : Nat) :
    ¬ ListStands tokens stops position count := by
  intro stands
  obtain ⟨items, parsed, -⟩ := ListPlace.literals_of_listStands stands
  rw [ListPlace.literals_of_stuck stuck.goes stuck.opened stuck.stuck] at parsed
  cases parsed

/-! ## Lists on the record -/

section

variable {source : Source} {stops : List Token} {position : Nat}

/-- A list that stands leaves no record. -/
theorem ListStands.literals_eq {count : Nat} (stands : ListStands source.tokens stops position count)
    (journal : Journal) :
    ∃ items, source.literals position stops journal =
        (some (items, source.cursorAt (behindItems position count)), journal) ∧
      items.length = count ∧ ∀ j < count, items[j]? = source.tokens[position + 2 * j]? := by
  obtain ⟨items, parsed, length, places⟩ := ListPlace.literals_of_listStands stands
  refine ⟨items, ?_, length, places⟩
  simp only [Source.literals, Source.cursorAt, Source.noted]
  rw [parsed]

/-- A list that is stuck is recorded as one failure. -/
theorem ListStuck.literals_eq {passed : Nat} (stuck : ListStuck source.tokens stops position passed)
    (journal : Journal) :
    let found := source.tokens[position + passed]?
    let wanted := (ListPlace.start.after passed).wanted stops found
    source.literals position stops journal =
      (none, source.note (position + passed) wanted.text found journal) := by
  intro found wanted
  have failed := ListPlace.literals_of_stuck stuck.goes stuck.opened stuck.stuck
  simp only [Source.literals, Source.cursorAt, Source.noted]
  rw [failed]
  rfl

end

/-- Lists end at the first delimiter, whatever tokens the delimiters are. At every position of every
row of tokens:

* a list is read if and only if one stands there (`ListStands`); its items are every other token,
  and the cursor stops in front of what closes it;
* no two lists of different lengths stand there;
* none is read if and only if none stands there;
* a list that is read leaves no record, and one that is not is recorded as a failure at the first
  position where it can neither go on nor end, with what is called for there and what is found: the
  tracker has met this one failure, and this one event is added. At the end of the tokens the failure
  is placed at the last of them. -/
theorem lists_end_at_the_first_delimiter (source : Source) (position : Nat) (stops : List Token)
    (journal : Journal) :
    let tokens := source.tokens
    let read := source.literals position stops journal
    (∀ items behind, read.1 = some (items, behind) ↔
      ∃ count, ListStands tokens stops position count ∧ items.length = count ∧
        (∀ j < count, items[j]? = tokens[position + 2 * j]?) ∧
        behind = source.cursorAt (behindItems position count)) ∧
    (∀ count other, ListStands tokens stops position count →
      ListStands tokens stops position other → count = other) ∧
    (read.1 = none ↔ ∀ count, ¬ ListStands tokens stops position count) ∧
    (∀ parsed, read.1 = some parsed → read.2 = journal) ∧
    (read.1 = none → ∃ passed, ListStuck tokens stops position passed ∧
      let found := tokens[position + passed]?
      let wanted := (ListPlace.start.after passed).wanted stops found
      let failure : Failure :=
        { position := position + passed
          location := (found.map (·.location)).getD source.endLocation
          expected := wanted.text
          found := found.map (·.value) }
      read.2 = source.note (position + passed) wanted.text found journal ∧
      read.2.tracker = journal.tracker.track failure ∧
      read.2.events = journal.events.push (.expectationFailed failure)) := by
  intro tokens read
  have unique (count other : Nat) (h : ListStands tokens stops position count)
      (h' : ListStands tokens stops position other) : count = other := h.unique h'
  rcases exists_listStands_or_listStuck tokens stops position with ⟨count, stands⟩ | ⟨passed, stuck⟩
  · obtain ⟨items, parsed, length, places⟩ := stands.literals_eq journal
    have found : read = _ := parsed
    rw [found]
    refine ⟨fun items' behind => ?_, unique,
      ⟨nofun, fun nowhere => absurd stands (nowhere count)⟩, fun _ _ => rfl, nofun⟩
    constructor
    · intro same
      cases same
      exact ⟨count, stands, length, places, rfl⟩
    · rintro ⟨other, stands', length', places', rfl⟩
      obtain rfl := unique _ _ stands stands'
      -- Items that stand at the same places are the same.
      have same : items = items' := by
        refine List.ext_getElem? fun j => ?_
        by_cases inside : j < count
        · rw [places j inside, places' j inside]
        · rw [List.getElem?_eq_none (by omega), List.getElem?_eq_none (by omega)]
      rw [same]
  · have nowhere := stuck.not_stands
    have found : read = _ := stuck.literals_eq journal
    rw [found]
    refine ⟨fun items behind => ?_, unique, by simp [nowhere], nofun,
      fun _ => ⟨passed, stuck, rfl, rfl, rfl⟩⟩
    constructor
    · intro same
      cases same
    · rintro ⟨count, stands, -⟩
      exact absurd stands (nowhere count)

-- a comma that is a delimiter ends the list behind its first item, but not behind another comma
example :
    let comma := Token.symbol .comma
    let literal : Token := ⟨.numeric, "1", {}⟩
    Cursor.literals [comma] ⟨0, [literal, comma, literal]⟩ =
        .ok ([literal], ⟨1, [comma, literal]⟩) ∧
      Cursor.literals [literal] ⟨0, [comma, literal]⟩ = .error ⟨0, .expression, some comma⟩ := by
  decide

end SqlShell.Grammar
