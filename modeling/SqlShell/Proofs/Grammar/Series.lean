import SqlShell.Grammar.Listing
import SqlShell.Proofs.Grammar.Contract

/-!
# Comma-separated lists

The contract of a list of items, proved once for any parser of items. `GoesOn` says how a list goes
on behind an item, `Starts` how it starts; both hold of the expressions of a statement and of the
columns of a table.

* `GoesOn.sound`, `GoesOn.complete`, `GoesOn.blame` — behind an item, such a parser keeps the
  contract of the items behind their commas;
* `Starts.recognizes` — from its start, it reads whole lists.

A list has to look at the token behind it: it ends in front of a stop and nowhere else, or at the
end of the tokens where that is allowed.
-/

namespace SqlShell.Grammar

variable {β : Type}

/-! ## The shape of a list -/

def itemThen (item : Cursor → Parse β) (more : Cursor → Parse (List β)) :
    Cursor → Parse (List β) :=
  Grammar.andThen item fun x cursor => (more cursor).map fun (xs, later) => (x :: xs, later)

/-- What the end of the tokens means to an open list: it is closed, or something is missing. -/
def atEnd (missing : Option Expectation) (position : Nat) : Parse (List β) :=
  match missing with
  | none => .ok ([], ⟨position, []⟩)
  | some expected => .error ⟨position, expected, none⟩

/-- How a list goes on behind an item. -/
structure GoesOn (item : Cursor → Parse β) (Stop : Token → Prop) (missing : Option Expectation)
    (more : Cursor → Parse (List β)) : Prop where
  nil : ∀ position, more ⟨position, []⟩ = atEnd missing position
  stop : ∀ position {token} rest, Stop token →
    more ⟨position, token :: rest⟩ = .ok ([], ⟨position, token :: rest⟩)
  comma : ∀ position {token} rest, ¬ Stop token → token.IsSymbol .comma →
    more ⟨position, token :: rest⟩ = itemThen item more ⟨position + 1, rest⟩
  other : ∀ position {token} rest, ¬ Stop token → ¬ token.IsSymbol .comma →
    more ⟨position, token :: rest⟩ = .error ⟨position, .token (.symbol .comma), some token⟩

/-- How a list starts. -/
structure Starts (item : Cursor → Parse β) (Stop : Token → Prop) (missing : Option Expectation)
    (more list : Cursor → Parse (List β)) : Prop where
  nil : ∀ position, list ⟨position, []⟩ = atEnd missing position
  stop : ∀ position {token} rest, Stop token →
    list ⟨position, token :: rest⟩ = .ok ([], ⟨position, token :: rest⟩)
  item : ∀ position {token} rest, ¬ Stop token →
    list ⟨position, token :: rest⟩ = itemThen item more ⟨position, token :: rest⟩

/-- What stands behind a list. -/
def Ends (Stop : Token → Prop) (missing : Option Expectation) (_ : List β) :
    Option Token → Prop
  | none => missing = none
  | some token => Stop token

inductive Separated (Item : β → List Token → Prop) : List β → List Token → Prop where
  | nil : Separated Item [] []
  | cons {comma x xs front back} (separator : comma.IsSymbol .comma) (first : Item x front)
      (more : Separated Item xs back) : Separated Item (x :: xs) (comma :: (front ++ back))

def Listed (Item : β → List Token → Prop) (items : List β) (tokens : List Token) : Prop :=
  ∃ x xs front back, Item x front ∧ Separated Item xs back ∧ items = x :: xs ∧
    tokens = front ++ back

section
variable {item : Cursor → Parse β} {more : Cursor → Parse (List β)}
  {Item : β → List Token → Prop} {Stop : Token → Prop} {missing : Option Expectation}

theorem itemThen_of_ok {cursor middle : Cursor} {x : β} (h : item cursor = .ok (x, middle)) :
    itemThen item more cursor = (more middle).map fun (xs, later) => (x :: xs, later) :=
  andThen_of_ok h

theorem itemThen_of_error {cursor : Cursor} {mismatch : Mismatch}
    (h : item cursor = .error mismatch) : itemThen item more cursor = .error mismatch :=
  andThen_of_error h

theorem itemThen_eq_ok {cursor later : Cursor} {items : List β}
    (h : itemThen item more cursor = .ok (items, later)) :
    ∃ x xs middle, item cursor = .ok (x, middle) ∧ more middle = .ok (xs, later) ∧
      items = x :: xs := by
  cases read : item cursor with
  | error mismatch => rw [itemThen_of_error read] at h; cases h
  | ok parsed =>
    obtain ⟨x, middle⟩ := parsed
    rw [itemThen_of_ok read] at h
    obtain ⟨⟨xs, end_⟩, read', same⟩ := Except.eq_ok_of_map_eq_ok h
    cases same
    exact ⟨x, xs, middle, rfl, read', rfl⟩

theorem itemThen_eq_error {cursor : Cursor} {mismatch : Mismatch}
    (h : itemThen item more cursor = .error mismatch) :
    item cursor = .error mismatch ∨
      ∃ x middle, item cursor = .ok (x, middle) ∧ more middle = .error mismatch := by
  cases read : item cursor with
  | error mismatch' => rw [itemThen_of_error read] at h; cases h; exact .inl rfl
  | ok parsed =>
    obtain ⟨x, middle⟩ := parsed
    rw [itemThen_of_ok read] at h
    cases read' : more middle with
    | error mismatch' => rw [read'] at h; cases h; exact .inr ⟨x, middle, rfl, read'⟩
    | ok parsed => rw [read'] at h; cases h

/-! ## Behind an item -/

/-- An item and what follows it read a non-empty list, if what follows does so on all shorter texts:
this is the step of the inductions on the length of the text. -/
theorem blame_itemThen (h : Recognizes item Item Free) {position : Nat}
    {tokens : List Token} {mismatch : Mismatch}
    (blame : ∀ {place rest}, rest.length ≤ tokens.length → more ⟨place, rest⟩ = .error mismatch →
      ∃ passed left, rest = passed ++ left ∧
        Blames more (Separated Item) (Ends Stop missing) place passed left mismatch)
    (failed : itemThen item more ⟨position, tokens⟩ = .error mismatch) :
    ∃ passed rest, tokens = passed ++ rest ∧
      Blames (itemThen item more) (Listed Item) (Ends Stop missing) position passed rest
        mismatch := by
  rcases itemThen_eq_error failed with failed | ⟨x, ⟨place, left⟩, read, behind⟩
  · -- the item itself fails: with the expected token it could have been the last one
    obtain ⟨passed, rest, split, blamed⟩ := h.blame failed
    refine ⟨passed, rest, split, blamed.position_eq, blamed.found_eq, blamed.plain, ?_, ?_⟩
    · intro token admitted
      rcases blamed.helps token admitted with ⟨x, tail, first⟩ | ⟨_, -, -, opened⟩
      · exact .inl ⟨[x], tail, x, [], _, [], first, .nil, rfl, by simp⟩
      · exact absurd trivial opened
    · exact fun other same => itemThen_of_error (blamed.steady other same)
  · -- the item stands, and the failure is one of the list behind it
    obtain ⟨front, rfl, rfl, first, -⟩ := h.sound read
    obtain ⟨passed, rest, rfl, blamed⟩ := blame (by simp) behind
    refine ⟨front ++ passed, rest, by simp, by simp [blamed.position_eq, Nat.add_assoc],
      blamed.found_eq, blamed.plain, ?_, ?_⟩
    · intro token admitted
      rcases blamed.helps token admitted with ⟨xs, tail, separated⟩ | ⟨xs, separated, close, opened⟩
      · exact .inl ⟨x :: xs, tail, x, xs, front, _, first, separated, rfl, by simp⟩
      · exact .inr ⟨x :: xs, ⟨x, xs, front, passed, first, separated, rfl, rfl⟩, close, opened⟩
    · intro other same
      rw [List.append_assoc, itemThen_of_ok (h.complete first trivial), blamed.steady other same]
      rfl

namespace GoesOn

theorem sound (h : GoesOn item Stop missing more) (hitem : Recognizes item Item Free) :
    ∀ {tokens : List Token} {position : Nat} {xs : List β} {later : Cursor},
      more ⟨position, tokens⟩ = .ok (xs, later) →
      ∃ passed, tokens = passed ++ later.rest ∧ later.position = position + passed.length ∧
        Separated Item xs passed ∧ Ends Stop missing xs later.rest.head?
  | [], position, xs, later, read => by
    rw [h.nil] at read
    cases missing with
    | none => cases read; exact ⟨[], rfl, rfl, .nil, rfl⟩
    | some expected => cases read
  | token :: rest, position, xs, later, read => by
    by_cases stop : Stop token
    · rw [h.stop position rest stop] at read
      cases read
      exact ⟨[], rfl, rfl, .nil, stop⟩
    by_cases comma : token.IsSymbol .comma
    · rw [h.comma position rest stop comma] at read
      obtain ⟨x, xs, middle, read₁, read₂, rfl⟩ := itemThen_eq_ok read
      obtain ⟨front, split, moved, first, -⟩ := hitem.sound read₁
      -- the comma makes the text behind the item shorter
      have : middle.rest.length < (token :: rest).length := by
        rw [split, List.length_cons, List.length_append]
        omega
      obtain ⟨back, split', moved', separated, ends⟩ := h.sound hitem read₂
      refine ⟨token :: (front ++ back), by simp [split, split'], ?_,
        .cons comma first separated, ends⟩
      simp only [moved', moved, List.length_cons, List.length_append]
      omega
    · rw [h.other position rest stop comma] at read
      cases read
termination_by tokens => tokens.length

theorem complete (h : GoesOn item Stop missing more) (hitem : Recognizes item Item Free)
    (comma : ∀ token, token.IsSymbol .comma → ¬ Stop token) {xs : List β} {passed : List Token}
    (separated : Separated Item xs passed) {position : Nat} {rest : List Token}
    (ends : Ends Stop missing xs rest.head?) :
    more ⟨position, passed ++ rest⟩ = .ok (xs, ⟨position + passed.length, rest⟩) := by
  induction separated generalizing position with
  | nil =>
    cases rest with
    | nil =>
      cases missing with
      | none => exact h.nil position
      | some expected => cases ends
    | cons token rest => exact h.stop position rest ends
  | cons separator first _ ih =>
    rw [List.cons_append, h.comma _ _ (comma _ separator) separator, List.append_assoc,
      itemThen_of_ok (hitem.complete first trivial), ih ends]
    simp only [Except.map, List.length_cons, List.length_append]
    congr 3
    omega

theorem blame (h : GoesOn item Stop missing more) (hitem : Recognizes item Item Free)
    (closing : ∀ expected ∈ missing, expected.IsPlain ∧
      ∀ token, expected.Admits token → Stop token) :
    ∀ {tokens : List Token} {position : Nat} {mismatch : Mismatch},
      more ⟨position, tokens⟩ = .error mismatch →
      ∃ passed rest, tokens = passed ++ rest ∧
        Blames more (Separated Item) (Ends Stop missing) position passed rest mismatch
  | [], position, mismatch, failed => by
    rw [h.nil] at failed
    cases missing with
    | none => cases failed
    | some expected =>
      cases failed
      obtain ⟨plain, closes⟩ := closing expected rfl
      refine ⟨[], [], rfl, rfl, rfl, plain, ?_, ?_⟩
      · exact fun token admitted => .inr ⟨[], .nil, closes token admitted, by simp [Ends]⟩
      · intro other same
        rw [List.head?_eq_none_iff.1 same]
        exact h.nil position
  | token :: rest, position, mismatch, failed => by
    by_cases stop : Stop token
    · rw [h.stop position rest stop] at failed
      cases failed
    by_cases separator : token.IsSymbol .comma
    · rw [h.comma position rest stop separator] at failed
      obtain ⟨passed, left, rfl, blamed⟩ := blame_itemThen hitem
        (fun shorter behind => h.blame hitem closing behind) failed
      have moved : mismatch.position = position + (token :: passed).length := by
        rw [blamed.position_eq, List.length_cons]
        omega
      refine ⟨token :: passed, left, rfl, moved, blamed.found_eq, blamed.plain, ?_, ?_⟩
      · intro next admitted
        rcases blamed.helps next admitted with
          ⟨_, tail, x, xs, front, back, first, separated, rfl, same⟩ |
            ⟨_, ⟨x, xs, front, back, first, separated, rfl, rfl⟩, close, opened⟩
        · exact .inl ⟨x :: xs, tail, by
            rw [List.cons_append, same]; exact .cons separator first separated⟩
        · exact .inr ⟨x :: xs, .cons separator first separated, close, opened⟩
      · intro other same
        rw [List.cons_append, h.comma _ _ stop separator]
        exact blamed.steady other same
    · -- a comma and any item would have led on
      rw [h.other position rest stop separator] at failed
      cases failed
      refine ⟨[], token :: rest, rfl, rfl, rfl, .inr ⟨_, rfl⟩, ?_, ?_⟩
      · intro next admitted
        obtain ⟨x, front, first⟩ := hitem.inhabited
        exact .inl ⟨[x], front, by simpa using Separated.cons admitted first .nil⟩
      · intro other same
        obtain ⟨tail, rfl⟩ := List.head?_eq_some_iff.1 same
        exact h.other position tail stop separator
termination_by tokens => tokens.length

end GoesOn

/-! ## Whole lists -/

def Lists (Item : β → List Token → Prop) (items : List β) (tokens : List Token) : Prop :=
  (items = [] ∧ tokens = []) ∨ Listed Item items tokens

/-- What has to hold of the items and of the stops for a list to know where it ends. -/
structure Separable (Item : β → List Token → Prop) (Stop : Token → Prop)
    (missing : Option Expectation) : Prop where
  comma : ∀ token, token.IsSymbol .comma → ¬ Stop token
  first : ∀ {x tokens}, Item x tokens → ∃ token more, tokens = token :: more ∧ ¬ Stop token
  closing : ∀ expected ∈ missing, expected.IsPlain ∧
    ∀ token, expected.Admits token → Stop token

theorem Starts.recognizes {list : Cursor → Parse (List β)}
    (h : Starts item Stop missing more list) (hmore : GoesOn item Stop missing more)
    (hitem : Recognizes item Item Free) (separable : Separable Item Stop missing) :
    Recognizes list (Lists Item) (Ends Stop missing) where
  inhabited := ⟨[], [], .inl ⟨rfl, rfl⟩⟩
  sound := by
    intro position tokens items later read
    cases tokens with
    | nil =>
      rw [h.nil] at read
      cases missing with
      | none => cases read; exact ⟨[], rfl, rfl, .inl ⟨rfl, rfl⟩, rfl⟩
      | some expected => cases read
    | cons token rest =>
      by_cases stop : Stop token
      · rw [h.stop position rest stop] at read
        cases read
        exact ⟨[], rfl, rfl, .inl ⟨rfl, rfl⟩, stop⟩
      · rw [h.item position rest stop] at read
        obtain ⟨x, xs, middle, read₁, read₂, rfl⟩ := itemThen_eq_ok read
        obtain ⟨front, split, moved, first, -⟩ := hitem.sound read₁
        obtain ⟨back, split', moved', separated, ends⟩ := hmore.sound hitem read₂
        exact ⟨front ++ back, by simp [split, split'], by simp [moved, moved', Nat.add_assoc],
          .inr ⟨x, xs, front, back, first, separated, rfl, rfl⟩, ends⟩
  complete := by
    rintro position items passed rest
      (⟨rfl, rfl⟩ | ⟨x, xs, front, back, first, separated, rfl, rfl⟩) ends
    · cases rest with
      | nil =>
        cases missing with
        | none => exact h.nil position
        | some expected => cases ends
      | cons token rest => exact h.stop position rest ends
    · obtain ⟨token, others, shape, inside⟩ := separable.first first
      have start : list ⟨position, front ++ back ++ rest⟩ =
          itemThen item more ⟨position, front ++ (back ++ rest)⟩ := by
        rw [List.append_assoc, shape]
        exact h.item position _ inside
      rw [start, itemThen_of_ok (hitem.complete first trivial),
        hmore.complete hitem separable.comma separated ends]
      simp [Except.map, Nat.add_assoc]
  blame := by
    intro position tokens mismatch failed
    cases tokens with
    | nil =>
      rw [h.nil] at failed
      cases missing with
      | none => cases failed
      | some expected =>
        cases failed
        obtain ⟨plain, closes⟩ := separable.closing expected rfl
        refine ⟨[], [], rfl, rfl, rfl, plain, ?_, ?_⟩
        · exact fun token admitted =>
            .inr ⟨[], .inl ⟨rfl, rfl⟩, closes token admitted, by simp [Ends]⟩
        · intro other same
          rw [List.head?_eq_none_iff.1 same]
          exact h.nil position
    | cons token rest =>
      by_cases stop : Stop token
      · rw [h.stop position rest stop] at failed
        cases failed
      · have start := h.item position rest stop
        rw [start] at failed
        obtain ⟨passed, left, split, blamed⟩ := blame_itemThen hitem
          (fun _ behind => hmore.blame hitem separable.closing behind) failed
        refine ⟨passed, left, split, blamed.position_eq, blamed.found_eq, blamed.plain, ?_, ?_⟩
        · intro next admitted
          rcases blamed.helps next admitted with ⟨xs, tail, listed⟩ | ⟨xs, listed, close, opened⟩
          · exact .inl ⟨xs, tail, .inr listed⟩
          · exact .inr ⟨xs, .inr listed, close, opened⟩
        · intro other same
          -- whatever follows, the list still starts with the same token
          obtain ⟨tail, shape⟩ := append_eq_cons_of_head?_eq split same
          rw [shape, h.item position tail stop, ← shape]
          exact blamed.steady other same

end

end SqlShell.Grammar
