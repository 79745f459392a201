import SqlShell.Grammar.Cursor
import SqlShell.Proofs.Grammar.Derivation

/-!
# Contracts of parsers

What it means that a parser reads a language, and how the contract of a sequence follows from those
of its parts. The contract has three sides, because a parser that fails has to fail rightly:

* `Recognizes.sound`, `Recognizes.complete` — the parser succeeds on the texts of the language, and
  on nothing else, and stops behind them;
* `Recognizes.blame` — where it fails, all tokens in front were right (`Blames`): any token that
  meets the stated expectation would have led on, and the token that stands there leads to the same
  failure whatever follows it.

A parser may have to look at the token behind what it reads, as a list does to find its end. The
condition on that token is the `Follow` of the contract.
-/

namespace SqlShell

/-! ## Expectations -/

/-- Whether a token meets an expectation. -/
def Expectation.Admits : Expectation → Token → Prop
  | .token pattern, candidate => candidate.Agrees pattern
  | .closing stops, candidate => ∃ stop ∈ stops, candidate.Agrees stop
  | .tableName, candidate | .columnName, candidate => candidate.kind = .identifier
  | .columnType, candidate => candidate.kind = .keyword
  | .expression, candidate => candidate.IsLiteral

/-- An expectation that names one keyword, one symbol or one class of tokens, as all the statement
grammars do. -/
def Expectation.IsPlain : Expectation → Prop
  | .token pattern => (∃ word, pattern = .keyword word) ∨ ∃ mark, pattern = .symbol mark
  | .closing stops => ∃ mark, stops = [.symbol mark]
  | .tableName | .columnName | .columnType | .expression => True

namespace Grammar

variable {α β : Type}

/-! ## The contract -/

/-- A failure behind the tokens `passed`, in front of `rest`. -/
structure Blames (parser : Cursor → Parse α) (Language : α → List Token → Prop)
    (Follow : α → Option Token → Prop) (position : Nat) (passed rest : List Token)
    (mismatch : Mismatch) : Prop where
  position_eq : mismatch.position = position + passed.length
  found_eq : mismatch.found = rest.head?
  plain : mismatch.expected.IsPlain
  /-- An expected token goes on with a text of the language, or closes one. -/
  helps : ∀ token, mismatch.expected.Admits token →
    (∃ a more, Language a (passed ++ token :: more)) ∨
      ∃ a, Language a passed ∧ Follow a (some token) ∧ ¬ Follow a none
  /-- Nothing behind the place of the failure matters to it. -/
  steady : ∀ other, other.head? = rest.head? →
    parser ⟨position, passed ++ other⟩ = .error mismatch

/-- A parser reads the texts of a language that are followed as they should be. -/
structure Recognizes (parser : Cursor → Parse α) (Language : α → List Token → Prop)
    (Follow : α → Option Token → Prop) : Prop where
  inhabited : ∃ a tokens, Language a tokens
  sound : ∀ {position tokens a later}, parser ⟨position, tokens⟩ = .ok (a, later) →
    ∃ passed, tokens = passed ++ later.rest ∧ later.position = position + passed.length ∧
      Language a passed ∧ Follow a later.rest.head?
  complete : ∀ {position a passed rest}, Language a passed → Follow a rest.head? →
    parser ⟨position, passed ++ rest⟩ = .ok (a, ⟨position + passed.length, rest⟩)
  blame : ∀ {position tokens mismatch}, parser ⟨position, tokens⟩ = .error mismatch →
    ∃ passed rest, tokens = passed ++ rest ∧
      Blames parser Language Follow position passed rest mismatch

/-- Texts with the same first token in front of the place of a failure, and at it, start alike. -/
theorem append_eq_cons_of_head?_eq {token : Token} {rest passed left other : List Token}
    (split : token :: rest = passed ++ left) (same : other.head? = left.head?) :
    ∃ tail, passed ++ other = token :: tail := by
  cases passed with
  | nil =>
    rw [List.nil_append] at split ⊢
    rw [← split] at same
    exact List.head?_eq_some_iff.1 same
  | cons first passed =>
    cases (List.cons.inj split).1
    exact ⟨_, rfl⟩

/-- The condition of a parser that never looks further. -/
def Free (_ : α) (_ : Option Token) : Prop := True

theorem Recognizes.congr {parser : Cursor → Parse α} {Language Language' : α → List Token → Prop}
    {Follow : α → Option Token → Prop} (h : Recognizes parser Language Follow)
    (same : ∀ a tokens, Language a tokens ↔ Language' a tokens) :
    Recognizes parser Language' Follow := by
  have : Language = Language' := funext fun a => funext fun tokens => propext (same a tokens)
  exact this ▸ h

/-- A condition that nothing in the language has to meet may be left out or put in. -/
theorem Recognizes.of_free {parser : Cursor → Parse α} {Language : α → List Token → Prop}
    {Follow : α → Option Token → Prop} (h : Recognizes parser Language Free)
    (holds : ∀ {a tokens}, Language a tokens → ∀ next, Follow a next) :
    Recognizes parser Language Follow where
  inhabited := h.inhabited
  sound read := by
    obtain ⟨passed, split, moved, inside, -⟩ := h.sound read
    exact ⟨passed, split, moved, inside, holds inside _⟩
  complete inside _ := h.complete inside trivial
  blame failed := by
    obtain ⟨passed, rest, split, blamed⟩ := h.blame failed
    refine ⟨passed, rest, split, blamed.position_eq, blamed.found_eq, blamed.plain, ?_,
      blamed.steady⟩
    intro token admitted
    rcases blamed.helps token admitted with helps | ⟨a, -, -, opened⟩
    · exact .inl helps
    · exact absurd trivial opened

/-! ## Single tokens -/

def One (Class : Token → Prop) (token : Token) (tokens : List Token) : Prop :=
  Class token ∧ tokens = [token]

@[simp] theorem take_nil (accepts : Token → Bool) (expected : Expectation) (position : Nat) :
    Cursor.take accepts expected ⟨position, []⟩ = .error ⟨position, expected, none⟩ := rfl

@[simp] theorem take_cons (accepts : Token → Bool) (expected : Expectation) (position : Nat)
    (token : Token) (rest : List Token) :
    Cursor.take accepts expected ⟨position, token :: rest⟩ =
      if accepts token then .ok (token, ⟨position + 1, rest⟩)
      else .error ⟨position, expected, some token⟩ := by
  simp only [Cursor.take, Cursor.take?, Cursor.current?, List.head?_cons]
  cases accepts token <;> rfl

theorem recognizes_take {Class : Token → Prop} [DecidablePred Class] {expected : Expectation}
    (plain : expected.IsPlain) (admits : ∀ token, expected.Admits token → Class token)
    (inhabited : ∃ token, Class token) :
    Recognizes (Cursor.take (fun token => decide (Class token)) expected) (One Class) Free where
  inhabited := by
    obtain ⟨token, inside⟩ := inhabited
    exact ⟨token, [token], inside, rfl⟩
  sound := by
    intro position tokens token later read
    cases tokens with
    | nil => cases read
    | cons first rest =>
      rw [take_cons] at read
      split at read
      · next inside =>
        cases read
        exact ⟨[_], rfl, rfl, ⟨of_decide_eq_true inside, rfl⟩, trivial⟩
      · cases read
  complete := by
    rintro position token passed rest ⟨inside, rfl⟩ -
    simp [inside]
  blame := by
    intro position tokens mismatch failed
    refine ⟨[], tokens, rfl, ?_⟩
    have helps : ∀ token, expected.Admits token →
        (∃ a more, One Class a ([] ++ token :: more)) ∨
          ∃ a, One Class a [] ∧ Free a (some token) ∧ ¬ Free a none :=
      fun token admitted => .inl ⟨token, [], admits token admitted, rfl⟩
    cases tokens with
    | nil =>
      cases failed
      refine ⟨rfl, rfl, plain, helps, fun other same => ?_⟩
      cases List.head?_eq_none_iff.1 same
      rfl
    | cons first rest =>
      rw [take_cons] at failed
      split at failed
      · cases failed
      · next outside =>
        cases failed
        refine ⟨rfl, rfl, plain, helps, fun other same => ?_⟩
        obtain ⟨more, rfl⟩ := List.head?_eq_some_iff.1 same
        simpa using outside

theorem recognizes_ok (a : α) :
    Recognizes (fun cursor => .ok (a, cursor)) (fun b tokens => b = a ∧ tokens = []) Free where
  inhabited := ⟨a, [], rfl, rfl⟩
  sound := by
    intro position tokens b later read
    cases read
    exact ⟨[], rfl, rfl, ⟨rfl, rfl⟩, trivial⟩
  complete := by
    rintro position b passed rest ⟨rfl, rfl⟩ -
    rfl
  blame := by
    intro position tokens mismatch failed
    cases failed

/-! ## Sequences -/

def andThen (first : Cursor → Parse α) (second : α → Cursor → Parse β) (cursor : Cursor) :
    Except Mismatch (β × Cursor) :=
  first cursor >>= fun parsed => second parsed.1 parsed.2

def Sequence (First : α → List Token → Prop) (Second : α → β → List Token → Prop) (b : β)
    (tokens : List Token) : Prop :=
  ∃ a front back, First a front ∧ Second a b back ∧ tokens = front ++ back

theorem sequence_one {Class : Token → Prop} {Second : Token → β → List Token → Prop} {b : β}
    {tokens : List Token} : Sequence (One Class) Second b tokens ↔
      ∃ token back, Class token ∧ Second token b back ∧ tokens = token :: back := by
  constructor
  · rintro ⟨token, _, back, ⟨inside, rfl⟩, hback, rfl⟩
    exact ⟨token, back, inside, hback, rfl⟩
  · rintro ⟨token, back, inside, hback, rfl⟩
    exact ⟨token, [token], back, ⟨inside, rfl⟩, hback, rfl⟩

theorem andThen_of_ok {first : Cursor → Parse α} {second : α → Cursor → Parse β}
    {cursor later : Cursor} {a : α} (h : first cursor = .ok (a, later)) :
    andThen first second cursor = second a later := by
  simp only [andThen, h]
  rfl

theorem andThen_of_error {first : Cursor → Parse α} {second : α → Cursor → Parse β}
    {cursor : Cursor} {mismatch : Mismatch} (h : first cursor = .error mismatch) :
    andThen first second cursor = .error mismatch := by
  simp only [andThen, h]
  rfl

/-- A sequence reads what its parts read in turn. The second part must accept what the first looks
for behind its own text: `joins` says how the conditions on the following token fit together, and
`closes` that a token which closes the first part starts the second. -/
theorem Recognizes.andThen {first : Cursor → Parse α} {second : α → Cursor → Parse β}
    {First : α → List Token → Prop} {Second : α → β → List Token → Prop}
    {FollowFirst : α → Option Token → Prop} {FollowSecond Follow : β → Option Token → Prop}
    (h : Recognizes first First FollowFirst)
    (h' : ∀ a, Recognizes (second a) (Second a) FollowSecond)
    (joins : ∀ {a b front back rest}, First a front → Second a b back →
      (Follow b rest.head? ↔ FollowFirst a (back ++ rest).head? ∧ FollowSecond b rest.head?))
    (closes : ∀ {a token}, FollowFirst a (some token) → ¬ FollowFirst a none →
      ∃ b more, Second a b (token :: more))
    (ends : ∀ b, FollowSecond b none) :
    Recognizes (Grammar.andThen first second) (Sequence First Second) Follow where
  inhabited := by
    obtain ⟨a, front, hfront⟩ := h.inhabited
    obtain ⟨b, back, hback⟩ := (h' a).inhabited
    exact ⟨b, front ++ back, a, front, back, hfront, hback, rfl⟩
  sound := by
    intro position tokens b later read
    cases read₁ : first ⟨position, tokens⟩ with
    | error => rw [andThen_of_error read₁] at read; cases read
    | ok parsed =>
      obtain ⟨a, middle⟩ := parsed
      rw [andThen_of_ok read₁] at read
      obtain ⟨front, split, moved, hfront, follow⟩ := h.sound read₁
      obtain ⟨back, split', moved', hback, follow'⟩ := (h' a).sound read
      refine ⟨front ++ back, by simp [split, split'], by simp [moved, moved', Nat.add_assoc],
        ⟨a, front, back, hfront, hback, rfl⟩, (joins hfront hback).2 ⟨?_, follow'⟩⟩
      rwa [split'] at follow
  complete := by
    rintro position b passed rest ⟨a, front, back, hfront, hback, rfl⟩ follow
    obtain ⟨follow₁, follow₂⟩ := (joins hfront hback).1 follow
    rw [List.append_assoc, andThen_of_ok (h.complete hfront follow₁),
      (h' a).complete hback follow₂, List.length_append, Nat.add_assoc]
  blame := by
    intro position tokens mismatch failed
    cases read₁ : first ⟨position, tokens⟩ with
    | error =>
      -- what the first part expects either leads on in it, or closes it and starts the second
      rw [andThen_of_error read₁] at failed
      cases failed
      obtain ⟨passed, rest, split, blamed⟩ := h.blame read₁
      refine ⟨passed, rest, split, blamed.position_eq, blamed.found_eq, blamed.plain, ?_, ?_⟩
      · intro token admitted
        rcases blamed.helps token admitted with ⟨a, more, hfront⟩ | ⟨a, hfront, close, opened⟩
        · obtain ⟨b, back, hback⟩ := (h' a).inhabited
          exact .inl ⟨b, more ++ back, a, _, back, hfront, hback, by simp⟩
        · obtain ⟨b, more, hback⟩ := closes close opened
          exact .inl ⟨b, more, a, passed, _, hfront, hback, rfl⟩
      · exact fun other same => andThen_of_error (blamed.steady other same)
    | ok parsed =>
      obtain ⟨a, ⟨place, left⟩⟩ := parsed
      rw [andThen_of_ok read₁] at failed
      obtain ⟨front, split, rfl, hfront, follow⟩ := h.sound read₁
      obtain ⟨passed, rest, rfl, blamed⟩ := (h' a).blame failed
      refine ⟨front ++ passed, rest, by simp [split], ?_, blamed.found_eq, blamed.plain, ?_, ?_⟩
      · simp [blamed.position_eq, Nat.add_assoc]
      · intro token admitted
        rcases blamed.helps token admitted with ⟨b, more, hback⟩ | ⟨b, -, -, opened⟩
        · exact .inl ⟨b, more, a, front, _, hfront, hback, by simp⟩
        · exact absurd (ends b) opened
      · intro other same
        -- the token behind the first part is still the same, so it is read again
        have follow' : FollowFirst a (passed ++ other).head? := by
          cases passed with
          | nil => simpa [same] using follow
          | cons token passed => exact follow
        rw [List.append_assoc, andThen_of_ok (h.complete hfront follow')]
        exact blamed.steady other same

theorem Recognizes.andThen_of_free {first : Cursor → Parse α} {second : α → Cursor → Parse β}
    {First : α → List Token → Prop} {Second : α → β → List Token → Prop}
    {Follow : β → Option Token → Prop} (h : Recognizes first First Free)
    (h' : ∀ a, Recognizes (second a) (Second a) Follow) (ends : ∀ b, Follow b none) :
    Recognizes (Grammar.andThen first second) (Sequence First Second) Follow :=
  h.andThen h' (fun _ _ => ⟨fun follow => ⟨trivial, follow⟩, And.right⟩)
    (fun _ impossible => absurd trivial impossible) ends

end Grammar

end SqlShell
