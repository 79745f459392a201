import SqlShell.Diagnosis.ParseError
import SqlShell.Proofs.Grammar.Contract

/-!
# What an error asks for

An error words what would have been right. `ParseFault.Admits` reads that wording back: it is the
class of the tokens that the error asks for. The wordings of the grammar are all different, so a
token that fits the wording of an expectation meets the expectation
(`Expectation.admits_of_fitsWording`).
-/

namespace SqlShell

/-- Whether a token fits an expectation as it is worded. -/
def FitsWording (wording : String) (token : Token) : Prop :=
  (∃ word : Keyword, wording = word.display ∧ token.IsKeyword word) ∨
  (∃ mark : Symbol, wording = mark.display ∧ token.IsSymbol mark) ∨
  ((wording = "table name" ∨ wording = "column name") ∧ token.kind = .identifier) ∨
  (wording = "column type" ∧ token.kind = .keyword) ∨
  (wording = "expression" ∧ token.IsLiteral)

namespace ParseFault

/-- Whether a token is one that the fault asks for. -/
def Admits : ParseFault → Token → Prop
  | statement _, candidate =>
    candidate.IsKeyword .select ∨ candidate.IsKeyword .insert ∨ candidate.IsKeyword .create
  | delimiter _, candidate => candidate.IsSymbol .semicolon
  | token expected _, candidate => FitsWording expected candidate
  | lex _, _ | unexplained, _ => False

/-- The value of the token that stands at the fault. -/
def found? : ParseFault → Option String
  | statement found => some found
  | delimiter found | token _ found => found
  | lex _ | unexplained => none

theorem message_of_found {fault : ParseFault} {value : String} (h : fault.found? = some value) :
    ∃ wanted, fault.message = wanted ++ ", found '" ++ value ++ "'" := by
  cases fault with
  | statement found =>
    cases h
    exact ⟨"Expected statement", rfl⟩
  | delimiter found =>
    cases h
    exact ⟨"Expected ';' delimiter between statements", rfl⟩
  | token expected found =>
    cases h
    exact ⟨"Expected " ++ expected, rfl⟩
  | lex | unexplained => cases h

theorem message_of_not_found {fault : ParseFault} (h : fault.found? = none)
    (admits : ∃ token, fault.Admits token) :
    ∃ wanted, fault.message = wanted ++ ", reached end of input" := by
  obtain ⟨candidate, admitted⟩ := admits
  cases fault with
  | statement found => cases h
  | delimiter found =>
    cases h
    exact ⟨"Expected ';' delimiter after statement", rfl⟩
  | token expected found =>
    cases h
    exact ⟨"Expected " ++ expected, rfl⟩
  | lex | unexplained => cases admitted

end ParseFault

/-! ## Wordings -/

theorem Keyword.display_injective {word other : Keyword} (h : word.display = other.display) :
    word = other := by
  cases word <;> cases other <;> first | rfl | exact absurd h (by decide)

theorem Symbol.display_injective {mark other : Symbol} (h : mark.display = other.display) :
    mark = other := by
  cases mark <;> cases other <;> first | rfl | exact absurd h (by decide)

theorem Keyword.display_ne_display (word : Keyword) (mark : Symbol) :
    word.display ≠ mark.display := by
  cases word <;> cases mark <;> decide

/-- The wordings that name a class of tokens. -/
def classWordings : List String :=
  ["table name", "column name", "column type", "expression"]

theorem Keyword.display_not_mem (word : Keyword) : word.display ∉ classWordings := by
  cases word <;> decide

theorem Symbol.display_not_mem (mark : Symbol) : mark.display ∉ classWordings := by
  cases mark <;> decide

theorem Keyword.describe_eq (word : Keyword) : (Token.keyword word).describe = word.display :=
  word.upper_spelling

theorem Symbol.describe_eq (mark : Symbol) : (Token.symbol mark).describe = mark.display := rfl

theorem fitsWording_keyword {word : Keyword} {token : Token}
    (h : FitsWording word.display token) : token.IsKeyword word := by
  have noClass {wording : String} (inside : wording ∈ classWordings) : word.display ≠ wording :=
    fun same => word.display_not_mem (same ▸ inside)
  rcases h with ⟨other, same, is_⟩ | ⟨mark, same, -⟩ | ⟨same | same, -⟩ | ⟨same, -⟩ | ⟨same, -⟩
  · exact Keyword.display_injective same ▸ is_
  · exact absurd same (word.display_ne_display mark)
  all_goals exact absurd same (noClass (by simp [classWordings]))

theorem fitsWording_symbol {mark : Symbol} {token : Token}
    (h : FitsWording mark.display token) : token.IsSymbol mark := by
  have noClass {wording : String} (inside : wording ∈ classWordings) : mark.display ≠ wording :=
    fun same => mark.display_not_mem (same ▸ inside)
  rcases h with ⟨word, same, -⟩ | ⟨other, same, is_⟩ | ⟨same | same, -⟩ | ⟨same, -⟩ | ⟨same, -⟩
  · exact absurd same.symm (word.display_ne_display mark)
  · exact Symbol.display_injective same ▸ is_
  all_goals exact absurd same (noClass (by simp [classWordings]))

theorem fitsWording_class {wording : String} {token : Token} (h : FitsWording wording token)
    (inside : wording ∈ classWordings) :
    ((wording = "table name" ∨ wording = "column name") ∧ token.kind = .identifier) ∨
      (wording = "column type" ∧ token.kind = .keyword) ∨
      (wording = "expression" ∧ token.IsLiteral) := by
  rcases h with ⟨word, same, -⟩ | ⟨mark, same, -⟩ | h
  · exact absurd (same ▸ inside) word.display_not_mem
  · exact absurd (same ▸ inside) mark.display_not_mem
  · exact h

theorem Expectation.admits_of_fitsWording {expected : Expectation} (plain : expected.IsPlain)
    {token : Token} (h : FitsWording expected.text token) : expected.Admits token := by
  -- a pattern is worded by its display, so an injective display tells the pattern
  cases expected with
  | token pattern =>
    rcases plain with ⟨word, rfl⟩ | ⟨mark, rfl⟩
    · rw [text, Keyword.describe_eq] at h
      exact fitsWording_keyword h
    · exact fitsWording_symbol h
  | closing stops =>
    obtain ⟨mark, rfl⟩ := plain
    exact ⟨_, List.mem_singleton_self _, fitsWording_symbol h⟩
  | tableName | columnName =>
    rcases fitsWording_class h (by simp [text, classWordings]) with h | h | h
    · exact h.2
    all_goals exact absurd h.1 (by simp [text])
  | columnType =>
    rcases fitsWording_class h (by simp [text, classWordings]) with h | h | h
    · exact absurd h.1 (by simp [text])
    · exact h.2
    · exact absurd h.1 (by simp [text])
  | expression =>
    rcases fitsWording_class h (by simp [text, classWordings]) with h | h | h
    · exact absurd h.1 (by simp [text])
    · exact absurd h.1 (by simp [text])
    · exact h.2

theorem Expectation.exists_fitsWording {expected : Expectation} (plain : expected.IsPlain) :
    ∃ token, FitsWording expected.text token := by
  cases expected with
  | token pattern =>
    rcases plain with ⟨word, rfl⟩ | ⟨mark, rfl⟩
    · exact ⟨.keyword word, .inl ⟨word, word.describe_eq, rfl, rfl⟩⟩
    · exact ⟨.symbol mark, .inr (.inl ⟨mark, rfl, rfl, rfl⟩)⟩
  | closing stops =>
    obtain ⟨mark, rfl⟩ := plain
    exact ⟨.symbol mark, .inr (.inl ⟨mark, rfl, rfl, rfl⟩)⟩
  | tableName => exact ⟨⟨.identifier, "", {}⟩, .inr (.inr (.inl ⟨.inl rfl, rfl⟩))⟩
  | columnName => exact ⟨⟨.identifier, "", {}⟩, .inr (.inr (.inl ⟨.inr rfl, rfl⟩))⟩
  | columnType => exact ⟨⟨.keyword, "", {}⟩, .inr (.inr (.inr (.inl ⟨rfl, rfl⟩)))⟩
  | expression => exact ⟨⟨.string, "", {}⟩, .inr (.inr (.inr (.inr ⟨rfl, .inr (.inr rfl)⟩)))⟩

end SqlShell
