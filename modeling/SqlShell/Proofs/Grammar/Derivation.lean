import SqlShell.Statement.Basic
import Mathlib.Data.List.Forall2

/-!
# Derivations

The grammar of scripts, apart from any way of reading it:

    script    := (statement ';'+)*
    statement := SELECT [literal (',' literal)*] [FROM name]
               | INSERT INTO name VALUES '(' [literal (',' literal)*] ')'
               | CREATE TABLE name '(' [column (',' column)*] ')'
    column    := name keyword

A derivation holds every token that it derives, each with the proof that it fits its place, so a
derivation that breaks the grammar cannot be built.

* `Derivation.tokens` — the tokens derived, in order;
* `Derivation.script` — the script that the derivation denotes, made of these very tokens;
* `Derivation.length_script` — there is a statement for each semicolon that follows no semicolon.
-/

namespace SqlShell.Grammar

/-! ## Trees -/

/-- A token of a class. -/
abbrev Terminal (Class : Token → Prop) := { token : Token // Class token }

abbrev Word (word : Keyword) := Terminal (·.IsKeyword word)

abbrev Mark (mark : Symbol) := Terminal (·.IsSymbol mark)

abbrev OfKind (kind : Kind) := Terminal (·.kind = kind)

abbrev Literal := Terminal Token.IsLiteral

/-- `[item (',' item)*]` -/
inductive Series (Item : Type) where
  | empty
  | items (first : Item) (more : List (Mark .comma × Item))

/-- `name keyword` -/
structure ColumnTree where
  name : OfKind .identifier
  datatype : OfKind .keyword

/-- `FROM name` -/
structure SourceTree where
  word : Word .from
  table : OfKind .identifier

inductive StatementTree where
  | select (verb : Word .select) (items : Series Literal) (source : Option SourceTree)
  | insert (verb : Word .insert) (into : Word .into) (table : OfKind .identifier)
      (values : Word .values) (opening : Mark .leftParen) (items : Series Literal)
      (closing : Mark .rightParen)
  | createTable (verb : Word .create) (noun : Word .table) (name : OfKind .identifier)
      (opening : Mark .leftParen) (columns : Series ColumnTree) (closing : Mark .rightParen)

inductive Form where
  | select
  | insert
  | createTable
  deriving Repr, DecidableEq

/-- The word that a statement of a form starts with. -/
def Form.verb : Form → Keyword
  | .select => .select
  | .insert => .insert
  | .createTable => .create

def StatementTree.form : StatementTree → Form
  | .select .. => .select
  | .insert .. => .insert
  | .createTable .. => .createTable

/-- `statement ';'+` -/
structure Clause where
  statement : StatementTree
  semicolon : Mark .semicolon
  more : List (Mark .semicolon)

/-- `(statement ';'+)*` -/
abbrev Derivation := List Clause

/-! ## The tokens of a tree -/

/-- Items, each behind its comma. -/
def separatedTokens {Item : Type} (tokensOf : Item → List Token)
    (more : List (Mark .comma × Item)) : List Token :=
  more.flatMap fun part => part.1.1 :: tokensOf part.2

def Series.tokens {Item : Type} (tokensOf : Item → List Token) : Series Item → List Token
  | .empty => []
  | .items first more => tokensOf first ++ separatedTokens tokensOf more

def Literal.tokens (literal : Literal) : List Token :=
  [literal.1]

def ColumnTree.tokens (column : ColumnTree) : List Token :=
  [column.name.1, column.datatype.1]

def SourceTree.tokens (source : SourceTree) : List Token :=
  [source.word.1, source.table.1]

def StatementTree.tokens : StatementTree → List Token
  | .select verb items source =>
    verb.1 :: (items.tokens Literal.tokens ++ (source.map (·.tokens)).getD [])
  | .insert verb into table values opening items closing =>
    verb.1 :: into.1 :: table.1 :: values.1 :: opening.1 ::
      (items.tokens Literal.tokens ++ [closing.1])
  | .createTable verb noun name opening columns closing =>
    verb.1 :: noun.1 :: name.1 :: opening.1 ::
      (columns.tokens ColumnTree.tokens ++ [closing.1])

def Clause.tokens (clause : Clause) : List Token :=
  clause.statement.tokens ++ clause.semicolon.1 :: clause.more.map (·.1)

def Derivation.tokens (derivation : Derivation) : List Token :=
  derivation.flatMap Clause.tokens

/-! ## What a tree denotes -/

def Series.toList {Item : Type} : Series Item → List Item
  | .empty => []
  | .items first more => first :: more.map (·.2)

def ColumnTree.column (column : ColumnTree) : ColumnDefinition :=
  ⟨column.name.1, column.datatype.1⟩

def StatementTree.statement : StatementTree → Statement
  | .select _ items source => .select (items.toList.map (·.1)) (source.map (·.table.1))
  | .insert _ _ table _ _ items _ => .insert table.1 (items.toList.map (·.1))
  | .createTable _ _ name _ columns _ => .createTable name.1 (columns.toList.map (·.column))

def Derivation.script (derivation : Derivation) : Script :=
  derivation.map (·.statement.statement)

@[simp] theorem Derivation.tokens_nil : Derivation.tokens [] = [] := rfl

@[simp] theorem Derivation.tokens_cons (clause : Clause) (derivation : Derivation) :
    Derivation.tokens (clause :: derivation) = clause.tokens ++ Derivation.tokens derivation := rfl

@[simp] theorem Derivation.script_nil : Derivation.script [] = [] := rfl

@[simp] theorem Derivation.script_cons (clause : Clause) (derivation : Derivation) :
    Derivation.script (clause :: derivation) =
      clause.statement.statement :: Derivation.script derivation := rfl

/-! ## Classes of tokens

A token has one kind, and a keyword or a symbol one spelling, so the classes that the grammar tells
apart are disjoint. -/

theorem not_isLiteral_of_isKeyword {token : Token} {word : Keyword} (h : token.IsKeyword word) :
    ¬ token.IsLiteral := by
  have kind : token.kind = .keyword := h.1
  simp [Token.IsLiteral, kind]

theorem not_isLiteral_of_isSymbol {token : Token} {mark : Symbol} (h : token.IsSymbol mark) :
    ¬ token.IsLiteral := by
  have kind : token.kind = .symbol := h.1
  simp [Token.IsLiteral, kind]

theorem not_isSymbol_of_isKeyword {token : Token} {word : Keyword} {mark : Symbol}
    (h : token.IsKeyword word) : ¬ token.IsSymbol mark := by
  intro h'
  have kind : token.kind = .keyword := h.1
  exact absurd (kind.symm.trans h'.1) (by simp [Token.symbol])

theorem eq_of_isSymbol {token : Token} {mark mark' : Symbol} (h : token.IsSymbol mark)
    (h' : token.IsSymbol mark') : mark = mark' := by
  have same : mark.spelling = mark'.spelling := h.2.symm.trans h'.2
  cases mark <;> cases mark' <;> simp_all [Symbol.spelling]

theorem eq_of_isKeyword {token : Token} {word word' : Keyword} (h : token.IsKeyword word)
    (h' : token.IsKeyword word') : word = word' := by
  have same : word.spelling = word'.spelling := h.2.symm.trans h'.2
  cases word <;> cases word' <;> simp_all [Keyword.spelling]

theorem isLiteral_of_identifier {token : Token} (h : token.kind = .identifier) :
    token.IsLiteral :=
  .inl h

/-- What may follow a list: neither a comma nor the start of an item. -/
def EndsSeries (token : Token) : Prop :=
  ¬ token.IsSymbol .comma ∧ ¬ token.IsLiteral

theorem endsSeries_of_isKeyword {token : Token} {word : Keyword} (h : token.IsKeyword word) :
    EndsSeries token :=
  ⟨not_isSymbol_of_isKeyword h, not_isLiteral_of_isKeyword h⟩

theorem endsSeries_of_isSymbol {token : Token} {mark : Symbol} (h : token.IsSymbol mark)
    (other : mark ≠ .comma) : EndsSeries token :=
  ⟨fun comma => other (eq_of_isSymbol h comma), not_isLiteral_of_isSymbol h⟩

/-! ## First tokens -/

/-- Trees whose first token is of a class. -/
def StartsWith {α : Type} (tokens : α → List Token) (Class : Token → Prop) : Prop :=
  ∀ a, ∃ first more, tokens a = first :: more ∧ Class first

/-- A list of tokens that does not start with a token of a class. -/
def Avoids (Class : Token → Prop) (tokens : List Token) : Prop :=
  ∀ token ∈ tokens.head?, ¬ Class token

@[simp] theorem avoids_nil (Class : Token → Prop) : Avoids Class [] := by
  simp [Avoids]

@[simp] theorem avoids_cons {Class : Token → Prop} {token : Token} {rest : List Token} :
    Avoids Class (token :: rest) ↔ ¬ Class token := by
  simp [Avoids]

theorem Avoids.append {Class : Token → Prop} {front back : List Token} (h : Avoids Class front)
    (h' : Avoids Class back) : Avoids Class (front ++ back) := by
  cases front with
  | nil => exact h'
  | cons token front => exact h

theorem Literal.startsWith : StartsWith Literal.tokens Token.IsLiteral :=
  fun literal => ⟨literal.1, [], rfl, literal.2⟩

theorem ColumnTree.startsWith : StartsWith ColumnTree.tokens Token.IsLiteral :=
  fun column => ⟨column.name.1, _, rfl, isLiteral_of_identifier column.name.2⟩

theorem StatementTree.tokens_eq_cons (tree : StatementTree) :
    ∃ verb more, tree.tokens = verb :: more ∧ verb.IsKeyword tree.form.verb := by
  cases tree with
  | select verb | insert verb | createTable verb => exact ⟨verb.1, _, rfl, verb.2⟩

/-- Behind a script that is not empty anything may follow: the whole starts with a word. -/
theorem Derivation.avoids_semicolon_append {derivation : Derivation} {left : List Token}
    (ends : derivation = [] → Avoids (·.IsSymbol .semicolon) left) :
    Avoids (·.IsSymbol .semicolon) (derivation.tokens ++ left) := by
  cases derivation with
  | nil => exact ends rfl
  | cons clause clauses =>
    obtain ⟨verb, more, shape, opens⟩ := clause.statement.tokens_eq_cons
    rw [Derivation.tokens_cons, Clause.tokens, shape]
    exact avoids_cons.2 (not_isSymbol_of_isKeyword opens)

/-- A script does not start with a semicolon. -/
theorem Derivation.avoids_semicolon (derivation : Derivation) :
    Avoids (·.IsSymbol .semicolon) derivation.tokens := by
  rw [← List.append_nil derivation.tokens]
  exact Derivation.avoids_semicolon_append fun _ => avoids_nil _

/-! ## Counting statements -/

/-- How many semicolons of a list follow no semicolon, given the token in front of the list. -/
def semicolonRuns (before : Option Token) : List Token → Nat
  | [] => 0
  | token :: rest =>
    (if token.IsSymbol .semicolon ∧ ∀ previous ∈ before, ¬ previous.IsSymbol .semicolon then 1
      else 0) + semicolonRuns (some token) rest

theorem not_semicolon_of_mem_series {Item : Type} {tokensOf : Item → List Token}
    (inside : ∀ item, ∀ token ∈ tokensOf item, ¬ token.IsSymbol .semicolon)
    {series : Series Item} {token : Token} (h : token ∈ series.tokens tokensOf) :
    ¬ token.IsSymbol .semicolon := by
  cases series with
  | empty => cases h
  | items first more =>
    simp only [Series.tokens, separatedTokens, List.mem_append, List.mem_flatMap,
      List.mem_cons] at h
    rcases h with h | ⟨part, -, rfl | h⟩
    · exact inside first token h
    · exact fun semicolon => absurd (eq_of_isSymbol part.1.2 semicolon) (by simp)
    · exact inside part.2 token h

theorem not_semicolon_of_mem_statement {tree : StatementTree} {token : Token}
    (h : token ∈ tree.tokens) : ¬ token.IsSymbol .semicolon := by
  -- every place of a statement calls for a class of tokens that has no semicolon in it
  have identifier {token : Token} (h : token.kind = .identifier) : ¬ token.IsSymbol .semicolon :=
    fun semicolon => not_isLiteral_of_isSymbol semicolon (isLiteral_of_identifier h)
  have mark {token : Token} {mark : Symbol} (h : token.IsSymbol mark) (other : mark ≠ .semicolon) :
      ¬ token.IsSymbol .semicolon :=
    fun semicolon => other (eq_of_isSymbol h semicolon)
  have literals : ∀ literal : Literal, ∀ token ∈ literal.tokens, ¬ token.IsSymbol .semicolon := by
    intro literal token inside semicolon
    cases List.mem_singleton.1 inside
    exact not_isLiteral_of_isSymbol semicolon literal.2
  have columns : ∀ column : ColumnTree, ∀ token ∈ column.tokens,
      ¬ token.IsSymbol .semicolon := by
    intro column token inside semicolon
    simp only [ColumnTree.tokens, List.mem_cons, List.not_mem_nil, or_false] at inside
    rcases inside with rfl | rfl
    · exact identifier column.name.2 semicolon
    · exact absurd (column.datatype.2.symm.trans semicolon.1) (by simp [Token.symbol])
  cases tree with
  | select verb items source =>
    simp only [StatementTree.tokens, List.mem_cons, List.mem_append] at h
    rcases h with rfl | h | h
    · exact not_isSymbol_of_isKeyword verb.2
    · exact not_semicolon_of_mem_series literals h
    · cases source with
      | none => cases h
      | some source =>
        simp only [Option.map_some, Option.getD_some, SourceTree.tokens, List.mem_cons,
          List.not_mem_nil, or_false] at h
        rcases h with rfl | rfl
        · exact not_isSymbol_of_isKeyword source.word.2
        · exact identifier source.table.2
  | insert verb into table values opening items closing =>
    simp only [StatementTree.tokens, List.mem_cons, List.mem_append, List.not_mem_nil,
      or_false] at h
    rcases h with rfl | rfl | rfl | rfl | rfl | h | rfl
    · exact not_isSymbol_of_isKeyword verb.2
    · exact not_isSymbol_of_isKeyword into.2
    · exact identifier table.2
    · exact not_isSymbol_of_isKeyword values.2
    · exact mark opening.2 (by simp)
    · exact not_semicolon_of_mem_series literals h
    · exact mark closing.2 (by simp)
  | createTable verb noun name opening columnList closing =>
    simp only [StatementTree.tokens, List.mem_cons, List.mem_append, List.not_mem_nil,
      or_false] at h
    rcases h with rfl | rfl | rfl | rfl | h | rfl
    · exact not_isSymbol_of_isKeyword verb.2
    · exact not_isSymbol_of_isKeyword noun.2
    · exact identifier name.2
    · exact mark opening.2 (by simp)
    · exact not_semicolon_of_mem_series columns h
    · exact mark closing.2 (by simp)

/-- Tokens other than semicolons add nothing to the count. -/
theorem semicolonRuns_append {tokens : List Token} (nonempty : tokens ≠ [])
    (others : ∀ token ∈ tokens, ¬ token.IsSymbol .semicolon) (before : Option Token)
    (rest : List Token) :
    ∃ last, ¬ last.IsSymbol .semicolon ∧
      semicolonRuns before (tokens ++ rest) = semicolonRuns (some last) rest := by
  -- the count looks one token back, so the last token is what the rest depends on
  induction tokens generalizing before with
  | nil => exact absurd rfl nonempty
  | cons token tokens ih =>
    have other := others token List.mem_cons_self
    by_cases last : tokens = []
    · exact ⟨token, other, by simp [semicolonRuns, last, other]⟩
    · obtain ⟨last, different, count⟩ :=
        ih last (fun t h => others t (List.mem_cons_of_mem _ h)) (some token)
      exact ⟨last, different, by simp [semicolonRuns, other, count]⟩

/-- Semicolons behind a semicolon add nothing to the count. -/
theorem semicolonRuns_marks (mark : Mark .semicolon) (more : List (Mark .semicolon))
    (rest : List Token) : ∃ last : Mark .semicolon,
      semicolonRuns (some mark.1) (more.map (·.1) ++ rest) = semicolonRuns (some last.1) rest := by
  induction more generalizing mark with
  | nil => exact ⟨mark, rfl⟩
  | cons next more ih =>
    obtain ⟨last, count⟩ := ih next
    exact ⟨last, by simpa [semicolonRuns, mark.2] using count⟩

/-- A script has a statement for each semicolon that follows no semicolon. -/
theorem Derivation.length_script (derivation : Derivation) (before : Option Token) :
    derivation.script.length = semicolonRuns before derivation.tokens := by
  induction derivation generalizing before with
  | nil => rfl
  | cons clause clauses ih =>
    obtain ⟨statement, semicolon, more⟩ := clause
    obtain ⟨verb, others, shape, -⟩ := statement.tokens_eq_cons
    have nonempty : statement.tokens ≠ [] := by simp [shape]
    obtain ⟨last, other, count⟩ := semicolonRuns_append nonempty
      (fun token => not_semicolon_of_mem_statement) before
      (semicolon.1 :: (more.map (·.1) ++ Derivation.tokens clauses))
    obtain ⟨mark, count'⟩ := semicolonRuns_marks semicolon more (Derivation.tokens clauses)
    simp only [Derivation.script_cons, List.length_cons, Derivation.tokens_cons, Clause.tokens,
      List.append_assoc, List.cons_append, count, semicolonRuns, count', ih (some mark.1)]
    simp [semicolon.2, other]
    omega

end SqlShell.Grammar
