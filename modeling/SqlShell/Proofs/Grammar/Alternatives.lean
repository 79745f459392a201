import SqlShell.Grammar.Source
import SqlShell.Proofs.Diagnosis.Furthest
import SqlShell.Proofs.Grammar.Statements

/-!
# The three forms as alternatives

A statement starts with the word of its form, so at most one of the three grammars gets past its
first token (`Form.eq_of_parsed`). When none succeeds, the mismatches of the others stand at the
cursor, and that of the grammar whose word is there stands behind it: the furthest mismatch is the
one that tells what is wrong.

* `statement_parsed_iff` — what the alternatives read together is what one of them reads;
* `statement_of_unstarted`, `statement_of_error` — the mismatches when all of them fail;
* `Form.blame` — the failure of the grammar whose word stands at the cursor.
-/

namespace SqlShell.Grammar

/-! ## The grammar of a form -/

/-- The parser of the statements of a form. -/
def Form.parser : Form → Cursor → Parse Statement
  | .select => Cursor.select (.symbol .semicolon)
  | .insert => Cursor.insert
  | .createTable => Cursor.createTable

/-- The forms in the order in which they are tried. -/
def Form.all : List Form :=
  [.select, .insert, .createTable]

/-- The forms that are tried before a form. -/
def Form.earlier : Form → List Form
  | .select => []
  | .insert => [.select]
  | .createTable => [.select, .insert]

/-- The forms that are tried behind a form. -/
def Form.later : Form → List Form
  | .select => [.insert, .createTable]
  | .insert => [.createTable]
  | .createTable => []

theorem Form.all_split (form : Form) : Form.all = form.earlier ++ form :: form.later := by
  cases form <;> rfl

theorem Form.ne_of_mem_earlier {form other : Form} (h : other ∈ form.earlier) : other ≠ form := by
  cases form <;> cases other <;> simp_all [Form.earlier]

theorem Form.ne_of_mem_later {form other : Form} (h : other ∈ form.later) : other ≠ form := by
  cases form <;> cases other <;> simp_all [Form.later]

theorem Form.recognizes : ∀ form : Form, Recognizes form.parser form.Language Follows
  | .select => recognizes_select
  | .insert => recognizes_insert
  | .createTable => recognizes_createTable

theorem Form.eq_of_verb_eq {form other : Form} (h : form.verb = other.verb) : form = other := by
  cases form <;> cases other <;> first | rfl | cases h

theorem Form.parser_eq (form : Form) : ∃ next : Token → Cursor → Parse Statement,
    form.parser = Grammar.andThen (word form.verb) next := by
  cases form with
  | select => exact ⟨_, select_eq _⟩
  | insert => exact ⟨_, insert_eq⟩
  | createTable => exact ⟨_, createTable_eq⟩

theorem Form.parser_of_avoids {form : Form} {cursor : Cursor}
    (h : Avoids (·.IsKeyword form.verb) cursor.rest) :
    form.parser cursor = .error (cursor.mismatch (.token (.keyword form.verb))) := by
  obtain ⟨next, shape⟩ := form.parser_eq
  obtain ⟨position, rest⟩ := cursor
  rw [shape]
  refine andThen_of_error ?_
  cases rest with
  | nil => rfl
  | cons token rest => simp [word, avoids_cons.1 h, Cursor.mismatch, Cursor.current?]

/-- The word of a form at the start of some tokens. -/
def Form.Opens (form : Form) (tokens : List Token) : Prop :=
  ∃ verb rest, tokens = verb :: rest ∧ verb.IsKeyword form.verb

theorem Form.opens_or_avoids (form : Form) (tokens : List Token) :
    form.Opens tokens ∨ Avoids (·.IsKeyword form.verb) tokens := by
  cases tokens with
  | nil => exact .inr (avoids_nil _)
  | cons token rest =>
    by_cases verb : token.IsKeyword form.verb
    · exact .inl ⟨token, rest, rfl, verb⟩
    · exact .inr (avoids_cons.2 verb)

theorem Form.Opens.eq {form other : Form} {tokens : List Token} (h : form.Opens tokens)
    (h' : other.Opens tokens) : form = other := by
  obtain ⟨verb, rest, rfl, isVerb⟩ := h
  obtain ⟨_, _, same, isVerb'⟩ := h'
  cases same
  exact Form.eq_of_verb_eq (eq_of_isKeyword isVerb isVerb')

theorem Form.Opens.avoids {form other : Form} {tokens : List Token} (h : form.Opens tokens)
    (different : other ≠ form) : Avoids (·.IsKeyword other.verb) tokens :=
  (other.opens_or_avoids tokens).resolve_left fun opens => different (opens.eq h)

theorem Form.opens_of_parsed {form : Form} {cursor : Cursor} {parsed : Statement × Cursor}
    (h : form.parser cursor = .ok parsed) : form.Opens cursor.rest := by
  refine (form.opens_or_avoids cursor.rest).resolve_right fun avoids => ?_
  rw [Form.parser_of_avoids avoids] at h
  cases h

theorem Form.eq_of_parsed {form other : Form} {cursor : Cursor}
    {parsed parsed' : Statement × Cursor}
    (h : form.parser cursor = .ok parsed) (h' : other.parser cursor = .ok parsed') : form = other :=
  (Form.opens_of_parsed h).eq (Form.opens_of_parsed h')

theorem Form.exists_tree {form : Form} {verb : Token} (h : verb.IsKeyword form.verb) :
    ∃ (tree : StatementTree) (more : List Token),
      tree.form = form ∧ tree.tokens = verb :: more := by
  have keyword (w : Keyword) : Word w := ⟨.keyword w, rfl, rfl⟩
  have mark (m : Symbol) : Mark m := ⟨.symbol m, rfl, rfl⟩
  have table : OfKind .identifier := ⟨⟨.identifier, "", {}⟩, rfl⟩
  cases form with
  | select => exact ⟨.select ⟨verb, h⟩ .empty none, _, rfl, rfl⟩
  | insert =>
    exact ⟨.insert ⟨verb, h⟩ (keyword .into) table (keyword .values) (mark .leftParen) .empty
      (mark .rightParen), _, rfl, rfl⟩
  | createTable =>
    exact ⟨.createTable ⟨verb, h⟩ (keyword .table) table (mark .leftParen) .empty
      (mark .rightParen), _, rfl, rfl⟩

/-! ## The first grammar that succeeds -/

theorem follows_none (statement : Statement) : Follows statement none := by
  cases statement with
  | select items source => cases source <;> simp [Follows]
  | _ => trivial

theorem follows_semicolon {statement : Statement} {token : Token} (h : token.IsSymbol .semicolon) :
    Follows statement (some token) := by
  cases statement with
  | select items source => cases source <;> simp [Follows, h]
  | _ => trivial

theorem statement_eq (cursor : Cursor) :
    cursor.statement = (Form.all.map (·.parser cursor)).foldl Attempt.orTry ⟨[], none⟩ := rfl

theorem foldl_orTry_errors {grammars : List (Parse Statement)} {mismatches : List Mismatch}
    (h : grammars = mismatches.map .error) (already : List Mismatch) :
    grammars.foldl Attempt.orTry ⟨already, none⟩ = ⟨already ++ mismatches, none⟩ := by
  subst h
  induction mismatches generalizing already with
  | nil => simp
  | cons mismatch mismatches ih => simpa [Attempt.orTry] using ih (already ++ [mismatch])

theorem foldl_orTry_parsed {grammars : List (Parse Statement)} {attempt : Attempt}
    {parsed : Statement × Cursor} (h : attempt.parsed = some parsed) :
    grammars.foldl Attempt.orTry attempt = attempt := by
  induction grammars with
  | nil => rfl
  | cons grammar grammars ih => simpa [Attempt.orTry, h] using ih

theorem orTry_error (already : List Mismatch) (mismatch : Mismatch) :
    (⟨already, none⟩ : Attempt).orTry (.error mismatch) = ⟨already ++ [mismatch], none⟩ := rfl

/-- The mismatches of grammars that fail at the cursor for want of their words. -/
def wordMismatches (cursor : Cursor) (forms : List Form) : List Mismatch :=
  forms.map fun form => cursor.mismatch (.token (.keyword form.verb))

theorem map_parser_of_avoids (forms : List Form) {cursor : Cursor}
    (h : ∀ form ∈ forms, Avoids (·.IsKeyword form.verb) cursor.rest) :
    forms.map (·.parser cursor) = (wordMismatches cursor forms).map .error := by
  rw [wordMismatches, List.map_map]
  exact List.map_congr_left fun form inside => Form.parser_of_avoids (h form inside)

/-- The grammars in front of the one that succeeds fail for want of their words, those behind it are
not tried. -/
theorem statement_eq_of_ok {form : Form} {cursor : Cursor} {parsed : Statement × Cursor}
    (h : form.parser cursor = .ok parsed) :
    cursor.statement = ⟨wordMismatches cursor form.earlier, some parsed⟩ := by
  have opens := Form.opens_of_parsed h
  have before := map_parser_of_avoids form.earlier fun other inside =>
    opens.avoids (Form.ne_of_mem_earlier inside)
  rw [statement_eq, form.all_split, List.map_append, List.foldl_append, foldl_orTry_errors before,
    List.map_cons, List.foldl_cons, h, foldl_orTry_parsed rfl]
  rfl

theorem statement_of_ok {form : Form} {cursor : Cursor} {parsed : Statement × Cursor}
    (h : form.parser cursor = .ok parsed) : cursor.statement.parsed = some parsed := by
  rw [statement_eq_of_ok h]

theorem statement_parsed_iff {cursor : Cursor} {parsed : Statement × Cursor} :
    cursor.statement.parsed = some parsed ↔ ∃ form : Form, form.parser cursor = .ok parsed := by
  constructor
  · intro h
    rcases Cursor.grammar_of_statement h with h | h | h
    · exact ⟨.select, h⟩
    · exact ⟨.insert, h⟩
    · exact ⟨.createTable, h⟩
  · rintro ⟨form, h⟩
    exact statement_of_ok h

/-! ## When every grammar fails -/

/-- Without a word to start with, every grammar fails at the cursor. -/
theorem statement_of_unstarted {cursor : Cursor} (h : ∀ form : Form, ¬ form.Opens cursor.rest) :
    cursor.statement = ⟨wordMismatches cursor Form.all, none⟩ := by
  have errors := map_parser_of_avoids Form.all fun form _ =>
    (form.opens_or_avoids cursor.rest).resolve_left (h form)
  rw [statement_eq, foldl_orTry_errors errors, List.nil_append]

/-- When the grammar whose word stands at the cursor fails, the others fail at the cursor. -/
theorem statement_of_error {form : Form} {cursor : Cursor} {mismatch : Mismatch}
    (opens : form.Opens cursor.rest) (h : form.parser cursor = .error mismatch) :
    cursor.statement = ⟨wordMismatches cursor form.earlier ++
      mismatch :: wordMismatches cursor form.later, none⟩ := by
  have before := map_parser_of_avoids form.earlier fun other inside =>
    opens.avoids (Form.ne_of_mem_earlier inside)
  have behind := map_parser_of_avoids form.later fun other inside =>
    opens.avoids (Form.ne_of_mem_later inside)
  rw [statement_eq, form.all_split, List.map_append, List.foldl_append, foldl_orTry_errors before,
    List.map_cons, List.foldl_cons, h, orTry_error, foldl_orTry_errors behind]
  simp

/-- A grammar whose word stands at the cursor fails behind the word. -/
theorem Form.blame {form : Form} {position : Nat} {tokens : List Token} {mismatch : Mismatch}
    (opens : form.Opens tokens) (h : form.parser ⟨position, tokens⟩ = .error mismatch) :
    ∃ passed rest, passed ≠ [] ∧ tokens = passed ++ rest ∧
      Blames form.parser form.Language Follows position passed rest mismatch := by
  obtain ⟨passed, rest, split, blamed⟩ := form.recognizes.blame h
  refine ⟨passed, rest, ?_, split, blamed⟩
  rintro rfl
  -- a statement with the same word would be refused as well
  obtain ⟨verb, others, rfl, isVerb⟩ := opens
  obtain ⟨tree, more, rfl, shape⟩ := Form.exists_tree isVerb
  have refused := blamed.steady tree.tokens (by rw [shape, ← List.nil_append rest, ← split]; rfl)
  have accepted : tree.form.parser ⟨position, tree.tokens ++ []⟩ = .ok _ :=
    tree.form.recognizes.complete ⟨tree, rfl, rfl, rfl⟩ (follows_none _)
  rw [List.append_nil] at accepted
  rw [List.nil_append, accepted] at refused
  cases refused

end SqlShell.Grammar
