import SqlShell.Proofs.Lexing.Settled

/-!
# Scanning behind other text

Places count lines from the start of the text and columns from the last line feed. So the places in
a text that stands behind another are moved by the place where the other ends: its lines come on top
of every line, its columns on top of the columns of the first line.

A scan looks at the places no further than to note them down. Behind a closed text it therefore
finds the same tokens, moved, and stops at the same character (`lex_append`).
-/

namespace SqlShell

open Token (Piece)

/-! ## Places -/

/-- A place that is counted from `start`. -/
def Location.behind (start place : Location) : Location :=
  ⟨start.line + place.line,
    if place.line = 0 then start.column + place.column else place.column⟩

theorem Location.behind_zero (start : Location) : start.behind {} = start := rfl

theorem Location.behind_step (start location : Location) (c : Char) :
    (start.behind location).step c = start.behind (location.step c) := by
  by_cases feed : c = '\n'
  · simp [step, behind, feed, Nat.add_assoc]
  · simp only [step, behind, feed, if_false]
    split <;> simp [Nat.add_assoc]

theorem Location.behind_advance (start location : Location) (cs : List Char) :
    (start.behind location).advance cs = start.behind (location.advance cs) := by
  induction cs generalizing location with
  | nil => rfl
  | cons c cs ih =>
    have first := ih (location.step c)
    rw [← behind_step] at first
    exact first

/-- The place behind two texts is counted from the place behind the first. -/
theorem place_append (front back : List Char) :
    place (front ++ back) = (place front).behind (place back) := by
  have start : place back = Location.advance {} back := (advance_place [] back).symm
  rw [← advance_place, start, ← Location.behind_advance, Location.behind_zero]

/-! ## Tokens -/

def Token.behind (start : Location) (token : Token) : Token :=
  { token with location := start.behind token.location }

section

variable (start : Location) (token : Token)

@[simp] theorem Token.kind_behind : (token.behind start).kind = token.kind := rfl

@[simp] theorem Token.agrees_behind (pattern : Token) :
    (token.behind start).Agrees pattern = token.Agrees pattern := rfl

@[simp] theorem Token.any_agrees_behind (stops : List Token) :
    (stops.any fun stop => decide ((token.behind start).Agrees stop)) =
      stops.any fun stop => decide (token.Agrees stop) := rfl

@[simp] theorem Token.isSymbol_behind (mark : Symbol) :
    (token.behind start).IsSymbol mark = token.IsSymbol mark := rfl

@[simp] theorem Token.isLiteral_behind : (token.behind start).IsLiteral = token.IsLiteral := rfl

end

theorem Token.Piece.token?_behind (start location : Location) (piece : Piece) :
    piece.token? (start.behind location) = (piece.token? location).map (·.behind start) := by
  cases piece <;> rfl

/-! ## Scans -/

-- `last` is the last token in front: what a scan names as the token before an error when it has
-- found none of its own.
def LexError.behind (start : Location) (last : Option Token) (error : LexError) : LexError :=
  ⟨start.behind error.location, (error.previous.map (·.behind start)).or last, error.offending⟩

def Scan.behind (start : Location) (last : Option Token) (scan : Scan) : Scan :=
  ⟨scan.tokens.map (·.behind start), scan.error.map (·.behind start last)⟩

theorem ofChars_behind (start : Location) (last previous : Option Token) (location : Location)
    (cs : List Char) :
    Scan.ofChars ((previous.map (·.behind start)).or last) (start.behind location) cs =
      (Scan.ofChars previous location cs).behind start last := by
  -- Which piece comes next depends on the characters alone.
  cases taken : Piece.next? cs with
  | none =>
    rw [ofChars_of_stuck taken, ofChars_of_stuck taken]
    cases cs <;> rfl
  | some found =>
    obtain ⟨piece, rest⟩ := found
    have more := ofChars_behind start last ((piece.token? location).or previous)
      (location.advance piece.text) rest
    rw [ofChars_of_taken taken, ofChars_of_taken taken, Piece.token?_behind,
      Location.behind_advance, ← Option.or_assoc, ← Option.map_or, more]
    cases piece.token? location <;> rfl
termination_by cs.length
decreasing_by exact Token.length_of_next? taken

/-- Behind a row that is read back in front of it, a text is scanned as on its own. -/
theorem ofText_append_of_readsBack {front back : String} {pieces : List Piece}
    (whole : textOf pieces = front.toList) (reads : ReadsBack pieces back.toList) :
    Scan.ofText (front ++ back) =
      ((Scan.ofText back).behind (place front.toList) (tokensOf [] pieces).getLast?).after
        (tokensOf [] pieces) := by
  have scanned := ofChars_append_of_readsBack reads none []
  have moved :=
    ofChars_behind (place front.toList) (tokensOf [] pieces).getLast? none {} back.toList
  rw [Option.map_none, Option.none_or, Location.behind_zero] at moved
  rw [Option.or_none, List.nil_append, whole, moved] at scanned
  rw [Scan.ofText, String.toList_append]
  exact scanned

theorem lex_append_of_readsBack {front back : String} {pieces : List Piece}
    (whole : textOf pieces = front.toList) (reads : ReadsBack pieces back.toList) :
    lex (front ++ back) =
      ((lex back).map fun more =>
          tokensOf [] pieces ++ more.map (·.behind (place front.toList))).mapError
        (·.behind (place front.toList) (tokensOf [] pieces).getLast?) := by
  rw [lex, ofText_append_of_readsBack whole reads, lex]
  obtain ⟨more, _ | error⟩ := Scan.ofText back <;> rfl

theorem lex_append {front : String} {tokens : List Token} (lexed : lex front = .ok tokens)
    (last : ∀ token ∈ tokens.getLast?, token.IsSymbol .semicolon) (back : String) :
    lex (front ++ back) =
      ((lex back).map fun more => tokens ++ more.map (·.behind (place front.toList))).mapError
        (·.behind (place front.toList) tokens.getLast?) := by
  obtain ⟨pieces, whole, reads, rfl⟩ := exists_readsBack_of_lex lexed
  -- A semicolon is taken whatever follows it, and what stands in front of it ends there.
  have reads' : ReadsBack pieces back.toList :=
    reads.of_closed (closed_of_tokensOf reads.wellFormed [] last) back.toList
  exact lex_append_of_readsBack whole reads'

end SqlShell
