import SqlShell.Proofs.Lexing.NumeralBytes
import SqlShell.Proofs.Lexing.Settled

/-!
# Delimited literals are a code

`enclose` writes a value between two delimiters, and `readDelimited` reads it back. A run of
delimiters may be of any length, and a literal ends in front of the first delimiter that has no
partner: `readDelimited_eq_some_iff` says that without a reader. So values and literals correspond
one to one, and a text that stops inside a literal holds none.

A literal is read here once more from its place in the source, character by character with one
character of look-ahead (`literalAt`). It is the same literal, and the place behind it is the place
behind its text (`literalAt_eq`).
-/

namespace SqlShell.Token

variable {kind : Kind} {d : Char} {cs value rest : List Char}

/-! ## What is read -/

/-- A literal is read where the written form of its value stands without another delimiter behind. -/
theorem readDelimited_eq_some_iff : readDelimited d cs = some (value, rest) ↔
    cs = enclose d value ++ rest ∧ rest.head? ≠ some d := by
  constructor
  · exact fun read => ⟨(append_of_readDelimited read).symm, head?_of_readDelimited read⟩
  · rintro ⟨rfl, boundary⟩
    rw [enclose, List.append_assoc, List.cons_append, readDelimited, if_pos rfl,
      List.singleton_append]
    exact readEnclosed_double d value boundary

-- of three apostrophes the last two are one that is doubled, and nothing closes the literal
example : readDelimited '\'' "'''".toList = none ∧
    readDelimited '\'' "'''' '".toList = some (['\''], [' ', '\'']) := by decide

theorem takeDelimited_eq_some_iff {piece : Piece} : takeDelimited kind d cs = some (piece, rest) ↔
    ∃ value, cs = enclose d value ++ rest ∧ rest.head? ≠ some d ∧
      piece = .lexeme kind value (enclose d value) := by
  simp only [takeDelimited, Option.map_eq_some_iff, Prod.exists, Prod.mk.injEq,
    readDelimited_eq_some_iff]
  constructor
  · rintro ⟨value, _, ⟨split, boundary⟩, rfl, rfl⟩
    exact ⟨value, split, boundary, rfl⟩
  · rintro ⟨value, split, boundary, rfl⟩
    exact ⟨value, rest, ⟨split, boundary⟩, rfl, rfl⟩

/-- Different values are written differently. -/
theorem enclose_injective (d : Char) : Function.Injective (enclose d) := by
  intro value other same
  have read (value : List Char) : readDelimited d (enclose d value) = some (value, []) :=
    readDelimited_eq_some_iff.2 ⟨(List.append_nil _).symm, by simp⟩
  have both := read value
  rw [same, read other] at both
  exact (congrArg Prod.fst (Option.some.inj both)).symm

/-! ## Reading from a place -/

/-- The cursor behind one more character. -/
def ByteCursor.bump (cursor : ByteCursor) (c : Char) : ByteCursor :=
  ⟨cursor.offset + c.utf8Size, cursor.location.step c⟩

/-- The cursor behind a text. -/
def ByteCursor.past (cursor : ByteCursor) (text : List Char) : ByteCursor :=
  text.foldl bump cursor

/-- Read on behind the opening delimiter: the value, and the place behind the closing delimiter. A
delimiter closes the literal unless another one is next. -/
def closeLiteral (d : Char) (cursor : ByteCursor) (value : List Char) :
    List Char → Option (List Char × ByteCursor)
  | [] => none
  | c :: rest =>
    let cursor := cursor.bump c
    if c = d then
      match rest with
      | [] => some (value, cursor)
      | next :: after =>
        if next = d then closeLiteral d (cursor.bump d) (value ++ [d]) after
        else some (value, cursor)
    else
      closeLiteral d cursor (value ++ [c]) rest

/-- The token of a literal that starts at a place of the source, and the place behind it. -/
def literalAt (kind : Kind) (d : Char) (start : ByteCursor) (cs : List Char) :
    Option (Token × ByteCursor) :=
  match cs with
  | [] => none
  | c :: rest =>
    if c = d then
      (closeLiteral d (start.bump d) [] rest).map fun (value, cursor) =>
        (⟨kind, String.ofList value, start.location⟩, cursor)
    else
      none

theorem ByteCursor.past_eq (cursor : ByteCursor) (text : List Char) :
    cursor.past text =
      ⟨cursor.offset + Text.byteSize text, cursor.location.advance text⟩ := by
  induction text generalizing cursor with
  | nil => rfl
  | cons c text ih =>
    have step : cursor.past (c :: text) = (cursor.bump c).past text := rfl
    rw [step, ih, Text.byteSize_cons, ← Nat.add_assoc]
    rfl

theorem closeLiteral_eq (d : Char) (cursor : ByteCursor) (value cs : List Char) :
    closeLiteral d cursor value cs = (readEnclosed d cs).map fun (more, _) =>
      (value ++ more, cursor.past (double d more ++ [d])) := by
  -- the value grows in front of what is still to be read, so it is any list here
  fun_induction readEnclosed d cs generalizing cursor value with
  | case1 => rfl
  | case2 => simp [closeLiteral, double, ByteCursor.past]
  | case3 after ih =>
    simp only [closeLiteral, if_true, ih, Option.map_map]
    congr 1
    funext parsed
    simp [double, ByteCursor.past]
  | case4 next after other => simp [closeLiteral, other, double, ByteCursor.past]
  | case5 c rest other ih =>
    rw [closeLiteral.eq_def]
    simp only [other, if_false, ih, Option.map_map]
    congr 1
    funext parsed
    simp [double, other, ByteCursor.past]

/-- The literal at a place is the one that `readDelimited` reads, and ends where its text does. -/
theorem literalAt_eq (kind : Kind) (d : Char) (start : ByteCursor) (cs : List Char) :
    literalAt kind d start cs = (readDelimited d cs).map fun (value, _) =>
      (⟨kind, String.ofList value, start.location⟩, start.past (enclose d value)) := by
  cases cs with
  | nil => rfl
  | cons c cs =>
    simp only [literalAt, readDelimited]
    split
    · rw [closeLiteral_eq, Option.map_map]
      rfl
    · rfl

/-! ## The code -/

/-- Delimited literals are a code for values, whatever the delimiter. At every place of every source:

* a literal is read if and only if the written form of a value stands there and no other delimiter
  is behind it; the token has this value, and the place behind it is the place behind this text;
* none is read if and only if no such text stands there;
* the scanner takes the same text as its piece;
* the text in the source is the written form of the token's value, which is also how a string is
  printed, and an identifier that needs its quotes.

And at no place in particular: different values are written differently, and what is written is read
back as the same value up to the rest. -/
theorem delimited_literals_are_a_code (kind : Kind) (d : Char) (front back : String)
    (location : Location) :
    let start : ByteCursor := ⟨front.utf8ByteSize, location⟩
    let found := literalAt kind d start back.toList
    (∀ token behind, found = some (token, behind) ↔
      ∃ value rest, back.toList = enclose d value ++ rest ∧ rest.head? ≠ some d ∧
        token = ⟨kind, String.ofList value, location⟩ ∧
        behind = ⟨front.utf8ByteSize + Text.byteSize (enclose d value),
          location.advance (enclose d value)⟩) ∧
    (found = none ↔ ∀ value rest, back.toList = enclose d value ++ rest → rest.head? = some d) ∧
    (∀ piece rest, takeDelimited kind d back.toList = some (piece, rest) ↔
      ∃ value, back.toList = enclose d value ++ rest ∧ rest.head? ≠ some d ∧
        piece = .lexeme kind value (enclose d value)) ∧
    (∀ token behind, found = some (token, behind) →
      textBetween (front ++ back).toUTF8 start.offset behind.offset =
        .ok (String.ofList (enclose d token.value.toList)) ∧
      (kind = .string → d = '\'' → token.toSql = String.ofList (enclose d token.value.toList)) ∧
      (kind = .identifier → d = '"' → needsQuotes token.value.toList = true →
        token.toSql = String.ofList (enclose d token.value.toList))) ∧
    Function.Injective (enclose d) ∧
    ∀ value rest, rest.head? ≠ some d →
      readDelimited d (enclose d value ++ rest) = some (value, rest) := by
  intro start found
  have reads (token : Token) (behind : ByteCursor) : found = some (token, behind) ↔
      ∃ value rest, back.toList = enclose d value ++ rest ∧ rest.head? ≠ some d ∧
        token = ⟨kind, String.ofList value, location⟩ ∧
        behind = ⟨front.utf8ByteSize + Text.byteSize (enclose d value),
          location.advance (enclose d value)⟩ := by
    simp only [found, literalAt_eq, Option.map_eq_some_iff, Prod.exists, Prod.mk.injEq,
      readDelimited_eq_some_iff, ByteCursor.past_eq]
    constructor
    · rintro ⟨value, rest, ⟨split, boundary⟩, rfl, rfl⟩
      exact ⟨value, rest, split, boundary, rfl, rfl⟩
    · rintro ⟨value, rest, split, boundary, rfl, rfl⟩
      exact ⟨value, rest, ⟨split, boundary⟩, rfl, rfl⟩
  refine ⟨reads, ?_, fun _ _ => takeDelimited_eq_some_iff, fun token behind read => ?_,
    enclose_injective d, fun _ _ boundary => readDelimited_eq_some_iff.2 ⟨rfl, boundary⟩⟩
  · rw [Option.eq_none_iff_forall_ne_some, Prod.forall]
    constructor
    · intro none_ value rest split
      by_contra boundary
      exact none_ _ _ ((reads _ _).2 ⟨value, rest, split, boundary, rfl, rfl⟩)
    · intro stuck token behind read
      obtain ⟨value, rest, split, boundary, -⟩ := (reads token behind).1 read
      exact boundary (stuck value rest split)
  · obtain ⟨value, rest, split, -, rfl, rfl⟩ := (reads token behind).1 read
    have ahead : Ahead (front ++ back).toUTF8 front.utf8ByteSize (enclose d value ++ rest) :=
      split ▸ Ahead.ofText front back
    rw [String.toList_ofList]
    refine ⟨ahead.textBetween_byteSize, ?_, ?_⟩
    · rintro rfl rfl
      simp only [toSql, String.toList_ofList]
    · rintro rfl rfl quoted
      simp only [toSql, String.toList_ofList, quoted, if_true]

end SqlShell.Token
