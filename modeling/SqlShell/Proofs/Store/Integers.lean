import SqlShell.Proofs.Printing.WellFormed
import SqlShell.Proofs.Store.Selection

/-!
# Integers are exact or refused

A numeral is taken for an integer where it is written in decimal, with at most one sign in front,
and the number fits 32 bits; how many digits it has does not matter (`integer?_eq_some_iff`). Any
other numeral is refused, as a constant of a selection, as a value of an `int` column, and in a row
that is inserted (`Token.ComesTo`).

The numerals of the lexer have no sign in front. Of them the integers are the ones made of digits
alone.
-/

namespace SqlShell

open Token (AreDigits IsNumeral isNumeral_iff)

/-! ## Decimal numbers -/

/-- Decimal digits, of which there is one at least, and the number that they stand for. -/
structure IsDecimal (digits : List Char) (n : Nat) : Prop where
  nonempty : digits ≠ []
  digit : AreDigits digits
  value : Nat.ofDigitChars 10 digits 0 = n

/-- A decimal number, perhaps with one sign in front. -/
inductive IsSigned : List Char → Int → Prop where
  | plain {digits : List Char} {n : Nat} (h : IsDecimal digits n) : IsSigned digits n
  | plus {digits : List Char} {n : Nat} (h : IsDecimal digits n) : IsSigned ('+' :: digits) n
  | minus {digits : List Char} {n : Nat} (h : IsDecimal digits n) : IsSigned ('-' :: digits) (-n)

theorem IsDecimal.first_isDigit {c : Char} {cs : List Char} {n : Nat} (h : IsDecimal (c :: cs) n) :
    c.isDigit = true :=
  h.digit c List.mem_cons_self

theorem digits?_eq_some_iff {cs : List Char} {n : Nat} :
    Text.digits? cs = some n ↔ IsDecimal cs n := by
  have value : cs.foldl (fun n c => 10 * n + Text.digitValue c) 0 = Nat.ofDigitChars 10 cs 0 :=
    Nat.ofDigitChars_eq_foldl.symm
  rw [Text.digits?, value]
  constructor
  · intro read
    split at read
    · cases read
    · next digits =>
      simp only [Bool.or_eq_true, List.isEmpty_iff, Bool.not_eq_true', not_or,
        Bool.not_eq_false, List.all_eq_true] at digits
      exact ⟨digits.1, digits.2, Option.some.inj read⟩
  · rintro ⟨nonempty, digit, rfl⟩
    rw [List.isEmpty_eq_false_iff.2 nonempty, List.all_eq_true.2 digit]
    rfl

theorem signedDigits?_eq_some_iff {cs : List Char} {n : Int} :
    Text.signedDigits? cs = some n ↔ IsSigned cs n := by
  have lifted (digits : Option Nat) :
      (do let n ← digits; pure (n : Int)) = digits.map fun n : Nat => (n : Int) := by
    cases digits <;> rfl
  unfold Text.signedDigits?
  constructor
  · intro read
    split at read
    all_goals
      rw [lifted] at read
      obtain ⟨_, whole, rfl⟩ := Option.map_eq_some_iff.1 read
      obtain ⟨m, digits, rfl⟩ := Option.map_eq_some_iff.1 whole
      rw [digits?_eq_some_iff] at digits
    · exact .minus digits
    · exact .plus digits
    · exact .plain digits
  · intro h
    cases h with
    | @plain digits m h =>
      -- a digit is no sign
      split
      · cases h.first_isDigit
      · cases h.first_isDigit
      · rw [digits?_eq_some_iff.2 h]
        rfl
    | plus h | minus h =>
      simp only [digits?_eq_some_iff.2 h]
      rfl

/-- The integer of a text is the number that it writes, if that has 32 bits. -/
theorem integer?_eq_some_iff {text : String} {value : Int32} :
    integer? text = some value ↔ IsSigned text.toList value.toInt := by
  rw [← signedDigits?_eq_some_iff, integer?, Option.bind_eq_some_iff]
  constructor
  · rintro ⟨n, read, fits⟩
    split at fits
    · next bounds =>
      cases fits
      rw [read, Int32.toInt_ofInt_of_le bounds.1 (by omega)]
    · cases fits
  · intro read
    have bounds : -2147483648 ≤ value.toInt ∧ value.toInt ≤ 2147483647 :=
      ⟨value.le_toInt, Int.le_of_lt_add_one value.toInt_lt⟩
    exact ⟨_, read, by rw [if_pos bounds, Int32.ofInt_toInt]⟩

theorem integer?_eq_none_iff {text : String} :
    integer? text = none ↔
      ¬ ∃ n, IsSigned text.toList n ∧ -2147483648 ≤ n ∧ n ≤ 2147483647 := by
  rw [Option.eq_none_iff_forall_ne_some]
  constructor
  · rintro unread ⟨n, written, low, high⟩
    have same : (Int32.ofInt n).toInt = n := Int32.toInt_ofInt_of_le low (by omega)
    exact unread _ (integer?_eq_some_iff.2 (same ▸ written))
  · intro none_ value read
    have written := integer?_eq_some_iff.1 read
    exact none_ ⟨_, written, value.le_toInt, Int.le_of_lt_add_one value.toInt_lt⟩

example : integer? "0000000000002147483647" = some 2147483647 ∧ integer? "2147483648" = none := by
  decide +kernel

/-- A numeral of a source text has no sign in front. -/
theorem IsSigned.isDecimal {text : List Char} (numeral : IsNumeral text) {n : Int}
    (h : IsSigned text n) : ∃ m : Nat, n = m ∧ IsDecimal text m := by
  obtain ⟨c, rest, rfl, first⟩ := isNumeral_iff.1 numeral
  cases h with
  | plain h => exact ⟨_, rfl, h⟩
  | plus | minus => simp [Char.isDigit] at first

/-! ## Printed integers -/

theorem isDecimal_toDigits (n : Nat) : IsDecimal (Nat.toDigits 10 n) n where
  nonempty := Nat.toDigits_ne_nil
  digit _ inside := Nat.isDigit_of_mem_toDigits (by decide) (by decide) inside
  value := Nat.ofDigitChars_ten_toDigits

theorem not_mem_toDigits {c : Char} (other : ¬ c.isDigit) (n : Nat) : c ∉ Nat.toDigits 10 n :=
  fun inside => other ((isDecimal_toDigits n).digit c inside)

/-- An integer is printed in decimal, with a sign if it is negative. -/
theorem isSigned_toString (n : Int) : IsSigned (toString n).toList n := by
  rw [Int.toString_eq_repr, Int.repr_eq_if]
  split
  · next nonneg =>
    rw [Nat.toList_repr]
    have plain := IsSigned.plain (isDecimal_toDigits n.toNat)
    rwa [Int.toNat_of_nonneg nonneg] at plain
  · next negative =>
    have minus := IsSigned.minus (isDecimal_toDigits (-n).toNat)
    rw [Int.toNat_of_nonneg (by omega), Int.neg_neg] at minus
    rwa [String.toList_append, Nat.toList_repr]

/-- An integer is read back from the text that it is printed as. -/
theorem integer?_toString (value : Int32) : integer? (toString value.toInt) = some value :=
  integer?_eq_some_iff.2 (isSigned_toString value.toInt)

/-! ## Where an integer is called for -/

/-- A row for a table, less the value of one `int` column: the literals on both sides of it, and the
cells that they stand for. -/
structure Table.Gapped (table : Table) where
  front : List Token
  back : List Token
  left : List Cell
  right : List Cell
  denotes : List.Forall₂ Token.Denotes front left
  denotes' : List.Forall₂ Token.Denotes back right
  columns : table.columns.length = table.datatypes.length
  datatypes : table.datatypes = left.map Cell.datatype ++ .int :: right.map Cell.datatype

/-- What a literal comes to, wherever an integer is called for: on its own, in an `int` column, in a
selection of it, without a table or on each row of one, and in a row that is inserted. What cannot
be taken for an integer leaves the store as it was. -/
structure Token.ComesTo (token : Token) (result : Except DatatypeFault Cell) : Prop where
  constant : Cell.ofConstant token = result
  column : Cell.forColumn .int token = result
  selected : ∀ store : Store, store.select [token] none =
    (liftFault result).map fun cell => ⟨[⟨token.value, cell.datatype⟩], [[cell]]⟩
  selectedFrom : ∀ (store : Store) (name : Token) (table : Table),
    store.table? name.value = some table → store.select [token] (some name) =
      (liftFault result).map fun cell =>
        ⟨[⟨token.value, cell.datatype⟩], table.rows.toList.map fun _ => [cell]⟩
  inserted : ∀ (store : Store) (name : Token) (table : Table),
    store.table? name.value = some table → ∀ row : table.Gapped,
      store.execute (.insert name (row.front ++ token :: row.back)) =
        match result with
        | .ok cell => .ok (.inserted name.value (table.rows.size + 1)) (store.put name.value
            { table with rows := table.rows.push (row.left ++ cell :: row.right) })
        | .error fault => .error (.invalidDatatype fault) store

namespace Table.Gapped

variable {table : Table} (row : table.Gapped) (token : Token)

theorem length_eq : (row.front ++ token :: row.back).length = table.datatypes.length := by
  rw [row.datatypes]
  simp [row.denotes.length_eq, row.denotes'.length_eq]

theorem cellsFor_of_ok {cell : Cell} (made : Cell.forColumn .int token = .ok cell) :
    cellsFor table.datatypes (row.front ++ token :: row.back) =
      .ok (row.left ++ cell :: row.right) := by
  obtain ⟨denotes, type⟩ := forColumn_eq_ok_iff.1 made
  refine (cellsFor_eq_ok_iff (row.length_eq token)).2 ⟨?_, ?_⟩
  · exact List.rel_append row.denotes (.cons denotes row.denotes')
  · rw [row.datatypes, List.map_append, List.map_cons, type]

theorem cellsFor_of_error {fault : DatatypeFault}
    (failed : Cell.forColumn .int token = .error fault) :
    cellsFor table.datatypes (row.front ++ token :: row.back) =
      .error (.invalidDatatype fault) := by
  have width : row.front.length = (row.left.map Cell.datatype).length := by
    rw [List.length_map, row.denotes.length_eq]
  have front : cellsFor (row.left.map Cell.datatype) row.front = .ok row.left :=
    (cellsFor_eq_ok_iff width).2 ⟨row.denotes, rfl⟩
  rw [cellsFor] at front
  rw [row.datatypes, cellsFor, List.zip_append width, mapM_append_of_ok front, List.zip_cons_cons,
    List.mapM_cons]
  simp only [failed]
  rfl

end Table.Gapped

/-- A numeral comes to the integer that it writes, or to a fault, everywhere. -/
theorem Token.comesTo_ofNumeral {token : Token} (numeric : token.kind = .numeric) :
    token.ComesTo (Cell.ofNumeral token) := by
  have constant : Cell.ofConstant token = Cell.ofNumeral token := by
    simp only [Cell.ofConstant, numeric]
  have column : Cell.forColumn .int token = Cell.ofNumeral token := by
    simp only [Cell.forColumn, numeric]
  have unnamed : token.kind ≠ .identifier := by
    rw [numeric]
    decide
  refine ⟨constant, column, fun store => ?_, fun store name table found => ?_,
    fun store name table found row => ?_⟩
  · rw [Store.select_eq, ← constant]
    exact Table.select_constant unnamed
  · simp only [Store.select_eq, found, ← constant]
    exact Table.select_constant unnamed
  · have count : (row.front ++ token :: row.back).length = table.columns.length :=
      (row.length_eq token).trans row.columns.symm
    rw [Store.execute_insert, found]
    simp only [count, if_true]
    cases made : Cell.ofNumeral token with
    | ok cell => rw [row.cellsFor_of_ok token (column.trans made)]
    | error fault => rw [row.cellsFor_of_error token (column.trans made)]

theorem Token.comesTo_int {token : Token} (numeric : token.kind = .numeric) {value : Int32}
    (written : IsSigned token.value.toList value.toInt) : token.ComesTo (.ok (.int value)) := by
  have made : Cell.ofNumeral token = .ok (.int value) :=
    ofNumeral_eq_ok_iff.2 ⟨value, integer?_eq_some_iff.2 written, rfl⟩
  exact made ▸ comesTo_ofNumeral numeric

theorem Token.comesTo_fault {token : Token} (numeric : token.kind = .numeric)
    (unwritten : ¬ ∃ n, IsSigned token.value.toList n ∧ -2147483648 ≤ n ∧ n ≤ 2147483647) :
    token.ComesTo (.error (.notInteger token.value)) := by
  have made : Cell.ofNumeral token = .error (.notInteger token.value) := by
    rw [Cell.ofNumeral, integer?_eq_none_iff.2 unwritten]
  exact made ▸ comesTo_ofNumeral numeric

/-- Integers are exact or refused, wherever one is called for.

* A numeral that a source text has is an integer exactly if it is made of digits alone and their
  number is at most 2147483647, with any number of zeros in front.
* A numeral token with any text at all is one exactly if the text is a decimal number with at most
  one sign in front, between -2147483648 and 2147483647.
* Every integer is read back from the text that it is printed as.

In every other case there is the same fault, which names the text. -/
theorem integers_are_exact_or_refused :
    (∀ text tokens, lex text = .ok tokens → ∀ token ∈ tokens, token.kind = .numeric →
      (∀ n, IsDecimal token.value.toList n → n ≤ 2147483647 →
        ∃ value : Int32, value.toInt = n ∧ token.ComesTo (.ok (.int value))) ∧
      ((¬ ∃ n, IsDecimal token.value.toList n ∧ n ≤ 2147483647) →
        token.ComesTo (.error (.notInteger token.value)))) ∧
    (∀ token : Token, token.kind = .numeric →
      (∀ n, IsSigned token.value.toList n → -2147483648 ≤ n → n ≤ 2147483647 →
        ∃ value : Int32, value.toInt = n ∧ token.ComesTo (.ok (.int value))) ∧
      ((¬ ∃ n, IsSigned token.value.toList n ∧ -2147483648 ≤ n ∧ n ≤ 2147483647) →
        token.ComesTo (.error (.notInteger token.value)))) ∧
    ∀ (value : Int32) (location : Location),
      Token.ComesTo ⟨.numeric, (Cell.int value).display, location⟩ (.ok (.int value)) := by
  have ofSigned {token : Token} (numeric : token.kind = .numeric) {n : Int}
      (written : IsSigned token.value.toList n) (low : -2147483648 ≤ n) (high : n ≤ 2147483647) :
      ∃ value : Int32, value.toInt = n ∧ token.ComesTo (.ok (.int value)) := by
    have same : (Int32.ofInt n).toInt = n := Int32.toInt_ofInt_of_le low (by omega)
    exact ⟨_, same, Token.comesTo_int numeric (same.symm ▸ written)⟩
  refine ⟨fun text tokens lexed token inside numeric => ⟨fun n digits high => ?_, fun other => ?_⟩,
    fun token numeric => ⟨fun n => ofSigned numeric, Token.comesTo_fault numeric⟩,
    fun value location => Token.comesTo_int rfl (isSigned_toString value.toInt)⟩
  · exact ofSigned numeric (.plain digits) (by omega) (by omega)
  · have writable := isWritable_of_lex lexed token inside
    have numeral : IsNumeral token.value.toList := by
      simpa only [Token.IsWritable, numeric] using writable
    refine Token.comesTo_fault numeric ?_
    rintro ⟨n, written, -, high⟩
    -- without a sign the number is that of the digits
    obtain ⟨m, rfl, digits⟩ := written.isDecimal numeral
    exact other ⟨m, digits, by omega⟩

end SqlShell
