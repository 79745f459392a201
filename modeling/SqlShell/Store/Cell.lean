import SqlShell.Text.Decimal
import SqlShell.Token.Basic

/-!
# Stored values

A `Cell` holds a 32-bit integer or a text, and has a `Datatype` accordingly. Cells are made from
literals: a string literal is a text as it stands, and a numeral is an integer when
`integer?` can read it, that is, when it has no period and no exponent and fits the 32 bits.
-/

namespace SqlShell

/-- The type of a column or a cell. -/
inductive Datatype where
  | int
  | text
  deriving Repr, DecidableEq

/-- The type's name. -/
def Datatype.name : Datatype → String
  | int => "int"
  | text => "text"

/-- The type with a given name. -/
def Datatype.ofName? : String → Option Datatype
  | "int" => some .int
  | "text" => some .text
  | _ => none

/-- A stored value. -/
inductive Cell where
  | int (value : Int32)
  | text (value : String)
  deriving Repr, DecidableEq

/-- The type of a cell. -/
def Cell.datatype : Cell → Datatype
  | int _ => .int
  | text _ => .text

/-- The cell as text: an integer in decimal, a text as it stands. -/
def Cell.display : Cell → String
  | int value => toString value.toInt
  | text value => value

/-! ## Integers -/

/-- The 32-bit integer written by a text. -/
def integer? (text : String) : Option Int32 :=
  (Text.signedDigits? text.toList).bind fun n =>
    if -2147483648 ≤ n ∧ n ≤ 2147483647 then some (Int32.ofInt n) else none

/-! ## Literals -/

/-- Why a token is no value, or no type. -/
inductive DatatypeFault where
  /-- The word names no type. -/
  | unknownType (word : String)
  /-- The numeral is no 32-bit integer. -/
  | notInteger (numeral : String)
  /-- The token is neither a numeral nor a string. -/
  | notValue (text : String)
  /-- The token is no value of the column's type. -/
  | misfit (text : String) (datatype : Datatype)
  deriving Repr, DecidableEq

/-- The fault in words. -/
def DatatypeFault.detail : DatatypeFault → String
  | unknownType word => "unknown column type '" ++ word ++ "'"
  | notInteger numeral => "'" ++ numeral ++ "' is not an int"
  | notValue text => "'" ++ text ++ "' is not a value"
  | misfit text datatype => "'" ++ text ++ "' is not a valid " ++ datatype.name ++ " value"

/-- The type that a column definition's second token names. -/
def Datatype.ofToken (token : Token) : Except DatatypeFault Datatype :=
  match ofName? token.value with
  | some datatype => .ok datatype
  | none => .error (.unknownType token.value)

namespace Cell

/-- The integer that a numeral stands for. -/
def ofNumeral (token : Token) : Except DatatypeFault Cell :=
  match integer? token.value with
  | some value => .ok (.int value)
  | none => .error (.notInteger token.value)

/-- The value of a literal on its own. -/
def ofConstant (token : Token) : Except DatatypeFault Cell :=
  match token.kind with
  | .numeric => ofNumeral token
  | .string => .ok (.text token.value)
  | _ => .error (.notValue token.value)

/-- The value of a literal that is stored in a column. -/
def forColumn (datatype : Datatype) (token : Token) : Except DatatypeFault Cell :=
  match datatype, token.kind with
  | .int, .numeric => ofNumeral token
  | .text, .string => .ok (.text token.value)
  | _, _ => .error (.misfit token.value datatype)

end Cell

end SqlShell
