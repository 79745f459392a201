/-!
# Decimal digits

The number that a text of ASCII digits stands for, with or without a sign. Leading zeros are
allowed, a text without digits is no number, and a text of any length is read exactly.
-/

namespace SqlShell.Text

/-- The value of a digit. -/
def digitValue (c : Char) : Nat :=
  c.toNat - '0'.toNat

/-- The number written by decimal digits, of which there must be one at least. -/
def digits? (cs : List Char) : Option Nat :=
  if cs.isEmpty || !cs.all Char.isDigit then none
  else some (cs.foldl (fun n c => 10 * n + digitValue c) 0)

/-- The number written by decimal digits with at most one sign in front. -/
def signedDigits? : List Char → Option Int
  | '-' :: cs => (digits? cs).map fun n => -(n : Int)
  | '+' :: cs => (digits? cs).map fun n => (n : Int)
  | cs => (digits? cs).map fun n => (n : Int)

end SqlShell.Text
