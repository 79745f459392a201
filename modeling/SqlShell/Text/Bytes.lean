/-!
# Sizes in bytes

The size of a text in bytes of UTF-8, and the parts of a text that begin or end behind some number
of bytes. A number that falls inside a character counts that character to the front part.
-/

namespace SqlShell.Text

/-- The size of a text in bytes. -/
def byteSize (text : List Char) : Nat :=
  text.foldl (fun bytes c => bytes + c.utf8Size) 0

theorem foldl_utf8Size (text : List Char) (bytes : Nat) :
    text.foldl (fun bytes c => bytes + c.utf8Size) bytes = bytes + byteSize text := by
  induction text generalizing bytes with
  | nil => rfl
  | cons c text ih =>
    rw [byteSize, List.foldl_cons, List.foldl_cons, ih, ih (0 + c.utf8Size), Nat.zero_add,
      Nat.add_assoc]

theorem byteSize_cons (c : Char) (text : List Char) :
    byteSize (c :: text) = c.utf8Size + byteSize text := by
  rw [byteSize, List.foldl_cons, foldl_utf8Size, Nat.zero_add]

/-- The sizes of two texts add up. -/
theorem byteSize_append (front back : List Char) :
    byteSize (front ++ back) = byteSize front + byteSize back := by
  rw [byteSize, List.foldl_append, foldl_utf8Size]
  rfl

/-- The characters behind the first bytes of a text. -/
def dropBytes : Nat → List Char → List Char
  | 0, text => text
  | _ + 1, [] => []
  | bytes + 1, c :: text => dropBytes (bytes + 1 - c.utf8Size) text

/-- The characters in the first bytes of a text. -/
def takeBytes : Nat → List Char → List Char
  | 0, _ => []
  | _ + 1, [] => []
  | bytes + 1, c :: text => c :: takeBytes (bytes + 1 - c.utf8Size) text

/-- A text is read back from its bytes. -/
theorem fromUTF8?_toUTF8 (text : String) : String.fromUTF8? text.toUTF8 = some text := by
  unfold String.fromUTF8?
  exact dif_pos text.isValidUTF8

end SqlShell.Text
