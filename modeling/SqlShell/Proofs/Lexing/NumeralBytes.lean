import SqlShell.Text.Bytes
import SqlShell.Proofs.Lexing.ReadBack
import SqlShell.Proofs.Lexing.Tiling

/-!
# Numerals in bytes

A numeral can be read from the bytes of a source text too, without any characters: a loop goes over
them with two flags, and at an exponent marker it looks one byte ahead for a sign
(`NumeralLoop.turn`). Every access to the bytes is checked here, and one that finds nothing is a
fault.

There is no fault, at any place of any text, and the loop finds what `readNumeral` finds
(`readNumeralBytes_eq`). The flags are the phases of a numeral, except that the loop takes a sign
together with its marker.
-/

namespace SqlShell.Token

/-! ## Reading bytes -/

/-- A place in the bytes of a source text. -/
structure ByteCursor where
  offset : Nat
  location : Location
  deriving Repr, DecidableEq

/-- Behind some more characters of the same line, of one byte each. -/
def ByteCursor.skip (cursor : ByteCursor) (count : Nat) : ByteCursor :=
  ⟨cursor.offset + count, ⟨cursor.location.line, cursor.location.column + count⟩⟩

/-- What the bytes of a source text cannot give: the byte at an offset, the text between two. -/
inductive ByteFault where
  | noByte (offset : Nat)
  | noText (start stop : Nat)
  deriving Repr, DecidableEq

/-- The byte at an offset. -/
def byteAt (bytes : ByteArray) (offset : Nat) : Except ByteFault UInt8 :=
  if _inside : offset < bytes.size then .ok bytes[offset] else .error (.noByte offset)

/-- The text between two offsets, which must not split a character. -/
def textBetween (bytes : ByteArray) (start stop : Nat) : Except ByteFault String :=
  if start ≤ stop ∧ stop ≤ bytes.size then
    match String.fromUTF8? (bytes.extract start stop) with
    | some text => .ok text
    | none => .error (.noText start stop)
  else
    .error (.noText start stop)

/-! ## The loop -/

/-- The byte of a decimal digit. -/
def isDigitByte (byte : UInt8) : Bool :=
  '0'.toUInt8 ≤ byte && byte ≤ '9'.toUInt8

/-- What the loop keeps: where it is, whether a period may no longer come, and whether the exponent
marker was there. -/
structure NumeralLoop where
  cursor : ByteCursor
  period : Bool
  marker : Bool

/-- How a turn of the loop ends: with another turn, with the end of the numeral, or with none. -/
inductive NumeralTurn where
  | onward (loop : NumeralLoop)
  | stop
  | refuse

/-- One turn of the loop over a numeral that starts at `start`. -/
def NumeralLoop.turn (bytes : ByteArray) (start : Nat) (loop : NumeralLoop) :
    Except ByteFault NumeralTurn := do
  let byte ← byteAt bytes loop.cursor.offset
  if loop.cursor.offset = start then
    if isDigitByte byte || byte == '.'.toUInt8 then
      .ok (.onward { loop with cursor := loop.cursor.skip 1, period := byte == '.'.toUInt8 })
    else
      .ok .refuse
  else if byte = '.'.toUInt8 then
    if loop.period then
      .ok .refuse
    else
      .ok (.onward { loop with cursor := loop.cursor.skip 1, period := true })
  else if byte = 'e'.toUInt8 then
    if loop.marker || loop.cursor.offset == bytes.size - 1 then
      .ok .refuse
    else do
      let behind ← byteAt bytes (loop.cursor.offset + 1)
      let signed := behind == '-'.toUInt8 || behind == '+'.toUInt8
      .ok (.onward ⟨loop.cursor.skip (if signed then 2 else 1), true, true⟩)
  else if isDigitByte byte then
    .ok (.onward { loop with cursor := loop.cursor.skip 1 })
  else
    .ok .stop

theorem NumeralLoop.offset_lt_of_turn {bytes : ByteArray} {start : Nat} {loop next : NumeralLoop}
    (h : loop.turn bytes start = .ok (.onward next)) : loop.cursor.offset < next.cursor.offset := by
  have skipped (count : Nat) (more : 0 < count) :
      loop.cursor.offset < (loop.cursor.skip count).offset :=
    Nat.lt_add_of_pos_right more
  cases read : byteAt bytes loop.cursor.offset with
  | error fault => simp [turn, read, bind, Except.bind] at h
  | ok byte =>
    simp only [turn, read, bind, Except.bind] at h
    -- the branches are the first byte, a period, the marker, a digit
    split at h
    · split at h
      all_goals cases h
      exact skipped 1 (by decide)
    split at h
    · split at h
      all_goals cases h
      exact skipped 1 (by decide)
    split at h
    · split at h
      · cases h
      · split at h
        all_goals cases h
        exact skipped _ (by split <;> decide)
    split at h
    all_goals cases h
    exact skipped 1 (by decide)

/-- The place behind the numeral, if there is one. -/
def NumeralLoop.run (bytes : ByteArray) (start : Nat) (loop : NumeralLoop) :
    Except ByteFault (Option ByteCursor) :=
  if loop.cursor.offset < bytes.size then
    match _turned : loop.turn bytes start with
    | .error fault => .error fault
    | .ok .refuse => .ok none
    | .ok .stop => .ok (some loop.cursor)
    | .ok (.onward next) => next.run bytes start
  else
    .ok (some loop.cursor)
termination_by bytes.size - loop.cursor.offset
decreasing_by
  have := NumeralLoop.offset_lt_of_turn _turned
  omega

/-- Read a numeral from the bytes of a source text: its token, and the place behind it. -/
def readNumeralBytes (source : String) (start : ByteCursor) :
    Except ByteFault (Option (Token × ByteCursor)) := do
  match ← NumeralLoop.run source.toUTF8 start.offset ⟨start, false, false⟩ with
  | none => .ok none
  | some cursor =>
    if cursor.offset = start.offset then
      .ok none
    else
      let value ← textBetween source.toUTF8 start.offset cursor.offset
      .ok (some (⟨.numeric, value, start.location⟩, cursor))

/-! ## Bytes and characters -/

/-- The first byte of a character. -/
def leadByte (c : Char) : UInt8 :=
  (String.utf8EncodeChar c).head String.utf8EncodeChar_ne_nil

/-- The first byte is the character, or neither is ASCII. -/
theorem leadByte_toNat (c : Char) :
    (leadByte c).toNat = c.toNat ∨ 128 ≤ (leadByte c).toNat ∧ 128 ≤ c.toNat := by
  have code : c.toNat = c.val.toNat := rfl
  simp only [leadByte, String.utf8EncodeChar]
  split
  · next small =>
    left
    simp only [List.head_cons, UInt8.toNat_ofNat']
    omega
  · next large =>
    refine .inr ⟨?_, by omega⟩
    -- the first bytes of two, three and four begin at 192, 224 and 240
    split
    · simp only [List.head_cons, UInt8.toNat_ofNat']
      omega
    · split
      all_goals
        simp only [List.head_cons, UInt8.toNat_ofNat']
        omega

/-- The first byte tells an ASCII character from all others. -/
theorem leadByte_eq_iff {c d : Char} (ascii : d.toNat < 128) :
    leadByte c = d.toUInt8 ↔ c = d := by
  have byte : d.toUInt8.toNat = d.toNat := Nat.mod_eq_of_lt (Nat.lt_trans ascii (by decide))
  rw [← UInt8.toNat_inj, ← Char.toNat_inj, byte]
  have := leadByte_toNat c
  omega

theorem isDigitByte_leadByte (c : Char) : isDigitByte (leadByte c) = c.isDigit := by
  have digit : c.isDigit = true ↔ 48 ≤ c.toNat ∧ c.toNat ≤ 57 := by
    simp only [Char.isDigit, Bool.and_eq_true, decide_eq_true_eq]
    rfl
  have byte : isDigitByte (leadByte c) = true ↔
      48 ≤ (leadByte c).toNat ∧ (leadByte c).toNat ≤ 57 := by
    simp only [isDigitByte, Bool.and_eq_true, decide_eq_true_eq]
    rfl
  rw [Bool.eq_iff_iff, byte, digit]
  have := leadByte_toNat c
  omega

theorem size_utf8Encode (text : List Char) : text.utf8Encode.size = Text.byteSize text := by
  induction text with
  | nil => rfl
  | cons c text ih =>
    rw [List.utf8Encode_cons, ByteArray.size_append, ih, List.utf8Encode_singleton,
      List.size_toByteArray, String.length_utf8EncodeChar, Text.byteSize_cons]

theorem byteSize_of_ascii {text : List Char} (ascii : ∀ c ∈ text, c.toNat < 128) :
    Text.byteSize text = text.length := by
  induction text with
  | nil => rfl
  | cons c text ih =>
    have one : c.utf8Size = 1 :=
      Char.utf8Size_eq_one_iff.2 (Nat.le_of_lt_succ (ascii c List.mem_cons_self))
    rw [Text.byteSize_cons, one, ih fun c inside => ascii c (List.mem_cons_of_mem _ inside),
      List.length_cons, Nat.add_comm]

/-- What the bytes from an offset on write. -/
def Ahead (bytes : ByteArray) (offset : Nat) (cs : List Char) : Prop :=
  ∃ before : ByteArray, before.size = offset ∧ bytes = before ++ cs.utf8Encode

namespace Ahead

variable {bytes : ByteArray} {offset : Nat} {c : Char} {cs : List Char}

theorem size_eq (h : Ahead bytes offset cs) : bytes.size = offset + cs.utf8Encode.size := by
  obtain ⟨before, rfl, rfl⟩ := h
  exact ByteArray.size_append

theorem lt_size (h : Ahead bytes offset (c :: cs)) : offset < bytes.size := by
  have some : (c :: cs).utf8Encode.size ≠ 0 := by
    simp [ByteArray.size_eq_zero_iff]
  rw [h.size_eq]
  omega

theorem eq_size (h : Ahead bytes offset []) : offset = bytes.size := by
  rw [h.size_eq, List.utf8Encode_nil, ByteArray.size_empty, Nat.add_zero]

theorem byteAt_eq (h : Ahead bytes offset (c :: cs)) : byteAt bytes offset = .ok (leadByte c) := by
  rw [byteAt, dif_pos h.lt_size]
  obtain ⟨before, rfl, rfl⟩ := h
  have first : (c :: cs).utf8Encode =
      (String.utf8EncodeChar c).toByteArray ++ cs.utf8Encode := by
    rw [List.utf8Encode_cons, List.utf8Encode_singleton]
  have inside : 0 < (String.utf8EncodeChar c).toByteArray.size := by
    rw [List.size_toByteArray, String.length_utf8EncodeChar]
    exact c.utf8Size_pos
  simp only [first, ByteArray.getElem_append_right (Nat.le_refl _), Nat.sub_self,
    ByteArray.getElem_append_left inside, List.getElem_toByteArray, leadByte,
    List.head_eq_getElem]

theorem append (text : List Char) {rest : List Char} (h : Ahead bytes offset (text ++ rest)) :
    Ahead bytes (offset + text.utf8Encode.size) rest := by
  obtain ⟨before, rfl, rfl⟩ := h
  refine ⟨before ++ text.utf8Encode, ByteArray.size_append, ?_⟩
  rw [List.utf8Encode_append, ByteArray.append_assoc]

theorem next (h : Ahead bytes offset (c :: cs)) (ascii : c.toNat < 128) :
    Ahead bytes (offset + 1) cs := by
  have one : ∀ d ∈ [c], d.toNat < 128 := by simpa using ascii
  have behind := append [c] h
  rwa [size_utf8Encode, byteSize_of_ascii one] at behind

/-- At any place of a text stands what is behind it. -/
theorem ofText (front back : String) :
    Ahead (front ++ back).toUTF8 front.utf8ByteSize back.toList := by
  refine ⟨front.toUTF8, rfl, ?_⟩
  rw [String.utf8Encode_toList]
  exact String.toByteArray_append

theorem textBetween_byteSize {text rest : List Char} (h : Ahead bytes offset (text ++ rest)) :
    textBetween bytes offset (offset + Text.byteSize text) = .ok (String.ofList text) := by
  rw [← size_utf8Encode]
  have inside : offset ≤ offset + text.utf8Encode.size ∧
      offset + text.utf8Encode.size ≤ bytes.size := by
    rw [h.size_eq, List.utf8Encode_append, ByteArray.size_append]
    omega
  have cut : bytes.extract offset (offset + text.utf8Encode.size) = (String.ofList text).toUTF8 := by
    obtain ⟨before, rfl, rfl⟩ := h
    rw [List.utf8Encode_append]
    have shown := ByteArray.extract_append_size_add (a := before)
      (b := text.utf8Encode ++ rest.utf8Encode) (i := 0) (j := text.utf8Encode.size)
    rw [Nat.add_zero] at shown
    rw [shown, ByteArray.extract_append_eq_left rfl]
    exact String.toByteArray_ofList.symm
  rw [textBetween, if_pos inside, cut, Text.fromUTF8?_toUTF8]

theorem textBetween_eq {text rest : List Char} (h : Ahead bytes offset (text ++ rest))
    (ascii : ∀ c ∈ text, c.toNat < 128) :
    textBetween bytes offset (offset + text.length) = .ok (String.ofList text) := by
  rw [← byteSize_of_ascii ascii]
  exact h.textBetween_byteSize

end Ahead

/-! ## The characters of numerals -/

/-- A digit, a period, an exponent marker or a sign. -/
def IsNumeralChar (c : Char) : Prop :=
  c.isDigit = true ∨ c = '.' ∨ c = 'e' ∨ c = '+' ∨ c = '-'

theorem IsNumeralChar.ascii {c : Char} (h : IsNumeralChar c) : c.toNat < 128 := by
  rcases h with digit | rfl | rfl | rfl | rfl
  · simp only [Char.isDigit, Bool.and_eq_true, decide_eq_true_eq] at digit
    exact Nat.lt_of_le_of_lt digit.2 (by decide)
  all_goals decide

theorem IsNumeralChar.ne_feed {c : Char} (h : IsNumeralChar c) : '\n' ≠ c := by
  rintro rfl
  rcases h with digit | h | h | h | h
  · cases digit
  all_goals cases h

theorem isNumeralChar_of_belongs {phase next : NumeralPhase} {c : Char}
    (belongs : phase.judge c = .belongs next) : IsNumeralChar c := by
  rcases judge_eq_belongs belongs with ⟨period, -⟩ | ⟨marker, -⟩ | ⟨digit, -⟩ | ⟨sign, -⟩
  · exact .inr (.inl period)
  · exact .inr (.inr (.inl marker))
  · exact .inl digit
  · exact .inr (.inr (.inr sign))

theorem IsNumeral.isNumeralChar {cs : List Char} (h : IsNumeral cs) :
    ∀ c ∈ cs, IsNumeralChar c := by
  obtain ⟨c, rest, rfl, first⟩ := isNumeral_iff.1 h
  have others {phase : NumeralPhase} (continues : Continues phase rest) :
      ∀ d ∈ rest, IsNumeralChar d := by
    intro d inside
    obtain ⟨_, _, belongs⟩ := continues.belongs d inside
    exact isNumeralChar_of_belongs belongs
  rcases first with ⟨period, continues⟩ | ⟨digit, continues⟩
  · exact List.forall_mem_cons.2 ⟨.inr (.inl period), others continues⟩
  · exact List.forall_mem_cons.2 ⟨.inl digit, others continues⟩

/-! ## The loop over characters -/

section

variable {bytes : ByteArray} {start : Nat} {loop : NumeralLoop} {phase next : NumeralPhase}
  {cursor : ByteCursor} {c : Char} {cs : List Char} {behind : Option Char}

/-- A turn at a character behind the first, with the character behind it. -/
def NumeralLoop.turnAt (loop : NumeralLoop) (c : Char) (behind : Option Char) : NumeralTurn :=
  if c = '.' then
    if loop.period then .refuse
    else .onward { loop with cursor := loop.cursor.skip 1, period := true }
  else if c = 'e' then
    match behind with
    | none => .refuse
    | some d =>
      if loop.marker then .refuse
      else .onward ⟨loop.cursor.skip (if d = '-' ∨ d = '+' then 2 else 1), true, true⟩
  else if c.isDigit then
    .onward { loop with cursor := loop.cursor.skip 1 }
  else
    .stop

/-- No turn asks for a byte that is not there, the look behind the marker included. -/
theorem turn_eq_turnAt (ahead : Ahead bytes loop.cursor.offset (c :: cs))
    (moved : loop.cursor.offset ≠ start) :
    loop.turn bytes start = .ok (loop.turnAt c cs.head?) := by
  have period : leadByte c = '.'.toUInt8 ↔ c = '.' := leadByte_eq_iff (by decide)
  have marker : leadByte c = 'e'.toUInt8 ↔ c = 'e' := leadByte_eq_iff (by decide)
  have apart : ¬ 'e' = '.' := by decide
  simp only [NumeralLoop.turn, NumeralLoop.turnAt, ahead.byteAt_eq, bind, Except.bind, moved,
    if_false, period, marker, isDigitByte_leadByte]
  by_cases isMarker : c = 'e'
  · subst isMarker
    have behind : Ahead bytes (loop.cursor.offset + 1) cs := ahead.next (by decide)
    cases cs with
    | nil =>
      have last : (loop.cursor.offset == bytes.size - 1) = true := by
        rw [← behind.eq_size, Nat.add_sub_cancel, beq_self_eq_true]
      simp only [last, Bool.or_true, if_true, apart, if_false, List.head?_nil]
    | cons d more =>
      have inside : (loop.cursor.offset == bytes.size - 1) = false := by
        have := behind.lt_size
        rw [beq_eq_false_iff_ne]
        omega
      have minus : leadByte d = '-'.toUInt8 ↔ d = '-' := leadByte_eq_iff (by decide)
      have plus : leadByte d = '+'.toUInt8 ↔ d = '+' := leadByte_eq_iff (by decide)
      simp only [inside, Bool.or_false, behind.byteAt_eq, Bool.or_eq_true, beq_iff_eq, minus, plus,
        List.head?_cons, apart, if_false, if_true]
      split <;> rfl
  · simp only [isMarker, if_false]
    split
    · split <;> rfl
    · split <;> rfl

/-- The loop in a phase of the numeral. -/
def NumeralLoop.ofPhase (phase : NumeralPhase) (cursor : ByteCursor) : NumeralLoop :=
  ⟨cursor, phase != .whole, phase == .marker || phase == .exponent⟩

theorem eq_of_judge_marker (belongs : phase.judge c = .belongs .marker) :
    c = 'e' ∧ (phase = .whole ∨ phase = .fraction) := by
  obtain rfl : c = 'e' := (marker_of_belongs belongs).1 rfl
  cases phase with
  | whole => exact ⟨rfl, .inl rfl⟩
  | fraction => exact ⟨rfl, .inr rfl⟩
  | marker | exponent => cases belongs

theorem turnAt_of_belongs (belongs : phase.judge c = .belongs next) (settled : phase ≠ .marker)
    (other : next ≠ .marker) :
    (NumeralLoop.ofPhase phase cursor).turnAt c behind =
      .onward (.ofPhase next (cursor.skip 1)) := by
  rcases judge_eq_belongs belongs with ⟨rfl, rfl, rfl⟩ | ⟨-, -, rfl⟩ | ⟨digit, rfl⟩ | ⟨-, rfl, -⟩
  · rfl
  · exact absurd rfl other
  · have period : c ≠ '.' := by rintro rfl; cases digit
    have marker : c ≠ 'e' := by rintro rfl; cases digit
    simp only [NumeralLoop.turnAt, period, marker, digit, settled, if_false, if_true]
    rfl
  · exact absurd rfl settled

theorem turnAt_of_ends (ends : phase.judge c = .ends) :
    (NumeralLoop.ofPhase phase cursor).turnAt c behind = .stop := by
  obtain ⟨period, marker⟩ := ne_of_judge_ends ends
  have digit : ¬ c.isDigit = true := by
    intro digit
    cases ends.symm.trans (judge_digit phase digit)
  simp only [NumeralLoop.turnAt, period, marker, digit, if_false]
  rfl

theorem turnAt_of_clashes (clashes : phase.judge c = .clashes) (settled : phase ≠ .marker) :
    (NumeralLoop.ofPhase phase cursor).turnAt c behind = .refuse := by
  rcases eq_of_judge_clashes clashes with rfl | rfl
  · cases phase with
    | whole => cases clashes
    | marker => exact absurd rfl settled
    | fraction | exponent => rfl
  · cases phase with
    | whole | fraction => cases clashes
    | marker => exact absurd rfl settled
    | exponent => cases behind <;> rfl

theorem turnAt_marker (early : phase = .whole ∨ phase = .fraction) :
    (NumeralLoop.ofPhase phase cursor).turnAt 'e' behind =
      match behind with
      | none => .refuse
      | some d =>
        .onward (.ofPhase .exponent (cursor.skip (if d = '-' ∨ d = '+' then 2 else 1))) := by
  rcases early with rfl | rfl
  all_goals cases behind <;> rfl

theorem run_nil (ahead : Ahead bytes loop.cursor.offset []) :
    loop.run bytes start = .ok (some loop.cursor) := by
  have ended : ¬ loop.cursor.offset < bytes.size := Nat.not_lt.2 (Nat.le_of_eq ahead.eq_size.symm)
  rw [NumeralLoop.run, if_neg ended]

/-- What the loop comes to after a turn. -/
def NumeralLoop.after (bytes : ByteArray) (start : Nat) (loop : NumeralLoop) :
    NumeralTurn → Except ByteFault (Option ByteCursor)
  | .onward next => next.run bytes start
  | .stop => .ok (some loop.cursor)
  | .refuse => .ok none

theorem run_eq_after {turn : NumeralTurn} (inside : loop.cursor.offset < bytes.size)
    (turned : loop.turn bytes start = .ok turn) :
    loop.run bytes start = loop.after bytes start turn := by
  rw [NumeralLoop.run, if_pos inside]
  split
  · next failed => cases turned.symm.trans failed
  all_goals
    next turned' =>
    cases turned.symm.trans turned'
    rfl

/-- Behind the marker a sign belongs to the numeral; everything else is judged as behind a digit. -/
theorem readNumeralTail_marker (d : Char) (more : List Char) :
    readNumeralTail .marker (d :: more) =
      if d = '-' ∨ d = '+' then
        (readNumeralTail .exponent more).map fun (text, rest) => (d :: text, rest)
      else readNumeralTail .exponent (d :: more) := by
  split
  · next sign =>
    have belongs : NumeralPhase.marker.judge d = .belongs .exponent := by
      rcases sign with rfl | rfl <;> rfl
    simp only [readNumeralTail, belongs]
  · next sign =>
    have same : NumeralPhase.marker.judge d = NumeralPhase.exponent.judge d := by
      simp [NumeralPhase.judge, sign]
    simp only [readNumeralTail, same]

theorem ByteCursor.skip_skip (cursor : ByteCursor) (count more : Nat) :
    (cursor.skip count).skip more = cursor.skip (count + more) := by
  simp only [skip, Nat.add_assoc]

/-- The place behind what was read, one character further. -/
theorem map_skip_cons (cursor : ByteCursor) (c : Char) (read : Option (List Char × List Char)) :
    ((read.map fun (text, rest) => (c :: text, rest)).map fun (text, _) =>
        cursor.skip text.length) =
      read.map fun (text, _) => (cursor.skip 1).skip text.length := by
  cases read with
  | none => rfl
  | some read => simp only [Option.map_some, ByteCursor.skip_skip, List.length_cons, Nat.add_comm]

/-- The loop finds the numeral that `readNumeralTail` reads. -/
theorem run_ofPhase {cs : List Char} {phase : NumeralPhase} {cursor : ByteCursor}
    (settled : phase ≠ .marker) (ahead : Ahead bytes cursor.offset cs)
    (moved : start < cursor.offset) :
    (NumeralLoop.ofPhase phase cursor).run bytes start =
      .ok ((readNumeralTail phase cs).map fun (text, _) => cursor.skip text.length) := by
  -- the recursion follows the loop, and one turn may take two characters
  have here : Ahead bytes (NumeralLoop.ofPhase phase cursor).cursor.offset cs := ahead
  cases cs with
  | nil =>
    rw [run_nil here, readNumeralTail, if_neg settled]
    rfl
  | cons c cs =>
    rw [run_eq_after here.lt_size (turn_eq_turnAt here (Nat.ne_of_gt moved))]
    cases judged : phase.judge c with
    | ends =>
      rw [turnAt_of_ends judged, readNumeralTail, judged]
      rfl
    | clashes =>
      rw [turnAt_of_clashes judged settled, readNumeralTail, judged]
      rfl
    | belongs next =>
      have later : Ahead bytes (cursor.skip 1).offset cs :=
        ahead.next (isNumeralChar_of_belongs judged).ascii
      have moved' : start < (cursor.skip 1).offset := Nat.lt_succ_of_lt moved
      simp only [readNumeralTail, judged, map_skip_cons]
      by_cases marker : next = .marker
      · subst marker
        obtain ⟨rfl, early⟩ := eq_of_judge_marker judged
        rw [turnAt_marker early]
        cases cs with
        | nil => rfl
        | cons d more =>
          simp only [List.head?_cons, readNumeralTail_marker, NumeralLoop.after]
          split
          · next sign =>
            -- the loop has taken the sign with the marker, in one turn
            have ascii : d.toNat < 128 := by
              rcases sign with rfl | rfl <;> decide
            have beyond : Ahead bytes (cursor.skip 2).offset more := later.next ascii
            have moved'' : start < (cursor.skip 2).offset := Nat.lt_succ_of_lt moved'
            rw [run_ofPhase (by decide) beyond moved'', map_skip_cons, ByteCursor.skip_skip]
          · exact run_ofPhase (by decide) later moved'
      · rw [turnAt_of_belongs judged settled marker]
        exact run_ofPhase marker later moved'
termination_by cs.length

/-! ## Whole numerals -/

theorem turn_first (ahead : Ahead bytes cursor.offset (c :: cs)) :
    NumeralLoop.turn bytes cursor.offset ⟨cursor, false, false⟩ = .ok
      (if c = '.' then .onward (.ofPhase .fraction (cursor.skip 1))
      else if c.isDigit then .onward (.ofPhase .whole (cursor.skip 1))
      else .refuse) := by
  have period : leadByte c = '.'.toUInt8 ↔ c = '.' := leadByte_eq_iff (by decide)
  simp only [NumeralLoop.turn, ahead.byteAt_eq, bind, Except.bind, if_true, isDigitByte_leadByte,
    Bool.or_eq_true, beq_iff_eq, period]
  by_cases isPeriod : c = '.'
  · simp only [isPeriod, or_true, if_true]
    rfl
  · have other : (leadByte c == '.'.toUInt8) = false := by
      rw [beq_eq_false_iff_ne, Ne, period]
      exact isPeriod
    simp only [isPeriod, other, or_false, if_false]
    split <;> rfl

theorem run_first (ahead : Ahead bytes cursor.offset (c :: cs)) :
    NumeralLoop.run bytes cursor.offset ⟨cursor, false, false⟩ =
      .ok ((readNumeral (c :: cs)).map fun (text, _) => cursor.skip text.length) := by
  have moved : cursor.offset < (cursor.skip 1).offset := Nat.lt_succ_self _
  rw [run_eq_after ahead.lt_size (turn_first ahead), readNumeral]
  split
  · next period =>
    have later : Ahead bytes (cursor.skip 1).offset cs := ahead.next (by rw [period]; decide)
    rw [map_skip_cons]
    exact run_ofPhase (by decide) later moved
  · split
    · next digit =>
      have later : Ahead bytes (cursor.skip 1).offset cs :=
        ahead.next (IsNumeralChar.ascii (.inl digit))
      rw [map_skip_cons]
      exact run_ofPhase (by decide) later moved
    · rfl

theorem readNumeralBytes_of_ahead {source : String}
    (ahead : Ahead source.toUTF8 cursor.offset cs) :
    readNumeralBytes source cursor = .ok ((readNumeral cs).map fun (text, _) =>
      (⟨.numeric, String.ofList text, cursor.location⟩, cursor.skip text.length)) := by
  cases cs with
  | nil =>
    have ran : NumeralLoop.run source.toUTF8 cursor.offset ⟨cursor, false, false⟩ =
        .ok (some cursor) := run_nil ahead
    simp only [readNumeralBytes, ran, bind, Except.bind, if_true, readNumeral, Option.map_none]
  | cons c cs =>
    have ran := run_first ahead
    cases read : readNumeral (c :: cs) with
    | none =>
      simp only [read, Option.map_none] at ran
      simp only [readNumeralBytes, ran, bind, Except.bind, Option.map_none]
    | some found =>
      obtain ⟨text, rest⟩ := found
      simp only [read, Option.map_some] at ran
      obtain ⟨tile, nonempty⟩ := append_of_readNumeral read
      have numeral := (readNumeral_eq_some_iff.1 read).2.member
      have moved : (cursor.skip text.length).offset ≠ cursor.offset :=
        Nat.ne_of_gt (Nat.lt_add_of_pos_right (List.length_pos_iff.2 nonempty))
      have value : textBetween source.toUTF8 cursor.offset (cursor.skip text.length).offset =
          .ok (String.ofList text) := by
        rw [← tile] at ahead
        exact ahead.textBetween_eq fun c inside => (numeral.isNumeralChar c inside).ascii
      simp only [readNumeralBytes, ran, bind, Except.bind, moved, if_false, value, Option.map_some]

end

/-- The bytes of a source text give the numeral that its characters give, at every place, and never
a fault. -/
theorem readNumeralBytes_eq (front back : String) (location : Location) :
    readNumeralBytes (front ++ back) ⟨front.utf8ByteSize, location⟩ =
      .ok ((readNumeral back.toList).map fun (text, _) =>
        (⟨.numeric, String.ofList text, location⟩,
          ByteCursor.skip ⟨front.utf8ByteSize, location⟩ text.length)) :=
  readNumeralBytes_of_ahead (.ofText front back)

/-- Numerals are read exactly, at every place of every source text. A numeral is taken if and only
if it is the longest that stands there, no period or marker follows it and it has no marker that
ends the text; the place behind it is further on the same line by its length. The bytes are never
read where there are none, and give the same. -/
theorem numerals_are_read_exactly (front back : String) (location : Location) :
    (∃ found, readNumeralBytes (front ++ back) ⟨front.utf8ByteSize, location⟩ = .ok found ∧
      ∀ token behind, found = some (token, behind) ↔
        ∃ text rest, back.toList = text ++ rest ∧ LongestStart IsNumeral text rest ∧
          token = ⟨.numeric, String.ofList text, location⟩ ∧
          behind = ⟨front.utf8ByteSize + text.length,
            ⟨location.line, location.column + text.length⟩⟩) ∧
    ∀ piece rest, takeNumeral back.toList = some (piece, rest) ↔
      ∃ text, back.toList = text ++ rest ∧ LongestStart IsNumeral text rest ∧
        piece = .lexeme .numeric text text ∧
        location.advance piece.text = ⟨location.line, location.column + text.length⟩ := by
  refine ⟨⟨_, readNumeralBytes_eq front back location, fun token behind => ?_⟩,
    fun piece rest => ?_⟩
  · simp only [Option.map_eq_some_iff, Prod.exists, Prod.mk.injEq, readNumeral_eq_some_iff]
    constructor
    · rintro ⟨text, rest, ⟨split, start⟩, rfl, rfl⟩
      exact ⟨text, rest, split, start, rfl, rfl⟩
    · rintro ⟨text, rest, split, start, rfl, rfl⟩
      exact ⟨text, rest, ⟨split, start⟩, rfl, rfl⟩
  · rw [takeNumeral_eq_some_iff]
    constructor
    · rintro ⟨text, split, start, rfl⟩
      have free : '\n' ∉ text := fun inside =>
        (start.member.isNumeralChar _ inside).ne_feed rfl
      exact ⟨text, split, start, rfl, Location.advance_of_free free location⟩
    · rintro ⟨text, split, start, rfl, -⟩
      exact ⟨text, split, start, rfl⟩

end SqlShell.Token
