import SqlShell.Text.CharWidth
import SqlShell.Text.Emoji

/-!
# Display width of a text

How many terminal columns a text takes. That is the sum over its characters, except where characters
merge into one sign:

* a selector makes an emoji of two columns, or a text of one, of the character in front of it;
* a skin tone, and a joiner with an emoji behind it, add nothing to the emoji in front of them;
* in some scripts two letters are written as one, possibly with a joiner between them.

What a character takes depends on what stands behind it. So a text is measured from its end, and a
`Context` says all that matters of the part that has been measured. In front of a letter, a digit or
a space of ASCII the count starts afresh (`measure_append`), and no text takes less than no column
(`measure_nonneg`).
-/

namespace SqlShell.Text

/-! ## What stands behind a character -/

/-- The last letter of a sign, or the last letters, that letters in front may complete. -/
inductive LigaturePart where
  | arabicAlef
  | hebrewLamed
  | bugineseYa
  /-- The Buginese vowel sign of a joined ya. -/
  | bugineseVowel
  | tifinaghConsonant
  /-- The consonant joiner of Tifinagh in front of a consonant. -/
  | tifinaghJoiner
  | lisuTone
  | turkicI
  | khmerLetter
  deriving Repr, DecidableEq

/-- How far a joined emoji has been read towards its start, from the joiner on. -/
inductive EmojiTail where
  /-- Only the joiner and what is behind it. -/
  | joiner
  | keycapSign
  /-- The second half of a flag. -/
  | halfFlag
  /-- One flag, with any number of flags behind it that are not joined. -/
  | flag
  /-- A flag, and the second half of another in front of it. -/
  | flagAndHalf
  /-- The end of a tag, and that many letters in front of it. -/
  | tagLetters (count : Nat)
  /-- The end of a tag, some letters in front of it, and that many digits in front of them. -/
  | tagDigits (count : Nat)
  deriving Repr, DecidableEq

/-- What stands behind a character, selectors aside. -/
inductive Follower where
  | plain
  | ligature (part : LigaturePart) (joined : Bool)
  | skinTone
  | emoji
  | regionalIndicator
  | regionalIndicators
  | joinedEmoji (tail : EmojiTail)
  deriving Repr, DecidableEq

/-- How a selector asks for a character to be shown. -/
inductive SignStyle where
  | text
  | emoji
  deriving Repr, DecidableEq

/-- What stands behind a character. -/
structure Context where
  follower : Follower := .plain
  style : Option SignStyle := none
  deriving Repr, DecidableEq

/-- The columns that a character adds, and the context it makes with what is behind it. It adds less
than nothing to a sign that takes less room than its last letters alone. -/
abbrev Measure := Int × Context

/-- A number of columns and what stands there. -/
def Measure.of (columns : Int) (follower : Follower) : Measure :=
  (columns, { follower })

/-! ## Ligatures -/

/-- Arabic letters of the shape of alef. -/
def isAlef (c : Char) : Bool :=
  [0x622, 0x623, 0x625, 0x627, 0x671, 0x672, 0x673, 0x675, 0x773, 0x774].contains c.toNat ||
    (0x870 ≤ c.toNat && c.toNat ≤ 0x882)

/-- Arabic letters of the shape of lam. -/
def isLam (c : Char) : Bool :=
  [0x644, 0x6B5, 0x6B6, 0x6B7, 0x6B8, 0x76A, 0x8A6, 0x8C7].contains c.toNat

/-- Characters without a column that keep the Arabic letters around them apart. -/
def separatingInArabic : CodePoints :=
  [(0x605, 0x605), (0x890, 0x891), (0x8E2, 0x8E2), (0x9BE, 0x9BE), (0x9D7, 0x9D7), (0xB3E, 0xB3E),
    (0xB57, 0xB57), (0xBBE, 0xBBE), (0xBD7, 0xBD7), (0xCC0, 0xCC0), (0xCC2, 0xCC2), (0xCC7, 0xCC8),
    (0xCCA, 0xCCB), (0xCD5, 0xCD6), (0xD3E, 0xD3E), (0xD4E, 0xD4E), (0xD57, 0xD57), (0xDCF, 0xDCF),
    (0xDDF, 0xDDF), (0x1160, 0x11FF), (0x180E, 0x180E), (0x1B35, 0x1B35), (0x1B3B, 0x1B3B),
    (0x1B3D, 0x1B3D), (0x1B43, 0x1B43), (0x200C, 0x200D), (0x2065, 0x2069), (0x302E, 0x302F),
    (0x3164, 0x3164), (0xA8FA, 0xA8FA), (0xD7B0, 0xD7C6), (0xD7CB, 0xD7FB), (0xFF9E, 0xFFA0),
    (0xFFF0, 0xFFF8), (0x111C2, 0x111C3), (0x1133E, 0x1133E), (0x11357, 0x11357),
    (0x114B0, 0x114B0), (0x114BD, 0x114BD), (0x115AF, 0x115AF), (0x11930, 0x11930),
    (0x1193F, 0x1193F), (0x11941, 0x11941), (0x11A3A, 0x11A3A), (0x11A84, 0x11A89),
    (0x11D46, 0x11D46), (0x11F02, 0x11F02), (0x1D165, 0x1D165), (0x1D16E, 0x1D172),
    (0xE0000, 0xE0000), (0xE0002, 0xE001F), (0xE0080, 0xE00FF), (0xE01F0, 0xE0FFF)]

/-- Whether an Arabic ligature may hold a character between its letters. -/
def isTransparentInArabic (c : Char) : Bool :=
  charWidth c == 0 && !separatingInArabic.has c

/-- Invisible marks that other ligatures may hold between their letters. -/
def ignorableMarks : CodePoints :=
  [(0x34F, 0x34F), (0x17B4, 0x17B5), (0x180B, 0x180D), (0x180F, 0x180F), (0xFE00, 0xFE0F),
    (0xE0100, 0xE01EF)]

/-- Khmer letters whose subscript form takes no column. -/
def khmerSubscripts : CodePoints :=
  [(0x1780, 0x1782), (0x1784, 0x1787), (0x1789, 0x178C), (0x178E, 0x1793), (0x1795, 0x1798),
    (0x179B, 0x179D), (0x17A0, 0x17A0), (0x17A2, 0x17A2), (0x17A7, 0x17A7), (0x17AB, 0x17AC),
    (0x17AF, 0x17AF)]

/-- A consonant of Tifinagh. -/
def isTifinaghConsonant (c : Char) : Bool :=
  (0x2D31 ≤ c.toNat && c.toNat ≤ 0x2D65) || c.toNat == 0x2D6F

/-- The part of a ligature that a character begins to read. -/
def ligaturePart? (c : Char) : Option LigaturePart :=
  if isAlef c then some .arabicAlef
  else if c.toNat = 0x5DC then some .hebrewLamed
  else if c.toNat = 0x1A10 then some .bugineseYa
  else if isTifinaghConsonant c then some .tifinaghConsonant
  else if c.toNat = 0xA4FC ∨ c.toNat = 0xA4FD then some .lisuTone
  else if c.toNat = 0x10C03 then some .turkicI
  else if khmerSubscripts.has c then some .khmerLetter
  else none

/-- Whether a ligature with a last part goes on at a character, given whether a joiner stands
between them: what the character adds, and what the ligature is then. -/
def LigaturePart.absorb? (part : LigaturePart) (joined : Bool) (c : Char) : Option Measure :=
  match part with
  | .arabicAlef =>
    if isLam c then some (.of 0 .plain)
    else if isTransparentInArabic c then some (.of 0 (.ligature .arabicAlef false))
    else none
  | .hebrewLamed => if joined && c.toNat = 0x5D0 then some (.of 0 .plain) else none
  | .bugineseYa =>
    if joined && c.toNat = 0x1A17 then some (.of 0 (.ligature .bugineseVowel false)) else none
  | .bugineseVowel => if c.toNat = 0x1A15 then some (.of 0 .plain) else none
  | .tifinaghConsonant =>
    if c.toNat = 0x2D7F then some (.of 1 (.ligature .tifinaghJoiner false))
    else if joined && isTifinaghConsonant c then some (.of 0 .plain)
    else none
  | .tifinaghJoiner => if isTifinaghConsonant c then some (.of (-1) .plain) else none
  | .lisuTone =>
    if 0xA4F8 ≤ c.toNat ∧ c.toNat ≤ 0xA4FB then some (.of 0 .plain) else none
  | .turkicI => if joined && c.toNat = 0x10C32 then some (.of 0 .plain) else none
  | .khmerLetter => if c.toNat = 0x17D2 then some (.of (-1) .plain) else none

/-- Whether a ligature takes a character in: an invisible one between its letters, or its next. -/
def absorbLigature? (part : LigaturePart) (joined : Bool) (c : Char) : Option Measure :=
  if part ≠ .arabicAlef ∧ c = zeroWidthJoiner then some (.of 0 (.ligature part true))
  else if part ≠ .arabicAlef ∧ ignorableMarks.has c then some (.of 0 (.ligature part joined))
  else part.absorb? joined c

/-! ## Emoji -/

/-- Whether an emoji that ends in a joiner and more goes on at a character. -/
def EmojiTail.absorb? (tail : EmojiTail) (c : Char) : Option Measure :=
  match tail with
  | .joiner =>
    if c = Text.keycapSign then some (.of 0 (.joinedEmoji .keycapSign))
    else if isRegionalIndicator c then some (.of 1 (.joinedEmoji .halfFlag))
    else if isSkinTone c then some (.of 0 .skinTone)
    else if isTagEnd c then some (.of 0 (.joinedEmoji (.tagLetters 0)))
    else if defaultEmoji.has c then some (.of 0 .emoji)
    else none
  | .keycapSign => none
  | .halfFlag =>
    if isRegionalIndicator c then some (.of (-1) (.joinedEmoji .flag)) else none
  | .flag =>
    if c = zeroWidthJoiner then some (.of 0 (.joinedEmoji .joiner))
    else if isRegionalIndicator c then some (.of 3 (.joinedEmoji .flagAndHalf))
    else none
  | .flagAndHalf =>
    if c = zeroWidthJoiner then some (.of 0 (.joinedEmoji .joiner))
    else if isRegionalIndicator c then some (.of (-1) (.joinedEmoji .flag))
    else none
  | .tagLetters count =>
    if isTagLetter c && count < 6 then some (.of 0 (.joinedEmoji (.tagLetters (count + 1))))
    else if isTagDigit c && count < 5 then some (.of 0 (.joinedEmoji (.tagDigits 1)))
    else if isTaggedFlag c && 3 ≤ count then some (.of 0 .emoji)
    else none
  | .tagDigits count =>
    if isTagDigit c && count < 3 then some (.of 0 (.joinedEmoji (.tagDigits (count + 1))))
    else if isTaggedFlag c && count = 3 then some (.of 0 .emoji)
    else none

/-- Whether a character merges with what stands behind it. -/
def Follower.absorb? (follower : Follower) (c : Char) : Option Measure :=
  match follower with
  | .plain => none
  | .ligature part joined => absorbLigature? part joined c
  | .skinTone =>
    if modifiable.has c then some (.of 0 .emoji)
    else if c = zeroWidthJoiner then some (.of 0 (.joinedEmoji .joiner))
    else none
  | .emoji => if c = zeroWidthJoiner then some (.of 0 (.joinedEmoji .joiner)) else none
  | .regionalIndicator =>
    if isRegionalIndicator c then some (.of 1 .regionalIndicators) else none
  | .regionalIndicators =>
    if isRegionalIndicator c then some (.of 1 .regionalIndicators)
    else if c = zeroWidthJoiner then some (.of 0 (.joinedEmoji .joiner))
    else none
  | .joinedEmoji tail => tail.absorb? c

/-- The columns of a character that does not merge with what stands behind it, and what it is to the
one in front of it. -/
def measureAlone (c : Char) : Measure :=
  if isRegionalIndicator c then .of 1 .regionalIndicator
  else if isSkinTone c then .of 2 .skinTone
  else if defaultEmoji.has c then .of 2 .emoji
  else
    match ligaturePart? c with
    | some part => .of 1 (.ligature part false)
    | none => .of (charWidth c) .plain

/-! ## Selectors -/

/-- Whether a ligature goes on in front of a selector. -/
def Follower.isLigature : Follower → Bool
  | .ligature .. => true
  | _ => false

/-- Whether a selector in front leaves the next character part of a joined emoji. -/
def Follower.awaitsEmoji : Follower → Bool
  | .joinedEmoji .joiner | .joinedEmoji .keycapSign => true
  | _ => false

/-- The context in front of a selector. -/
def Context.styled (context : Context) : SignStyle → Context
  | .text =>
    { follower := if context.follower.isLigature then context.follower else .plain
      style := some .text }
  | .emoji =>
    { follower :=
        if context.follower.isLigature || context.follower.awaitsEmoji then context.follower
        else .plain
      style := some .emoji }

/-- The context when the character in front of a selector for emoji has no such style. -/
def Context.unstyled (context : Context) : Context :=
  if context.style = some .emoji then
    { follower := if context.follower.isLigature then context.follower else .plain }
  else
    context

/-! ## Texts -/

/-- The columns that a character without the style of an emoji adds. -/
def measureUnstyled (context : Context) (c : Char) : Measure :=
  if c.toNat ≤ 0xA0 then .of 1 .plain
  else if c = emojiSelector then (0, context.styled .emoji)
  else if c = textSelector then (0, context.styled .text)
  else if context.style = some .text ∧ isTextStylable c then .of 1 .plain
  else (context.follower.absorb? c).getD (measureAlone c)

/-- The columns that a character adds in a context. -/
def measureChar (context : Context) (c : Char) : Measure :=
  if context.style = some .emoji ∧ stylable.has c then
    .of (if context.follower.awaitsEmoji then 0 else 2) .emoji
  else
    measureUnstyled context.unstyled c

/-- The columns a text takes, and the context in front of it. -/
def measure : List Char → Measure
  | [] => .of 0 .plain
  | c :: rest =>
    let behind := measure rest
    let added := measureChar behind.2 c
    (added.1 + behind.1, added.2)

/-- The columns a text takes. -/
def width (text : List Char) : Nat :=
  (measure text).1.toNat

/-! ## Texts side by side -/

/-- In front of a control character, a space or a letter of ASCII the count starts afresh. -/
theorem measure_cons_plain (c : Char) (rest : List Char) (narrow : c.toNat ≤ 0xA0)
    (bare : stylable.has c = false) : measure (c :: rest) = (1 + (measure rest).1, {}) := by
  simp [measure, measureChar, bare, measureUnstyled, narrow, Measure.of]

/-- Where the count starts afresh, the columns of two texts add up. -/
theorem measure_append (front rest : List Char) (fresh : (measure rest).2 = {}) :
    measure (front ++ rest) = ((measure front).1 + (measure rest).1, (measure front).2) := by
  induction front with
  | nil => simp [measure, Measure.of, ← fresh]
  | cons c front ih => simp [measure, ih, Int.add_assoc]

/-! ## No text takes less than no column -/

/-- The columns that have been counted for letters that one in front of them may take in. -/
def Follower.counted : Follower → Int
  | .ligature .khmerLetter _ | .ligature .tifinaghJoiner _ => 1
  | .joinedEmoji .halfFlag | .joinedEmoji .flagAndHalf => 1
  | _ => 0

/-- A character takes in no more than has been counted. -/
def Measure.Covers (counted : Int) (added : Measure) : Prop :=
  added.2.follower.counted ≤ counted + added.1

theorem Follower.counted_nonneg (follower : Follower) : 0 ≤ follower.counted := by
  unfold counted
  split <;> decide

theorem LigaturePart.covers_absorb {part : LigaturePart} {joined : Bool} {c : Char} {added : Measure}
    (h : part.absorb? joined c = some added) :
    added.Covers (Follower.ligature part joined).counted := by
  cases part <;> simp only [absorb?] at h <;> grind [Measure.Covers, Measure.of, Follower.counted]

theorem covers_absorbLigature {part : LigaturePart} {joined : Bool} {c : Char} {added : Measure}
    (h : absorbLigature? part joined c = some added) :
    added.Covers (Follower.ligature part joined).counted := by
  unfold absorbLigature? at h
  split at h
  · cases part <;> grind [Measure.Covers, Measure.of, Follower.counted]
  · split at h
    · cases part <;> grind [Measure.Covers, Measure.of, Follower.counted]
    · exact LigaturePart.covers_absorb h

theorem EmojiTail.covers_absorb {tail : EmojiTail} {c : Char} {added : Measure}
    (h : tail.absorb? c = some added) : added.Covers (Follower.joinedEmoji tail).counted := by
  cases tail <;> simp only [absorb?] at h <;> grind [Measure.Covers, Measure.of, Follower.counted]

theorem Follower.covers_absorb {follower : Follower} {c : Char} {added : Measure}
    (h : follower.absorb? c = some added) : added.Covers follower.counted := by
  cases follower with
  | ligature part joined => exact covers_absorbLigature h
  | joinedEmoji tail => exact EmojiTail.covers_absorb h
  | plain => simp [absorb?] at h
  | skinTone | emoji | regionalIndicator | regionalIndicators =>
    simp only [absorb?] at h
    grind [Measure.Covers, Measure.of, Follower.counted]

theorem covers_measureAlone (c : Char) {counted : Int} (h : 0 ≤ counted) :
    (measureAlone c).Covers counted := by
  have (part : LigaturePart) : (Follower.ligature part false).counted ≤ 1 := by
    cases part <;> decide
  unfold measureAlone
  grind [Measure.Covers, Measure.of, Follower.counted]

theorem Context.counted_unstyled (context : Context) :
    context.unstyled.follower.counted ≤ context.follower.counted := by
  have := context.follower.counted_nonneg
  unfold unstyled
  grind [Follower.counted]

theorem Context.counted_styled (context : Context) (style : SignStyle) :
    (context.styled style).follower.counted ≤ context.follower.counted := by
  have := context.follower.counted_nonneg
  cases style <;> simp only [styled] <;> grind [Follower.counted]

theorem covers_measureUnstyled (context : Context) (c : Char) :
    (measureUnstyled context c).Covers context.follower.counted := by
  have nonneg := context.follower.counted_nonneg
  unfold measureUnstyled
  split
  · grind [Measure.Covers, Measure.of, Follower.counted]
  · split
    · simpa [Measure.Covers] using context.counted_styled .emoji
    · split
      · simpa [Measure.Covers] using context.counted_styled .text
      · split
        · grind [Measure.Covers, Measure.of, Follower.counted]
        · cases h : context.follower.absorb? c with
          | none => exact covers_measureAlone c nonneg
          | some added => exact Follower.covers_absorb h

theorem covers_measureChar (context : Context) (c : Char) :
    (measureChar context c).Covers context.follower.counted := by
  have nonneg := context.follower.counted_nonneg
  unfold measureChar
  split
  · grind [Measure.Covers, Measure.of, Follower.counted]
  · have covers := covers_measureUnstyled context.unstyled c
    have := context.counted_unstyled
    unfold Measure.Covers at covers ⊢
    omega

theorem counted_le_measure (text : List Char) :
    (measure text).2.follower.counted ≤ (measure text).1 := by
  induction text with
  | nil => decide
  | cons c rest ih =>
    have := covers_measureChar (measure rest).2 c
    simp only [measure, Measure.Covers] at this ⊢
    omega

/-- No text takes less than no column. -/
theorem measure_nonneg (text : List Char) : 0 ≤ (measure text).1 :=
  Int.le_trans (Follower.counted_nonneg _) (counted_le_measure text)

/-- Where the count starts afresh, the widths of two texts add up. -/
theorem width_append (front rest : List Char) (fresh : (measure rest).2 = {}) :
    width (front ++ rest) = width front + width rest := by
  have := measure_nonneg front
  have := measure_nonneg rest
  simp only [width, measure_append front rest fresh]
  omega

end SqlShell.Text
