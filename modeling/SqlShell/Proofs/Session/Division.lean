import Mathlib.Data.List.TakeWhile
import SqlShell.Proofs.Text.Lines
import SqlShell.Session.Conversation

/-!
# How an input is divided

An input is cut into lines, and its lines are divided into chunks: a chunk goes on up to the first
line that ends with a semicolon, white space aside, and is run as one script. Which lines belong
together depends on the lines alone, not on what running them does.

`divide` says so without a pending text, and `converse_eq_play` proves that a conversation about
some lines is the conversation that their division describes.
-/

namespace SqlShell

/-! ## Blanks at the ends -/

namespace Text

theorem trimEnd_append (front back : List Char) :
    trimEnd (front ++ back) =
      if isBlankText back then trimEnd front else front ++ trimEnd back := by
  have blanks : isBlankText back = (back.reverse.dropWhile isBlank).isEmpty := by
    rw [Bool.eq_iff_iff, isBlankText, List.all_eq_true, List.isEmpty_iff,
      List.dropWhile_eq_nil_iff]
    simp
  unfold trimEnd
  rw [List.reverse_append, List.dropWhile_append, blanks]
  split <;> simp

theorem isBlankText_append (front back : List Char) :
    isBlankText (front ++ back) = (isBlankText front && isBlankText back) :=
  List.all_append

theorem trimEnd_eq_nil_iff {text : List Char} :
    trimEnd text = [] ↔ isBlankText text = true := by
  simp [trimEnd, isBlankText, List.dropWhile_eq_nil_iff]

/-- Blanks around a text make no difference to what is left of it. -/
theorem trim_between {front back : List Char} (blank : isBlankText front = true)
    (blank' : isBlankText back = true) (text : List Char) :
    trim (front ++ text ++ back) = trim text := by
  have dropped : (front ++ (text ++ back)).dropWhile isBlank = (text ++ back).dropWhile isBlank :=
    List.dropWhile_append_of_pos (List.all_eq_true.1 blank)
  have nothing : back.dropWhile isBlank = [] := List.dropWhile_eq_nil_iff.2 (List.all_eq_true.1 blank')
  rw [trim, List.append_assoc, dropped, List.dropWhile_append, nothing]
  split
  · next empty =>
    -- The text is blank itself, so it leaves nothing either way.
    rw [trim, List.isEmpty_iff.1 empty]
  · rw [trimEnd_append, if_pos blank', trim]

theorem exists_blanks_around (text : List Char) : ∃ front back,
    text = front ++ trim text ++ back ∧ isBlankText front = true ∧ isBlankText back = true := by
  let kept := text.dropWhile isBlank
  have ends : kept = trimEnd kept ++ (kept.reverse.takeWhile isBlank).reverse := by
    rw [trimEnd, ← List.reverse_append, List.takeWhile_append_dropWhile, List.reverse_reverse]
  refine ⟨text.takeWhile isBlank, (kept.reverse.takeWhile isBlank).reverse, ?_,
    List.all_takeWhile, ?_⟩
  · rw [List.append_assoc, trim, ← ends, List.takeWhile_append_dropWhile]
  · rw [isBlankText, List.all_reverse]
    exact List.all_takeWhile

end Text

/-! ## Chunks -/

/-- One of three words, alone on its line but for blanks. -/
def EndsInput (line : List Char) : Prop :=
  ∃ front word back, line = front ++ word.toList ++ back ∧ Text.isBlankText front = true ∧
    Text.isBlankText back = true ∧ (word = "\\q" ∨ word = "quit" ∨ word = "exit")

theorem endsInput_iff {line : List Char} : EndsInput line ↔ isQuit (String.ofList line) = true := by
  have quits : isQuit (String.ofList line) = true ↔
      let word := String.ofList (Text.trim line)
      word = "\\q" ∨ word = "quit" ∨ word = "exit" := by
    simp [isQuit, quitWords]
  rw [quits]
  constructor
  · rintro ⟨front, word, back, rfl, blank, blank', known⟩
    have bare : Text.trim word.toList = word.toList := by
      rcases known with rfl | rfl | rfl <;> decide
    rw [Text.trim_between blank blank', bare, String.ofList_toList]
    exact known
  · intro known
    obtain ⟨front, back, split, blank, blank'⟩ := Text.exists_blanks_around line
    exact ⟨front, _, back, by rw [String.toList_ofList, ← split], blank, blank', known⟩

instance (line : List Char) : Decidable (EndsInput line) :=
  decidable_of_iff _ endsInput_iff.symm

/-- Whether a line is the last of its chunk. -/
def closes (line : List Char) : Bool :=
  (Text.trimEnd line).getLast? == some ';'

/-- A part of an input: a line that is passed over, or lines that are run as one script. -/
inductive Segment where
  | blank (line : List Char)
  | chunk (lines : List (List Char))
  deriving DecidableEq

/-- How an input comes to its end: behind its last segment, at a quit word, which leaves the rest
of the input unread, or in the middle of a chunk. -/
inductive Ending where
  | atEnd
  | quit
  | unfinished (lines : List (List Char))
  deriving DecidableEq

structure Division where
  segments : List Segment
  ending : Ending
  deriving DecidableEq

def Division.behind (segment : Segment) (division : Division) : Division :=
  { division with segments := segment :: division.segments }

/-- In front of a chunk, a quit word ends the input and a blank line is passed over. Any other line
opens a chunk, which goes on up to the first line that closes it. -/
def divide : List (List Char) → Division
  | [] => ⟨[], .atEnd⟩
  | line :: rest =>
    if EndsInput line then ⟨[], .quit⟩
    else if Text.isBlankText line then (divide rest).behind (.blank line)
    else
      match _open : (line :: rest).dropWhile (! closes ·) with
      | [] => ⟨[], .unfinished (line :: rest)⟩
      | closing :: further =>
        (divide further).behind (.chunk ((line :: rest).takeWhile (! closes ·) ++ [closing]))
termination_by lines => lines.length
decreasing_by
  · simp
  · have shorter := (List.dropWhile_sublist (p := (! closes ·)) (l := line :: rest)).length_le
    rw [_open] at shorter
    exact Nat.lt_succ_of_le (by simpa using shorter)

theorem divide_quit {line : List Char} (quit : EndsInput line) (rest : List (List Char)) :
    divide (line :: rest) = ⟨[], .quit⟩ := by
  rw [divide, if_pos quit]

theorem divide_blank {line : List Char} (noQuit : ¬ EndsInput line)
    (blank : Text.isBlankText line = true) (rest : List (List Char)) :
    divide (line :: rest) = (divide rest).behind (.blank line) := by
  rw [divide, if_neg noQuit, if_pos blank]

theorem divide_chunk {line : List Char} (noQuit : ¬ EndsInput line)
    (notBlank : Text.isBlankText line = false) {rest further : List (List Char)}
    {closing : List Char} (closed : (line :: rest).dropWhile (! closes ·) = closing :: further) :
    divide (line :: rest) = (divide further).behind
      (.chunk ((line :: rest).takeWhile (! closes ·) ++ [closing])) := by
  rw [divide, if_neg noQuit, notBlank, if_neg (by simp)]
  split
  · next unclosed => simp [unclosed] at closed
  · next closed' =>
    obtain ⟨rfl, rfl⟩ : _ = _ ∧ _ = _ := by simpa [closed'] using closed
    rfl

/-- What follows a quit word is never looked at. -/
theorem divide_append_of_quit (lines more : List (List Char))
    (quits : (divide lines).ending = .quit) : divide (lines ++ more) = divide lines := by
  fun_induction divide lines with
  | case1 => cases quits
  | case2 line rest quit => exact divide_quit quit _
  | case3 line rest noQuit blank ih =>
    rw [List.cons_append, divide_blank noQuit blank, ih quits]
  | case4 => cases quits
  | case5 line rest noQuit notBlank closing further closed ih =>
    have closed' : (line :: (rest ++ more)).dropWhile (! closes ·) = closing :: (further ++ more) := by
      rw [← List.cons_append, List.dropWhile_append, closed]
      rfl
    rw [List.cons_append, divide_chunk noQuit (by simpa using notBlank) closed',
      ih quits, ← List.cons_append, List.takeWhile_append, if_neg]
    -- The closing line is not among those taken.
    intro all
    have parts := congrArg List.length
      (List.takeWhile_append_dropWhile (p := (! closes ·)) (l := line :: rest))
    rw [closed, List.length_append, List.length_cons] at parts
    omega

/-- The text of a chunk, each line with its line feed again. -/
def chunkText (lines : List (List Char)) : String :=
  String.ofList (lines.flatMap (· ++ ['\n']))

theorem chunkText_append (front back : List (List Char)) :
    chunkText (front ++ back) = chunkText front ++ chunkText back := by
  simp [chunkText, String.ofList_append]

theorem toList_chunkText (lines : List (List Char)) :
    (chunkText lines).toList = lines.flatMap (· ++ ['\n']) :=
  String.toList_ofList

theorem chunkText_singleton (line : List Char) : chunkText [line] = String.ofList line ++ "\n" := by
  simp [chunkText, String.ofList_append]

/-- The part of the input that a segment is. -/
def Segment.text : Segment → List Char
  | .blank line => line ++ ['\n']
  | .chunk lines => lines.flatMap (· ++ ['\n'])

/-- An input that is read to its end is made of its segments. -/
theorem divide_text (lines : List (List Char)) (atEnd : (divide lines).ending = .atEnd) :
    (divide lines).segments.flatMap Segment.text = lines.flatMap (· ++ ['\n']) := by
  fun_induction divide lines with
  | case1 => rfl
  | case2 => cases atEnd
  | case3 line rest noQuit blank ih =>
    have more := ih atEnd
    simp [Division.behind, Segment.text, more]
  | case4 => cases atEnd
  | case5 line rest noQuit notBlank closing further closed ih =>
    have parts := List.takeWhile_append_dropWhile (p := (! closes ·)) (l := line :: rest)
    rw [closed] at parts
    have more := ih atEnd
    -- The lines of the chunk, and then those that are divided further.
    conv => rhs; rw [← parts]
    simp [Division.behind, Segment.text, more]

/-- A line of input that is a text. -/
def InputLine.ofChars (line : List Char) : InputLine :=
  .text (String.ofList line)

namespace Shell

variable (settings : Settings)

/-! ## What a division describes -/

/-- Ask for lines while a chunk is open. -/
def askOn (lines : List (List Char)) : Shell Unit :=
  lines.forM fun _ => say "... "

def playSegment : Segment → Shell Unit
  | .blank _ => say settings.prompt
  | .chunk lines => do
    say settings.prompt
    askOn lines.tail
    submit settings (chunkText lines)

def playEnding : Ending → Shell Unit
  | .atEnd => do
    say settings.prompt
    say "\n"
  | .quit => say settings.prompt
  | .unfinished lines => do
    say settings.prompt
    askOn lines.tail
    say "... "
    say "\n"

def play (division : Division) : Shell Unit := do
  division.segments.forM (playSegment settings)
  playEnding settings division.ending

theorem play_nil (ending : Ending) : play settings ⟨[], ending⟩ = playEnding settings ending := by
  simp [play]

theorem play_behind (segment : Segment) (division : Division) :
    play settings (division.behind segment) =
      playSegment settings segment >>= fun _ => play settings division := by
  simp [play, Division.behind]

/-! ## The pending text -/

/-- The text of an open chunk, as the conversation keeps it: it shows that a chunk is open, and that
its last line does not close it. -/
structure Pending (opened : List (List Char)) : Prop where
  notBlank : Text.isBlankText (chunkText opened).toList = false
  incomplete : isComplete (chunkText opened) = false

theorem isComplete_append {pending : String} (incomplete : isComplete pending = false)
    (line : List Char) :
    isComplete (pending ++ chunkText [line]) = closes line := by
  have feed : Text.isBlankText ['\n'] = true := by decide
  have trimmed : Text.trimEnd (pending ++ chunkText [line]).toList =
      Text.trimEnd (pending.toList ++ line) := by
    rw [String.toList_append, toList_chunkText, List.flatMap_singleton, ← List.append_assoc,
      Text.trimEnd_append, if_pos feed]
  rw [isComplete, trimmed, closes, Text.trimEnd_append]
  by_cases blank : Text.isBlankText line = true
  · rw [if_pos blank, Text.trimEnd_eq_nil_iff.2 blank]
    exact incomplete
  · have ends : (Text.trimEnd line).getLast?.isSome := by
      simpa [List.getLast?_isSome] using mt Text.trimEnd_eq_nil_iff.1 blank
    rw [if_neg blank, List.getLast?_append, Option.or_of_isSome ends]

theorem Pending.append {opened : List (List Char)} (pending : Pending opened) {line : List Char}
    (goesOn : closes line = false) : Pending (opened ++ [line]) where
  notBlank := by
    rw [chunkText_append, String.toList_append, Text.isBlankText_append, pending.notBlank,
      Bool.false_and]
  incomplete := by rw [chunkText_append, isComplete_append pending.incomplete, goesOn]

theorem Pending.isEmpty {opened : List (List Char)} (pending : Pending opened) :
    (chunkText opened).isEmpty = false := by
  by_contra empty
  have nothing : chunkText opened = "" := by simpa using empty
  simpa [nothing, Text.isBlankText] using pending.notBlank

/-- A first line that neither is blank nor closes its chunk leaves the chunk open. -/
theorem pending_singleton {line : List Char} (notBlank : Text.isBlankText line = false)
    (goesOn : closes line = false) : Pending [line] where
  notBlank := by
    rw [toList_chunkText, List.flatMap_singleton, Text.isBlankText_append, notBlank, Bool.false_and]
  incomplete := by
    have empty : isComplete "" = false := by decide
    simpa [goesOn] using isComplete_append empty line

/-! ## One line -/

section

variable {settings}

theorem takeLine_quit {line : List Char} (quit : EndsInput line) :
    takeLine settings "" (String.ofList line) = pure .quit := by
  simp [takeLine, endsInput_iff.1 quit]

theorem takeLine_blank {line : List Char} (noQuit : ¬ EndsInput line)
    (blank : Text.isBlankText line = true) :
    takeLine settings "" (String.ofList line) = pure (.proceed "") := by
  have feed : Text.isBlankText ['\n'] = true := by decide
  rw [endsInput_iff] at noQuit
  simp [takeLine, noQuit, Text.isBlankText_append, blank, feed]

/-- A line that belongs to a chunk completes its text or is kept pending. -/
theorem takeLine_chunk {pending : String} {line : List Char}
    (first : pending.isEmpty = true → ¬ EndsInput line)
    (notBlank : Text.isBlankText (pending.toList ++ line) = false)
    (incomplete : isComplete pending = false) :
    takeLine settings pending (String.ofList line) =
      if closes line then
        submit settings (pending ++ chunkText [line]) >>= fun _ => pure (.proceed "")
      else pure (.proceed (pending ++ chunkText [line])) := by
  have text : pending ++ String.ofList line ++ "\n" = pending ++ chunkText [line] := by
    rw [chunkText_singleton, String.append_assoc]
  have noQuit : (pending.isEmpty && isQuit (String.ofList line)) = false := by
    cases empty : pending.isEmpty
    · rfl
    · simpa [endsInput_iff] using first empty
  have kept : Text.isBlankText (pending ++ chunkText [line]).toList = false := by
    rw [← text, String.toList_append, String.toList_append, String.toList_ofList,
      Text.isBlankText_append, notBlank, Bool.false_and]
  unfold takeLine
  simp only [text, noQuit, kept, isComplete_append incomplete line]
  simp

end

/-! ## Whole inputs -/

theorem converse_cons (pending : String) (line : List Char) (rest : List InputLine) :
    converse settings pending (.ofChars line :: rest) =
      say (promptText settings pending) >>= fun _ =>
        takeLine settings pending (String.ofList line) >>= fun turn =>
          match turn with
          | .quit => pure ()
          | .proceed pending => converse settings pending rest :=
  rfl

theorem converse_pending {opened : List (List Char)} (pending : Pending opened)
    (lines : List (List Char)) :
    converse settings (chunkText opened) (lines.map .ofChars) =
      match lines.dropWhile (! closes ·) with
      | [] => askOn lines >>= fun _ => say "... " >>= fun _ => say "\n"
      | closing :: further =>
        askOn (lines.takeWhile (! closes ·) ++ [closing]) >>= fun _ =>
          submit settings (chunkText (opened ++ lines.takeWhile (! closes ·) ++ [closing])) >>=
            fun _ => converse settings "" (further.map .ofChars) := by
  induction lines generalizing opened with
  | nil => simp [converse, askOn, promptText, pending.isEmpty]
  | cons line lines ih =>
    have prompts : promptText settings (chunkText opened) = "... " := by
      simp [promptText, pending.isEmpty]
    have notBlank : Text.isBlankText ((chunkText opened).toList ++ line) = false := by
      rw [Text.isBlankText_append, pending.notBlank, Bool.false_and]
    have taken := @takeLine_chunk settings _ line (by simp [pending.isEmpty]) notBlank
      pending.incomplete
    rw [List.map_cons, converse_cons, prompts, taken, ← chunkText_append]
    by_cases closing : closes line = true
    · simp [closing, askOn]
    · have goesOn : closes line = false := by simpa using closing
      have further := ih (pending.append goesOn)
      simp only [goesOn, Bool.false_eq_true, if_false, pure_bind, further, Bool.not_false,
        List.dropWhile_cons_of_pos, List.takeWhile_cons_of_pos]
      cases lines.dropWhile (! closes ·) <;> simp [askOn]

/-- The first line of a chunk. -/
theorem converse_first {line : List Char} (noQuit : ¬ EndsInput line)
    (notBlank : Text.isBlankText line = false) (rest : List InputLine) :
    converse settings "" (.ofChars line :: rest) =
      say settings.prompt >>= fun _ =>
        if closes line then
          submit settings (chunkText [line]) >>= fun _ => converse settings "" rest
        else converse settings (chunkText [line]) rest := by
  have incomplete : isComplete "" = false := by decide
  have taken := @takeLine_chunk settings "" line (fun _ => noQuit) notBlank incomplete
  rw [converse_cons, taken, String.empty_append]
  cases closes line <;> simp [promptText]

theorem converse_eq_play (lines : List (List Char)) :
    converse settings "" (lines.map .ofChars) = play settings (divide lines) := by
  fun_induction divide lines with
  | case1 => simp [converse, play, playEnding, promptText]
  | case2 line rest quit =>
    rw [List.map_cons, converse_cons, takeLine_quit quit]
    simp [play, playEnding, promptText]
  | case3 line rest noQuit blank ih =>
    rw [List.map_cons, converse_cons, takeLine_blank noQuit blank]
    simp [play_behind, playSegment, promptText, ih]
  | case4 line rest noQuit notBlank unclosed =>
    simp only [Bool.not_eq_true] at notBlank
    -- No line closes the chunk, so the first one leaves it open.
    cases closing : closes line with
    | true => simp [closing] at unclosed
    | false =>
      have remaining : rest.dropWhile (! closes ·) = [] := by simpa [closing] using unclosed
      rw [List.map_cons, converse_first settings noQuit notBlank, closing,
        converse_pending settings (pending_singleton notBlank closing), remaining]
      simp [play, playEnding]
  | case5 line rest noQuit notBlank last further closed ih =>
    simp only [Bool.not_eq_true] at notBlank
    rw [List.map_cons, converse_first settings noQuit notBlank, play_behind, ← ih]
    cases closing : closes line with
    | true =>
      obtain ⟨rfl, rfl⟩ : line = last ∧ rest = further := by simpa [closing] using closed
      simp [playSegment, askOn, closing]
    | false =>
      have remaining : rest.dropWhile (! closes ·) = last :: further := by
        simpa [closing] using closed
      rw [converse_pending settings (pending_singleton notBlank closing), remaining]
      simp [playSegment, closing]

end Shell

end SqlShell
