import SqlShell.Proofs.Session.Division
import SqlShell.Proofs.Session.Scripts
import SqlShell.Text.Bytes

/-!
# The piped conversation

A piped conversation runs the chunks of its input one after the other, each on the store that the
one before has left, and goes on whatever comes of them. What it says is its `transcript`: a prompt
for each line it reads and for the end of the input, and a reply to each chunk.
-/

namespace SqlShell

/-! ## Transcripts -/

/-- What a conversation says at a time. -/
inductive Passage where
  | prompt (text : String)
  | reply (text : String)
  /-- The line feed behind the last prompt. -/
  | close

namespace Passage

@[simp] def text : Passage → String
  | prompt text | reply text => text
  | close => "\n"

def isReply : Passage → Bool
  | reply _ => true
  | prompt _ | close => false

@[simp] theorem isReply_reply (text : String) : (reply text).isReply = true := rfl

@[simp] theorem isReply_prompt (text : String) : (prompt text).isReply = false := rfl

@[simp] theorem isReply_close : close.isReply = false := rfl

/-- All that is said. -/
def texts (passages : List Passage) : String :=
  String.join (passages.map text)

@[simp] theorem texts_nil : texts [] = "" :=
  rfl

@[simp] theorem texts_cons (passage : Passage) (passages : List Passage) :
    texts (passage :: passages) = passage.text ++ texts passages := by
  simp [texts, String.join_cons]

@[simp] theorem texts_append (front back : List Passage) :
    texts (front ++ back) = texts front ++ texts back := by
  simp [texts, String.join_append]

end Passage

/-- The texts that are run as scripts. -/
def Division.chunks (division : Division) : List String :=
  division.segments.filterMap fun
    | .blank _ => none
    | .chunk lines => some (chunkText lines)

namespace Shell

variable (settings : Settings)

/-- The prompts while a chunk is open. -/
def furtherPrompts (lines : List (List Char)) : List Passage :=
  lines.map fun _ => .prompt "... "

/-- The reply to a script: what running it says, and what went wrong. -/
def reply (effect : Effect Unit) : Passage :=
  .reply (effect.text ++ complaint settings effect.result)

def endingPassages : Ending → List Passage
  | .atEnd => [.prompt settings.prompt, .close]
  | .quit => [.prompt settings.prompt]
  | .unfinished lines =>
    .prompt settings.prompt :: furtherPrompts lines.tail ++ [.prompt "... ", .close]

/-- All that is said about some segments and what comes behind them. -/
def transcript (ending : Ending) : List Segment → Store → List Passage
  | [], _ => endingPassages settings ending
  | .blank _ :: segments, store => .prompt settings.prompt :: transcript ending segments store
  | .chunk lines :: segments, store =>
    let effect := (runScript settings (chunkText lines)).effect store
    .prompt settings.prompt :: furtherPrompts lines.tail ++
      reply settings effect :: transcript ending segments effect.store

/-- The store that running a script leaves, whether it fails or not. -/
def storeAfter (store : Store) (script : String) : Store :=
  ((runScript settings script).effect store).store

theorem does_askOn (lines : List (List Char)) (store : Store) :
    (askOn lines).Does store ⟨.ok (), store, Passage.texts (furtherPrompts lines)⟩ := by
  unfold askOn
  induction lines with
  | nil => exact does_pure () store
  | cons line lines ih =>
    have played := (does_say "... " store).seq ih
    exact played.of_text_eq (by simp [furtherPrompts])

theorem does_playEnding (ending : Ending) (store : Store) :
    (playEnding settings ending).Does store
      ⟨.ok (), store, Passage.texts (endingPassages settings ending)⟩ := by
  have asks := does_say settings.prompt store
  cases ending with
  | atEnd => exact asks.seq (does_say "\n" store)
  | quit => exact asks
  | unfinished lines =>
    have closes := (does_say "... " store).seq (does_say "\n" store)
    have played := asks.seq ((does_askOn lines.tail store).seq closes)
    exact played.of_text_eq (by simp [endingPassages])

theorem does_playChunk (lines : List (List Char)) (store : Store) :
    let effect := (runScript settings (chunkText lines)).effect store
    (playSegment settings (.chunk lines)).Does store
      ⟨.ok (), effect.store, Passage.texts
        (.prompt settings.prompt :: furtherPrompts lines.tail ++ [reply settings effect])⟩ := by
  have played := (does_say settings.prompt store).seq
    ((does_askOn lines.tail store).seq (does_submit settings store (chunkText lines)))
  exact played.of_text_eq (by simp [reply])

theorem does_play (ending : Ending) (segments : List Segment) (store : Store) :
    (play settings ⟨segments, ending⟩).Does store
      { result := .ok ()
        store := (Division.chunks ⟨segments, ending⟩).foldl (storeAfter settings) store
        text := Passage.texts (transcript settings ending segments store) } := by
  induction segments generalizing store with
  | nil =>
    rw [play_nil]
    exact does_playEnding settings ending store
  | cons segment segments ih =>
    rw [show (⟨segment :: segments, ending⟩ : Division) = Division.behind segment ⟨segments, ending⟩
      from rfl, play_behind]
    cases segment with
    | blank line =>
      have played := (does_say settings.prompt store).seq (ih store)
      exact played.of_text_eq (by simp [transcript])
    | chunk lines =>
      have played := (does_playChunk settings lines store).seq (ih _)
      exact played.of_text_eq (by simp [transcript, String.append_assoc])

end Shell

/-! ## Whole inputs -/

theorem InputLine.ofBytes_toUTF8 (input : String) :
    InputLine.ofBytes input.toUTF8 = (Text.textLines input.toList).map .ofChars := by
  rw [InputLine.ofBytes, Text.fromUTF8?_toUTF8]
  rfl

theorem does_runPiped (settings : Settings) (store : Store) (lines : List (List Char)) :
    (Shell.runPiped settings (lines.map .ofChars)).Does store
      { result := .ok ()
        store := (divide lines).chunks.foldl (Shell.storeAfter settings) store
        text := Shell.welcomeText ++ Passage.texts
          (Shell.transcript settings (divide lines).ending (divide lines).segments store) } := by
  have converses := Shell.does_play settings (divide lines).ending (divide lines).segments store
  rw [← Shell.converse_eq_play] at converses
  exact (Shell.does_say Shell.welcomeText store).seq converses

theorem effect_runPiped (settings : Settings) (store : Store) (input : String) :
    let division := divide (Text.textLines input.toList)
    (Shell.runPiped settings (InputLine.ofBytes input.toUTF8)).effect store =
      { result := .ok ()
        store := division.chunks.foldl (Shell.storeAfter settings) store
        text := Shell.welcomeText ++ Passage.texts
          (Shell.transcript settings division.ending division.segments store) } := by
  rw [InputLine.ofBytes_toUTF8]
  exact (does_runPiped settings store _).effect_eq

/-- A piped conversation in plain text over any input and on any store: it never fails, its scripts
are the chunks that the lines of the input alone make up, and all it says is its transcript. What
follows a quit word changes nothing. -/
theorem piped_run_folds_scripts_over_chunks (prompt : String) (echo : Bool) (store : Store)
    (input : String) :
    let settings : Settings := { prompt, echo, color := false }
    let lines := Text.textLines input.toList
    let division := divide lines
    let effect := (Shell.runPiped settings (InputLine.ofBytes input.toUTF8)).effect store
    Text.CutInto input.toList lines ∧
      effect.result = .ok () ∧
      effect.store = division.chunks.foldl (Shell.storeAfter settings) store ∧
      effect.text = Shell.welcomeText ++ Passage.texts
        (Shell.transcript settings division.ending division.segments store) ∧
      (division.ending = .quit → ∀ more,
        (Shell.runPiped settings ((lines ++ more).map .ofChars)).effect store = effect) := by
  intro settings lines division effect
  have runs := effect_runPiped settings store input
  refine ⟨Text.cutInto_textLines _, congrArg Effect.result runs, congrArg Effect.store runs,
    congrArg Effect.text runs, ?_⟩
  intro quits more
  rw [(does_runPiped settings store (lines ++ more)).effect_eq,
    divide_append_of_quit lines more quits]
  exact runs.symm

end SqlShell
