import SqlShell.Proofs.Session.Accounts

/-!
# A full output

An output that takes only so many bytes cuts off what a call says, and nothing else. Where all of it
has room, the call is what it would be on an output without a limit. Otherwise it fails at the first
text that has no room, the bytes in front of the limit have been taken, and what has been executed
until then stays done: the statements that the call would execute when it has said no more bytes
than there is room for.
-/

namespace SqlShell

/-! ## Executions and the bytes in front of them -/

/-- The statements that deeds execute, each with the number of bytes that have been said by then, if
there were `said` at the start. -/
def executionsIn : Nat → List Deed → List (Nat × Statement)
  | _, [] => []
  | said, .say text :: deeds => executionsIn (said + text.utf8ByteSize) deeds
  | said, .execute statement :: deeds => (said, statement) :: executionsIn said deeds

/-- The statements that are executed when at most `capacity` bytes have been said. -/
def executedWithin (capacity said : Nat) (deeds : List Deed) : List Statement :=
  ((executionsIn said deeds).filter (·.1 ≤ capacity)).map (·.2)

theorem le_of_mem_executionsIn {said : Nat} {deeds : List Deed} {execution : Nat × Statement}
    (h : execution ∈ executionsIn said deeds) : said ≤ execution.1 := by
  induction deeds generalizing said with
  | nil => cases h
  | cons deed deeds ih =>
    cases deed with
    | say text => exact Nat.le_trans (Nat.le_add_right _ _) (ih h)
    | execute statement =>
      rcases List.mem_cons.1 h with rfl | h
      · exact Nat.le_refl _
      · exact ih h

section

variable {capacity said : Nat} {deeds : List Deed}

/-- Behind the limit nothing counts, since no text is taken back. -/
theorem executedWithin_of_lt (h : capacity < said) : executedWithin capacity said deeds = [] := by
  rw [executedWithin, List.map_eq_nil_iff, List.filter_eq_nil_iff]
  intro execution inside within
  have := le_of_mem_executionsIn inside
  have := of_decide_eq_true within
  omega

theorem executedWithin_execute (h : said ≤ capacity) (statement : Statement) :
    executedWithin capacity said (.execute statement :: deeds) =
      statement :: executedWithin capacity said deeds := by
  simp [executedWithin, executionsIn, h]

theorem executedWithin_prefix (capacity said : Nat) (deeds : List Deed) :
    executedWithin capacity said deeds <+: executedIn deeds := by
  induction deeds generalizing said with
  | nil => exact List.prefix_refl _
  | cons deed deeds ih =>
    cases deed with
    | say text => exact ih (said + text.utf8ByteSize)
    | execute statement =>
      by_cases within : said ≤ capacity
      · rw [executedWithin_execute within, executedIn_execute, List.prefix_cons_inj]
        exact ih said
      · rw [executedWithin_of_lt (Nat.lt_of_not_le within)]
        exact List.nil_prefix

end

/-! ## Playing deeds with and without a limit -/

variable {α : Type} (result : Except ShellError α)

theorem playDeeds_unlimited (deeds : List Deed) (store : Store) (said : String) :
    playDeeds result deeds store ⟨none, said⟩ =
      ⟨result, store.afterAll (executedIn deeds), ⟨none, said ++ saidIn deeds⟩⟩ := by
  induction deeds generalizing store said with
  | nil => simp [playDeeds]
  | cons deed deeds ih =>
    cases deed with
    | say text =>
      have fits : Sink.Fits ⟨none, said ++ text⟩ := by simp [Sink.Fits]
      rw [playDeeds, Sink.offer, if_pos fits, ih, saidIn_say, executedIn_say, String.append_assoc]
    | execute statement => rw [playDeeds, ih, saidIn_execute, executedIn_execute, Store.afterAll_cons]

theorem fits_limited (capacity : Nat) (said : String) :
    Sink.Fits ⟨some capacity, said⟩ ↔ said.utf8ByteSize ≤ capacity := by
  simp [Sink.Fits]

theorem playDeeds_of_room {capacity : Nat} {deeds : List Deed} {store : Store} {said : String}
    (room : (said ++ saidIn deeds).utf8ByteSize ≤ capacity) :
    playDeeds result deeds store ⟨some capacity, said⟩ =
      ⟨result, store.afterAll (executedIn deeds), ⟨some capacity, said ++ saidIn deeds⟩⟩ := by
  induction deeds generalizing store said with
  | nil => simp [playDeeds]
  | cons deed deeds ih =>
    cases deed with
    | say text =>
      rw [saidIn_say, ← String.append_assoc] at room
      have fits : Sink.Fits ⟨some capacity, said ++ text⟩ := by
        rw [fits_limited]
        rw [String.utf8ByteSize_append] at room
        omega
      rw [playDeeds, Sink.offer, if_pos fits, ih room, saidIn_say, executedIn_say,
        String.append_assoc]
    | execute statement =>
      rw [saidIn_execute] at room
      rw [playDeeds, ih room, saidIn_execute, executedIn_execute, Store.afterAll_cons]

theorem playDeeds_of_overflow {capacity : Nat} {deeds : List Deed} {store : Store} {said : String}
    (start : said.utf8ByteSize ≤ capacity)
    (overflow : capacity < (said ++ saidIn deeds).utf8ByteSize) :
    ∃ offered more, said ++ saidIn deeds = offered ++ more ∧ capacity < offered.utf8ByteSize ∧
      playDeeds result deeds store ⟨some capacity, said⟩ =
        ⟨.error (.channel .outputFull),
          store.afterAll (executedWithin capacity said.utf8ByteSize deeds),
          ⟨some capacity, offered⟩⟩ := by
  induction deeds generalizing store said with
  | nil =>
    rw [saidIn_nil, String.append_empty] at overflow
    omega
  | cons deed deeds ih =>
    cases deed with
    | say text =>
      rw [saidIn_say, ← String.append_assoc] at overflow ⊢
      by_cases room : (said ++ text).utf8ByteSize ≤ capacity
      · obtain ⟨offered, more, split, beyond, played⟩ := ih room overflow
        refine ⟨offered, more, split, beyond, ?_⟩
        rw [playDeeds, Sink.offer, if_pos ((fits_limited _ _).2 room), played,
          String.utf8ByteSize_append]
        rfl
      · -- The limit falls into this text, so no later statement is executed within it.
        have size : said.utf8ByteSize + text.utf8ByteSize = (said ++ text).utf8ByteSize :=
          String.utf8ByteSize_append.symm
        refine ⟨said ++ text, saidIn deeds, rfl, Nat.lt_of_not_le room, ?_⟩
        have nothing : executedWithin capacity said.utf8ByteSize (.say text :: deeds) = [] := by
          show executedWithin capacity (said.utf8ByteSize + text.utf8ByteSize) deeds = []
          exact executedWithin_of_lt (by omega)
        rw [playDeeds, Sink.offer, if_neg (mt (fits_limited _ _).1 room), nothing,
          Store.afterAll_nil]
    | execute statement =>
      rw [saidIn_execute] at overflow ⊢
      obtain ⟨offered, more, split, beyond, played⟩ := ih start overflow
      refine ⟨offered, more, split, beyond, ?_⟩
      rw [playDeeds, played, executedWithin_execute start, Store.afterAll_cons]

/-! ## Calls -/

/-- What a session is called to do: to run a script, or to converse about an input. -/
inductive Call where
  | script (text : String)
  | input (bytes : ByteArray)

namespace Call

def action (settings : Settings) : Call → Shell Unit
  | script text => Shell.runScript settings text
  | input bytes => Shell.runPiped settings (InputLine.ofBytes bytes)

/-- What the call does, deed by deed, when there is room for all it says. -/
def account (settings : Settings) (store : Store) : Call → Account Unit
  | script text => Shell.scriptAccount settings store text
  | input bytes => Shell.pipedAccount settings store (InputLine.ofBytes bytes)

theorem follows (settings : Settings) (store : Store) (call : Call) :
    (call.action settings).Follows store (call.account settings store) := by
  cases call with
  | script text => exact Shell.follows_runScript settings store text
  | input bytes => exact Shell.follows_runPiped settings store _

/-- How the call ends on an output that takes `capacity` bytes, or any number. -/
def finish (settings : Settings) (store : Store) (capacity : Option Nat) (call : Call) :
    Finish Unit :=
  .ofRun ((call.action settings).run { store, output := { capacity } })

end Call

theorem extract_toUTF8_append {offered : String} (more : String) {capacity : Nat}
    (beyond : capacity < offered.utf8ByteSize) :
    (offered ++ more).toUTF8.extract 0 capacity = offered.toUTF8.extract 0 capacity := by
  have whole : (offered ++ more).toUTF8 = offered.toUTF8 ++ more.toUTF8 :=
    String.toByteArray_append
  have nothing : capacity - offered.toUTF8.size = 0 := Nat.sub_eq_zero_of_le (Nat.le_of_lt beyond)
  rw [whole, ByteArray.extract_append, nothing, Nat.zero_sub, ByteArray.extract_same,
    ByteArray.append_empty]

theorem extract_toUTF8_of_room {text : String} {capacity : Nat}
    (room : text.utf8ByteSize ≤ capacity) : text.toUTF8.extract 0 capacity = text.toUTF8 := by
  have shown : text.toUTF8.extract 0 (max capacity text.utf8ByteSize) = text.toUTF8 :=
    ByteArray.extract_zero_max_size
  rwa [Nat.max_eq_left room] at shown

theorem Call.finish_unlimited (settings : Settings) (store : Store) (call : Call) :
    let account := call.account settings store
    call.finish settings store none =
      ⟨account.result, store.afterAll (executedIn account.deeds),
        ⟨none, saidIn account.deeds⟩⟩ := by
  intro account
  have played := playDeeds_unlimited account.result account.deeds store ""
  rw [String.empty_append] at played
  exact (call.follows settings store { capacity := none } #[]).trans played

/-- An output that takes `capacity` bytes cuts off what a call says, and nothing else. The call
follows an account of what it says and executes. When all that it says has room, it ends as on an
output without a limit. Otherwise the output is full and holds the first bytes of the whole, and the
store is the one after the statements that are executed when no more than `capacity` bytes have been
said, which are the first of all that would be executed. -/
theorem limited_output_cuts_off (settings : Settings) (store : Store) (call : Call)
    (capacity : Nat) :
    let account := call.account settings store
    let full := call.finish settings store none
    let limited := call.finish settings store (some capacity)
    (call.action settings).Follows store account ∧
    (full.result = account.result ∧ full.output.bytes = (saidIn account.deeds).toUTF8 ∧
      full.store = store.afterAll (executedIn account.deeds)) ∧
    (full.output.bytes.size ≤ capacity →
      limited.result = full.result ∧ limited.output.bytes = full.output.bytes ∧
        limited.store = full.store) ∧
    (capacity < full.output.bytes.size →
      limited.result = .error (.channel .outputFull) ∧
        limited.output.bytes = full.output.bytes.extract 0 capacity ∧
        limited.store = store.afterAll (executedWithin capacity 0 account.deeds)) ∧
    executedWithin capacity 0 account.deeds <+: executedIn account.deeds := by
  intro account full limited
  have whole : full = ⟨account.result, store.afterAll (executedIn account.deeds),
      ⟨none, saidIn account.deeds⟩⟩ := call.finish_unlimited settings store
  have played : limited = account.play store { capacity := some capacity } :=
    call.follows settings store { capacity := some capacity } #[]
  refine ⟨call.follows settings store, ?_, ?_, ?_, executedWithin_prefix capacity 0 _⟩
  · rw [whole]
    exact ⟨rfl, rfl, rfl⟩
  · intro room
    rw [whole] at room ⊢
    have fits : ("" ++ saidIn account.deeds).utf8ByteSize ≤ capacity := by
      rw [String.empty_append]
      exact room
    have ends := played.trans (playDeeds_of_room account.result fits)
    rw [String.empty_append] at ends
    rw [ends]
    exact ⟨rfl, extract_toUTF8_of_room room, rfl⟩
  · intro overflow
    rw [whole] at overflow ⊢
    have tooMuch : capacity < ("" ++ saidIn account.deeds).utf8ByteSize := by
      rw [String.empty_append]
      exact overflow
    obtain ⟨offered, more, split, beyond, ends⟩ :=
      playDeeds_of_overflow account.result (Nat.zero_le capacity) tooMuch
    rw [String.empty_append] at split
    rw [played.trans ends, Finish.output, split]
    exact ⟨rfl, (extract_toUTF8_append more beyond).symm, rfl⟩

-- With room for 26 bytes the `ok` of the first statement is cut off, but its table is there.
example :
    let deeds := (Call.account { echo := true } .empty
      (.script "CREATE TABLE t (a INT); SELECT 1;")).deeds
    (executionsIn 0 deeds).map (·.1) = [24, 37] ∧ (executedWithin 26 0 deeds).length = 1 := by
  decide +kernel

end SqlShell
