import SqlShell.Session.Interactive
import SqlShell.Text.Bytes
import SqlShell.Text.Cluster

/-!
# Line editor

A line editor collects what is typed, cluster by cluster. A backspace rubs out the last cluster that
is still there, or nothing when there is none, so the line that the editor hands in holds no
backspace. A line without backspaces is handed in as it is (`editedLine_of_not_mem`).

The editor remembers the size of each cluster in one byte. Of a cluster of 256 bytes or more it
therefore rubs out only as many bytes as its size is beyond a multiple of 256.
-/

namespace SqlShell

/-- A line while it is typed. -/
structure EditedLine where
  /-- What has been typed and not rubbed out, the last character first. -/
  typed : List Char := []
  /-- The sizes of its clusters in bytes, the last cluster first. -/
  sizes : List UInt8 := []

namespace EditedLine

/-- Rub out the last cluster, if there is one. -/
def rubOut (line : EditedLine) : EditedLine :=
  match line.sizes with
  | [] => line
  | size :: sizes => { typed := Text.dropBytes size.toNat line.typed, sizes }

/-- Type a cluster. -/
def enter (line : EditedLine) (cluster : List Char) : EditedLine :=
  if cluster = ['\x08'] then line.rubOut
  else
    { typed := cluster.reverse ++ line.typed
      sizes := (Text.byteSize cluster).toUInt8 :: line.sizes }

end EditedLine

/-- The line that comes of typing a text. -/
def editedLine (text : List Char) : List Char :=
  ((Text.clusters text).foldl EditedLine.enter {}).typed.reverse

/-- The lines of a text that goes through the editor. -/
def InputLine.ofTyped (input : String) : List InputLine :=
  (Text.textLines input.toList).map fun line => .text (String.ofList (editedLine line))

/-- Typing clusters without a backspace adds them. -/
theorem EditedLine.typed_foldl_enter (clusters : List (List Char)) (line : EditedLine)
    (h : ['\x08'] ∉ clusters) :
    (clusters.foldl enter line).typed = clusters.flatten.reverse ++ line.typed := by
  induction clusters generalizing line with
  | nil => rfl
  | cons cluster clusters ih =>
    obtain ⟨head, tail⟩ := not_or.1 (mt List.mem_cons.2 h)
    simp [enter, ih _ tail, Ne.symm head]

/-- A line without backspaces is handed in as it is. -/
theorem editedLine_of_not_mem (text : List Char) (h : '\x08' ∉ text) : editedLine text = text := by
  have clean : ['\x08'] ∉ Text.clusters text := fun mem => h <| by
    rw [← Text.flatten_clusters text]
    exact List.mem_flatten.2 ⟨_, mem, List.mem_singleton.2 rfl⟩
  simp [editedLine, EditedLine.typed_foldl_enter _ _ clean, Text.flatten_clusters]

end SqlShell
