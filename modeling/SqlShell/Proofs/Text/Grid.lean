import Mathlib.Data.List.DropRight
import Mathlib.Data.List.Forall2
import Mathlib.Order.Bounds.Defs
import SqlShell.Text.Grid

/-!
# Grids are rectangular and lose nothing

A record without line feeds fills one line of the grid (`Fills`), so a grid of such records is a table:
its first line holds the header, its second is the rule, and one line follows for each row
(`gridLines_eq`). No text is wider than its column (`columnWidths_spec`), which makes all lines equally
wide (`Fills.width_eq`), and what stands between the bars of a line gives its texts back
(`Fills.readLine_eq`). Whatever its texts, a grid adds only bars, spaces and hyphens to them
(`mem_gridLines`).
-/

namespace SqlShell.Text

/-! ## Lines of a table -/

/-- How texts fill a line over columns of given widths. Each stands behind a bar and a space, and has
behind it the spaces that fill its column and one more; the line ends in a bar. -/
inductive Fills : List Nat → List String → List Char → Prop where
  | stop : Fills [] [] ['|']
  | text {widths : List Nat} {texts : List String} {line : List Char} (size : Nat) (text : String)
      (fits : width text.toList ≤ size) (more : Fills widths texts line) :
      Fills (size :: widths) (text :: texts)
        ('|' :: ' ' :: (text.toList ++ (List.replicate (size - width text.toList) ' ' ++ ' ' :: line)))

/-- The rule over columns of given widths: hyphens where the texts and the spaces around them are. -/
def ruleOver : List Nat → List Char
  | [] => ['|']
  | size :: widths => '|' :: (List.replicate (size + 2) '-' ++ ruleOver widths)

/-- The columns that a line over columns of given widths takes in all. -/
def lineWidth : List Nat → Nat
  | [] => 1
  | size :: widths => size + 3 + lineWidth widths

/-- A text that can be told from the bars and spaces around it. -/
structure Bare (text : List Char) : Prop where
  barless : '|' ∉ text
  start : text.head? ≠ some ' '
  stop : text.getLast? ≠ some ' '

/-- The text without the spaces at its start and end. -/
def trimSpaces (text : List Char) : List Char :=
  (text.dropWhile (· = ' ')).rdropWhile (· = ' ')

/-- What stands between the bars of a line, without the spaces around it. -/
def readLine (line : List Char) : List String :=
  (pieces '|' line).tail.dropLast.map fun piece => String.ofList (trimSpaces piece)

theorem Fills.eq_cons {widths : List Nat} {texts : List String} {line : List Char}
    (fills : Fills widths texts line) : ∃ rest, line = '|' :: rest := by
  cases fills <;> exact ⟨_, rfl⟩

theorem Fills.getLast?_eq {widths : List Nat} {texts : List String} {line : List Char}
    (fills : Fills widths texts line) : line.getLast? = some '|' := by
  induction fills with
  | stop => rfl
  | text size text _ _ ih => simp [List.getLast?_cons, List.getLast?_append, ih]

theorem Fills.no_feed {widths : List Nat} {texts : List String} {line : List Char}
    (fills : Fills widths texts line) (free : ∀ text ∈ texts, '\n' ∉ text.toList) : '\n' ∉ line := by
  induction fills with
  | stop => decide
  | text size text _ _ ih =>
    have ⟨here, behind⟩ := List.forall_mem_cons.1 free
    simp [here, ih behind]

theorem ruleOver_eq_cons (widths : List Nat) : ∃ rest, ruleOver widths = '|' :: rest := by
  cases widths <;> exact ⟨_, rfl⟩

theorem getLast?_ruleOver (widths : List Nat) : (ruleOver widths).getLast? = some '|' := by
  induction widths with
  | nil => rfl
  | cons size widths ih => simp [ruleOver, List.getLast?_cons, List.getLast?_append, ih]

theorem ruleOver_no_feed (widths : List Nat) : '\n' ∉ ruleOver widths := by
  induction widths with
  | nil => decide
  | cons size widths ih => simp [ruleOver, ih]

/-! ## Widths of lines -/

/-- A character that counts as one column and lets the count behind it start afresh. -/
def Plain (c : Char) : Prop :=
  c.toNat ≤ 0xA0 ∧ stylable.has c = false

theorem Plain.fresh {c : Char} (plain : Plain c) (rest : List Char) :
    (measure (c :: rest)).2 = {} := by
  rw [measure_cons_plain c rest plain.1 plain.2]

theorem Plain.width_cons {c : Char} (plain : Plain c) (rest : List Char) :
    width (c :: rest) = 1 + width rest := by
  have := measure_nonneg rest
  rw [width, width, measure_cons_plain c rest plain.1 plain.2]
  omega

theorem Plain.fresh_replicate {c d : Char} (plain : Plain c) (plain' : Plain d) (count : Nat)
    (rest : List Char) : (measure (List.replicate count c ++ d :: rest)).2 = {} := by
  cases count with
  | zero => exact plain'.fresh rest
  | succ count => exact plain.fresh _

theorem Plain.width_replicate {c : Char} (plain : Plain c) (count : Nat) (rest : List Char) :
    width (List.replicate count c ++ rest) = count + width rest := by
  induction count with
  | zero => simp
  | succ count ih =>
    rw [List.replicate_succ, List.cons_append, plain.width_cons, ih]
    omega

theorem plain_bar : Plain '|' := ⟨by decide, by decide +kernel⟩

theorem plain_space : Plain ' ' := ⟨by decide, by decide +kernel⟩

theorem plain_hyphen : Plain '-' := ⟨by decide, by decide +kernel⟩

/-- Whatever its texts, a line is as wide as its columns make it. -/
theorem Fills.width_eq {widths : List Nat} {texts : List String} {line : List Char}
    (fills : Fills widths texts line) : width line = lineWidth widths := by
  induction fills with
  | stop => decide +kernel
  | text size text fits _ ih =>
    rw [plain_bar.width_cons, plain_space.width_cons,
      width_append _ _ (plain_space.fresh_replicate plain_space _ _), plain_space.width_replicate,
      plain_space.width_cons, ih]
    rw [lineWidth]
    omega

theorem width_ruleOver (widths : List Nat) : width (ruleOver widths) = lineWidth widths := by
  induction widths with
  | nil => decide +kernel
  | cons size widths ih =>
    rw [ruleOver, plain_bar.width_cons, plain_hyphen.width_replicate, ih]
    rw [lineWidth]
    omega

/-! ## Reading a line -/

theorem pieces_ne_nil (separator : Char) (text : List Char) : pieces separator text ≠ [] := by
  cases text with
  | nil => simp [pieces]
  | cons c rest =>
    rw [pieces]
    split
    · simp
    · split <;> simp

theorem pieces_separator (separator : Char) (text : List Char) :
    pieces separator (separator :: text) = [] :: pieces separator text := by
  rw [pieces, if_pos rfl]

/-- A character that does not separate goes to the first piece. -/
theorem pieces_cons {separator c : Char} (other : c ≠ separator) {text piece : List Char}
    {more : List (List Char)} (cut : pieces separator text = piece :: more) :
    pieces separator (c :: text) = (c :: piece) :: more := by
  rw [pieces, if_neg other, cut]

theorem pieces_append_separator {separator : Char} {piece : List Char} (free : separator ∉ piece)
    (text : List Char) :
    pieces separator (piece ++ separator :: text) = piece :: pieces separator text := by
  induction piece with
  | nil => exact pieces_separator separator text
  | cons c piece ih =>
    have ⟨other, free⟩ := List.ne_and_not_mem_of_not_mem_cons free
    exact pieces_cons (Ne.symm other) (ih free)

theorem pieces_of_free {separator : Char} {text : List Char} (free : separator ∉ text) :
    pieces separator text = [text] := by
  induction text with
  | nil => rfl
  | cons c text ih =>
    have ⟨other, free⟩ := List.ne_and_not_mem_of_not_mem_cons free
    exact pieces_cons (Ne.symm other) (ih free)

theorem rdropWhile_append_replicate (text : List Char) (count : Nat) :
    (text ++ List.replicate count ' ').rdropWhile (· = ' ') = text.rdropWhile (· = ' ') := by
  induction count with
  | zero => simp
  | succ count ih =>
    rw [List.replicate_succ', ← List.append_assoc, List.rdropWhile_concat_pos _ _ _ (by simp), ih]

/-- Trimming takes the spaces around a text away and no more. -/
theorem trimSpaces_padded {text : List Char} (bare : Bare text) (count : Nat) :
    trimSpaces (' ' :: (text ++ List.replicate count ' ')) = text := by
  have start : (text ++ List.replicate count ' ').dropWhile (· = ' ') =
      text ++ if text = [] then [] else List.replicate count ' ' := by
    cases text with
    | nil => simp
    | cons c text =>
      have other : c ≠ ' ' := by simpa using bare.start
      simp [other]
  have stop : text.rdropWhile (· = ' ') = text := by
    refine List.rdropWhile_eq_self_iff.2 fun nonempty last => bare.stop ?_
    rw [List.getLast?_eq_some_getLast nonempty, of_decide_eq_true last]
  rw [trimSpaces, List.dropWhile_cons_of_pos (by simp), start]
  split
  · rw [List.append_nil, stop]
  · rw [rdropWhile_append_replicate, stop]

/-- The texts that fill a line can be read off it. -/
theorem Fills.readLine_eq {widths : List Nat} {texts : List String} {line : List Char}
    (fills : Fills widths texts line) (bare : ∀ text ∈ texts, Bare text.toList) :
    readLine line = texts := by
  induction fills with
  | stop => decide
  | @text widths texts line size text fits more ih =>
    have ⟨here, behind⟩ := List.forall_mem_cons.1 bare
    obtain ⟨rest, rfl⟩ := more.eq_cons
    have read := ih behind
    rw [readLine, pieces_separator, List.tail_cons] at read
    -- The space in front of the next bar belongs to the spaces behind the text.
    have padded : ' ' :: (text.toList ++
        (List.replicate (size - width text.toList) ' ' ++ ' ' :: '|' :: rest)) =
          ' ' :: (text.toList ++ List.replicate (size - width text.toList + 1) ' ') ++ '|' :: rest := by
      simp [List.replicate_succ', List.append_assoc]
    have free : '|' ∉ ' ' :: (text.toList ++
        List.replicate (size - width text.toList + 1) ' ') := by
      simp [here.barless]
    rw [readLine, pieces_separator, List.tail_cons, padded, pieces_append_separator free,
      List.dropLast_cons_of_ne_nil (pieces_ne_nil _ _), List.map_cons, read,
      trimSpaces_padded here, String.ofList_toList]

/-! ## Widths of columns -/

/-- The widths of the texts in one column of records. -/
def widthsIn (records : List (List String)) (column : Nat) : Set Nat :=
  {size | ∃ record ∈ records, ∃ text, record[column]? = some text ∧ width text.toList = size}

theorem foldl_max_eq {α : Type} {size : α → Nat} {list : List α} {bound : Nat} (nonempty : list ≠ [])
    (all : ∀ a ∈ list, size a = bound) :
    list.foldl (fun most a => max most (size a)) 0 = bound := by
  have settled {list : List α} (all : ∀ a ∈ list, size a = bound) :
      list.foldl (fun most a => max most (size a)) bound = bound := by
    induction list with
    | nil => rfl
    | cons a list ih =>
      have ⟨here, behind⟩ := List.forall_mem_cons.1 all
      rw [List.foldl_cons, here, Nat.max_self, ih behind]
  obtain ⟨a, list, rfl⟩ := List.exists_cons_of_ne_nil nonempty
  have ⟨here, behind⟩ := List.forall_mem_cons.1 all
  rw [List.foldl_cons, here, Nat.zero_max, settled behind]

theorem textWidth_of_free {text : String} (free : '\n' ∉ text.toList) :
    textWidth text = width text.toList := by
  rw [textWidth, pieces_of_free free]
  exact Nat.zero_max _

theorem length_foldl_zipWith {rows : List (List Nat)} {start : List Nat}
    (even : ∀ row ∈ rows, row.length = start.length) :
    (rows.foldl (List.zipWith max) start).length = start.length := by
  induction rows generalizing start with
  | nil => rfl
  | cons row rows ih =>
    have ⟨here, behind⟩ := List.forall_mem_cons.1 even
    have same : (List.zipWith max start row).length = start.length := by simp [here]
    rw [List.foldl_cons, ih fun row inside => (behind row inside).trans same.symm, same]

/-- What the fold leaves at a place is the greatest of the numbers there. -/
theorem getElem?_foldl_zipWith {rows : List (List Nat)} {start : List Nat} {place size : Nat}
    (found : (rows.foldl (List.zipWith max) start)[place]? = some size) :
    (∀ row ∈ start :: rows, ∃ other, row[place]? = some other ∧ other ≤ size) ∧
      ∃ row ∈ start :: rows, row[place]? = some size := by
  induction rows generalizing start with
  | nil =>
    simp only [List.mem_singleton, forall_eq, exists_eq_left]
    exact ⟨⟨size, found, le_rfl⟩, found⟩
  | cons row rows ih =>
    obtain ⟨upper, attained⟩ := ih found
    rw [List.forall_mem_cons] at upper
    obtain ⟨⟨greater, merged, below⟩, upper⟩ := upper
    obtain ⟨a, b, at_start, at_row, rfl⟩ := List.getElem?_zipWith_eq_some.1 merged
    refine ⟨?_, ?_⟩
    · simp only [List.forall_mem_cons]
      exact ⟨⟨a, at_start, (le_max_left a b).trans below⟩,
        ⟨b, at_row, (le_max_right a b).trans below⟩, upper⟩
    · obtain ⟨other, inside, found⟩ := attained
      rcases List.mem_cons.1 inside with rfl | inside
      · -- The greater of the first two rows is one of them.
        rw [merged, Option.some.injEq] at found
        rcases le_total a b with less | less
        · exact ⟨row, by simp, by rw [at_row, ← found, max_eq_right less]⟩
        · exact ⟨start, by simp, by rw [at_start, ← found, max_eq_left less]⟩
      · exact ⟨other, by simp [inside], found⟩

/-- A column is as wide as the widest of its texts. -/
theorem columnWidths_spec {columns : Nat} {records : List (List String)} (nonempty : records ≠ [])
    (even : ∀ record ∈ records, record.length = columns)
    (free : ∀ record ∈ records, ∀ text ∈ record, '\n' ∉ text.toList) :
    (columnWidths columns records).length = columns ∧
      ∀ column size, (columnWidths columns records)[column]? = some size →
        IsGreatest (widthsIn records column) size := by
  have shape : columnWidths columns records =
      (records.map (·.map fun text => width text.toList)).foldl (List.zipWith max)
        (List.replicate columns 0) := by
    rw [columnWidths, ← List.foldl_map]
    refine congrArg _ (List.map_congr_left fun record inside => ?_)
    exact List.map_congr_left fun text at_ => textWidth_of_free (free record inside text at_)
  rw [shape]
  refine ⟨?_, fun column size found => ?_⟩
  · rw [length_foldl_zipWith, List.length_replicate]
    simpa using even
  obtain ⟨upper, row, inside, attained⟩ := getElem?_foldl_zipWith found
  have within {record : List String} (inside : record ∈ records) :
      ∃ text, record[column]? = some text ∧ width text.toList ≤ size := by
    obtain ⟨other, found, below⟩ := upper _ (List.mem_cons_of_mem _ (List.mem_map_of_mem inside))
    rw [List.getElem?_map, Option.map_eq_some_iff] at found
    obtain ⟨text, at_, rfl⟩ := found
    exact ⟨text, at_, below⟩
  refine ⟨?_, ?_⟩
  · rcases List.mem_cons.1 inside with rfl | inside
    · -- The fold starts from zeros, so a width left from its start is that of any record.
      obtain rfl : 0 = size := List.eq_of_mem_replicate (List.mem_of_getElem? attained) |>.symm
      obtain ⟨record, records, rfl⟩ := List.exists_cons_of_ne_nil nonempty
      obtain ⟨text, at_, below⟩ := within List.mem_cons_self
      exact ⟨record, List.mem_cons_self, text, at_, Nat.le_zero.1 below⟩
    · obtain ⟨record, inside', rfl⟩ := List.mem_map.1 inside
      rw [List.getElem?_map, Option.map_eq_some_iff] at attained
      obtain ⟨text, at_, wide⟩ := attained
      exact ⟨record, inside', text, at_, wide⟩
  · rintro _ ⟨record, inside, text, at_, rfl⟩
    obtain ⟨other, at_other, below⟩ := within inside
    obtain rfl : text = other := Option.some.inj (at_.symm.trans at_other)
    exact below

/-! ## Tables -/

/-- The lines of a table, the rule under the first apart: columns as wide as the widest of their texts,
and one line filled by the header and by each row. -/
structure IsTable (widths : List Nat) (header : List String) (rows : List (List String))
    (first : List Char) (body : List (List Char)) : Prop where
  columns : widths.length = header.length
  widest : ∀ column size, widths[column]? = some size →
    IsGreatest (widthsIn (header :: rows) column) size
  filled : List.Forall₂ (Fills widths) (header :: rows) (first :: body)

section

variable {widths : List Nat} {records : List (List String)} {lines : List (List Char)}

theorem exists_fills (filled : List.Forall₂ (Fills widths) records lines) {line : List Char}
    (inside : line ∈ lines) : ∃ record ∈ records, Fills widths record line := by
  induction filled with
  | nil => simp at inside
  | @cons record line records lines fills _ ih =>
    rcases List.mem_cons.1 inside with rfl | inside
    · exact ⟨record, List.mem_cons_self, fills⟩
    · obtain ⟨other, inside, fills⟩ := ih inside
      exact ⟨other, List.mem_cons_of_mem _ inside, fills⟩

theorem map_readLine (filled : List.Forall₂ (Fills widths) records lines)
    (bare : ∀ record ∈ records, ∀ text ∈ record, Bare text.toList) :
    lines.map readLine = records := by
  induction filled with
  | nil => rfl
  | cons fills _ ih =>
    have ⟨here, behind⟩ := List.forall_mem_cons.1 bare
    rw [List.map_cons, fills.readLine_eq here, ih behind]

end

namespace IsTable

variable {widths : List Nat} {header : List String} {rows : List (List String)} {first : List Char}
  {body : List (List Char)}

/-- All lines of a table start and end with a bar and are equally wide. -/
theorem rectangular (table : IsTable widths header rows first body) {line : List Char}
    (inside : line ∈ first :: ruleOver widths :: body) :
    line.head? = some '|' ∧ line.getLast? = some '|' ∧ width line = lineWidth widths := by
  have filled (inside : line ∈ first :: body) :
      line.head? = some '|' ∧ line.getLast? = some '|' ∧ width line = lineWidth widths := by
    obtain ⟨record, -, fills⟩ := exists_fills table.filled inside
    obtain ⟨rest, shape⟩ := fills.eq_cons
    exact ⟨by rw [shape, List.head?_cons], fills.getLast?_eq, fills.width_eq⟩
  simp only [List.mem_cons] at inside
  rcases inside with rfl | rfl | inside
  · exact filled List.mem_cons_self
  · obtain ⟨rest, shape⟩ := ruleOver_eq_cons widths
    exact ⟨by rw [shape, List.head?_cons], getLast?_ruleOver widths, width_ruleOver widths⟩
  · exact filled (List.mem_cons_of_mem _ inside)

theorem no_feed (table : IsTable widths header rows first body)
    (free : ∀ record ∈ header :: rows, ∀ text ∈ record, '\n' ∉ text.toList) {line : List Char}
    (inside : line ∈ first :: ruleOver widths :: body) : '\n' ∉ line := by
  have filled (inside : line ∈ first :: body) : '\n' ∉ line := by
    obtain ⟨record, inside', fills⟩ := exists_fills table.filled inside
    exact fills.no_feed (free record inside')
  simp only [List.mem_cons] at inside
  rcases inside with rfl | rfl | inside
  · exact filled List.mem_cons_self
  · exact ruleOver_no_feed widths
  · exact filled (List.mem_cons_of_mem _ inside)

end IsTable

/-! ## The grid -/

theorem gridLine_cons (part : List Char) (parts : List (List Char)) :
    gridLine (part :: parts) = '|' :: (part ++ gridLine parts) := by
  simp [gridLine]

/-- Texts that are not wider than their columns fill a line. -/
theorem fills_gridLine {widths : List Nat} {texts : List String}
    (fits : List.Forall₂ (fun size text => width text.toList ≤ size) widths texts) :
    Fills widths texts
      (gridLine (List.zipWith (fun size text => padLine size text.toList) widths texts)) := by
  induction fits with
  | nil => exact .stop
  | @cons size text widths texts fits _ ih =>
    have := Fills.text size text fits ih
    rw [List.zipWith_cons_cons, gridLine_cons]
    simpa [padLine] using this

theorem gridRule_eq (widths : List Nat) : gridRule widths = ruleOver widths := by
  rw [gridRule]
  induction widths with
  | nil => rfl
  | cons size widths ih => rw [List.map_cons, gridLine_cons, ih, ruleOver]

/-- A record without line feeds takes one line. -/
theorem recordLines_eq (widths : List Nat) {record : List String} (nonempty : record ≠ [])
    (free : ∀ text ∈ record, '\n' ∉ text.toList) :
    recordLines widths record =
      [gridLine (List.zipWith (fun size text => padLine size text.toList) widths record)] := by
  have whole : record.map (fun text => pieces '\n' text.toList) =
      record.map fun text => [text.toList] :=
    List.map_congr_left fun text inside => pieces_of_free (free text inside)
  have height : record.foldl (fun most text => max most [text.toList].length) 0 = 1 :=
    foldl_max_eq nonempty fun text _ => rfl
  rw [recordLines, whole]
  simp only [List.foldl_map, List.zipWith_map_right, height]
  rfl

theorem fillRecord_eq {columns : Nat} {record : List String} (full : record.length = columns) :
    fillRecord columns record = record := by
  simp [fillRecord, full]

/-- The grid of records of one length, and without line feeds, is a table. -/
theorem gridLines_isTable {header : List String} {rows : List (List String)} (nonempty : header ≠ [])
    (even : ∀ row ∈ rows, row.length = header.length)
    (free : ∀ record ∈ header :: rows, ∀ text ∈ record, '\n' ∉ text.toList) :
    ∃ widths first body, gridLines header rows = first :: ruleOver widths :: body ∧
      IsTable widths header rows first body := by
  have even' : ∀ record ∈ header :: rows, record.length = header.length := by
    simpa using even
  obtain ⟨count, widest⟩ := columnWidths_spec (List.cons_ne_nil header rows) even' free
  have most : (header :: rows).foldl (fun most record => max most record.length) 0 =
      header.length := foldl_max_eq (List.cons_ne_nil _ _) even'
  have filled : rows.map (fillRecord header.length) = rows := by
    rw [List.map_congr_left fun row inside => fillRecord_eq (even row inside), List.map_id']
  set widths := columnWidths header.length (header :: rows) with widths_eq
  let line (record : List String) :=
    gridLine (List.zipWith (fun size text => padLine size text.toList) widths record)
  have single {record : List String} (inside : record ∈ header :: rows) :
      recordLines widths record = [line record] :=
    recordLines_eq widths
      (List.ne_nil_of_length_pos (even' record inside ▸ List.length_pos_iff.2 nonempty))
      (free record inside)
  have fills {record : List String} (inside : record ∈ header :: rows) :
      Fills widths record (line record) := by
    refine fills_gridLine (List.forall₂_iff_get.2 ⟨count.trans (even' record inside).symm, ?_⟩)
    intro column at_ at_'
    exact (widest column _ (List.getElem?_eq_getElem at_)).2
      ⟨record, inside, _, List.getElem?_eq_getElem at_', rfl⟩
  refine ⟨widths, line header, rows.map line, ?_, count, widest, ?_⟩
  · rw [gridLines]
    simp only [most, filled, fillRecord_eq rfl, ← widths_eq]
    rw [single List.mem_cons_self, gridRule_eq, List.singleton_append,
      List.flatMap_congr fun row inside => single (List.mem_cons_of_mem _ inside)]
    exact congrArg (fun body => _ :: _ :: body) List.map_eq_flatMap.symm
  · rw [← List.map_cons, List.forall₂_map_right_iff, List.forall₂_same]
    exact fun record => fills

/-! ## What a grid holds -/

theorem mem_of_mem_pieces {separator : Char} {text piece : List Char}
    (h : piece ∈ pieces separator text) {c : Char} (inside : c ∈ piece) : c ∈ text := by
  induction text generalizing piece with
  | nil =>
    rw [pieces, List.mem_singleton] at h
    exact h ▸ inside
  | cons d text ih =>
    rw [pieces] at h
    split at h
    · rcases List.mem_cons.1 h with rfl | h
      · cases inside
      · exact List.mem_cons_of_mem _ (ih h inside)
    · split at h
      · next cut => exact absurd cut (pieces_ne_nil _ _)
      · next first more cut =>
        rw [cut] at ih
        rcases List.mem_cons.1 h with rfl | h
        · rcases List.mem_cons.1 inside with rfl | inside
          · exact List.mem_cons_self
          · exact List.mem_cons_of_mem _ (ih List.mem_cons_self inside)
        · exact List.mem_cons_of_mem _ (ih (List.mem_cons_of_mem _ h) inside)

theorem mem_gridLine {parts : List (List Char)} {c : Char} (h : c ∈ gridLine parts) :
    c = '|' ∨ ∃ part ∈ parts, c ∈ part := by
  simp only [gridLine, List.mem_cons, List.mem_flatMap, List.mem_append, List.not_mem_nil,
    or_false] at h
  rcases h with bar | ⟨part, inside, text | bar⟩
  · exact .inl bar
  · exact .inr ⟨part, inside, text⟩
  · exact .inl bar

theorem mem_padLine {size : Nat} {line : List Char} {c : Char} (h : c ∈ padLine size line) :
    c = ' ' ∨ c ∈ line := by
  simp only [padLine, List.mem_cons, List.mem_append, List.mem_replicate, List.not_mem_nil,
    or_false] at h
  tauto

theorem mem_recordLines {widths : List Nat} {record : List String} {line : List Char}
    (h : line ∈ recordLines widths record) {c : Char} (inside : c ∈ line) :
    c = '|' ∨ c = ' ' ∨ ∃ text ∈ record, c ∈ text.toList := by
  obtain ⟨row, -, rfl⟩ := List.mem_map.1 h
  rcases mem_gridLine inside with bar | ⟨part, member, inside⟩
  · exact .inl bar
  obtain ⟨column, at_, rfl⟩ := List.mem_iff_getElem.1 member
  rw [List.getElem_zipWith, List.getElem_map] at inside
  rcases mem_padLine inside with space | inside
  · exact .inr (.inl space)
  -- A text with too few lines has empty ones below.
  have short : column < record.length := by
    simp only [List.length_zipWith, List.length_map] at at_
    omega
  cases line : (pieces '\n' record[column].toList)[row]? with
  | none => simp [line] at inside
  | some piece =>
    rw [line] at inside
    exact .inr (.inr ⟨_, List.getElem_mem _, mem_of_mem_pieces (List.mem_of_getElem? line) inside⟩)

theorem mem_gridRule {widths : List Nat} {c : Char} (h : c ∈ gridRule widths) :
    c = '|' ∨ c = '-' := by
  rcases mem_gridLine h with bar | ⟨part, member, inside⟩
  · exact .inl bar
  · obtain ⟨size, -, rfl⟩ := List.mem_map.1 member
    exact .inr (List.eq_of_mem_replicate inside)

theorem mem_fillRecord {columns : Nat} {record : List String} {text : String}
    (h : text ∈ fillRecord columns record) : text = "" ∨ text ∈ record := by
  rcases List.mem_append.1 h with inside | inside
  · exact .inr inside
  · exact .inl (List.eq_of_mem_replicate inside)

/-- A grid holds bars, spaces, hyphens and the characters of its texts. -/
theorem mem_gridLines {header : List String} {rows : List (List String)} {line : List Char}
    (h : line ∈ gridLines header rows) {c : Char} (inside : c ∈ line) :
    c ∈ ['|', ' ', '-'] ∨ ∃ record ∈ header :: rows, ∃ text ∈ record, c ∈ text.toList := by
  have ofRecord {columns : Nat} {widths : List Nat} {record : List String}
      (member : record ∈ header :: rows)
      (h : line ∈ recordLines widths (fillRecord columns record)) :
      c ∈ ['|', ' ', '-'] ∨ ∃ record ∈ header :: rows, ∃ text ∈ record, c ∈ text.toList := by
    rcases mem_recordLines h inside with bar | space | ⟨text, filled, inside⟩
    · exact .inl (by simp [bar])
    · exact .inl (by simp [space])
    · rcases mem_fillRecord filled with rfl | known
      · cases inside
      · exact .inr ⟨record, member, text, known, inside⟩
  rcases List.mem_append.1 h with h | h
  · exact ofRecord List.mem_cons_self h
  rcases List.mem_cons.1 h with rfl | h
  · rcases mem_gridRule inside with bar | hyphen
    · exact .inl (by simp [bar])
    · exact .inl (by simp [hyphen])
  · obtain ⟨_, member, h⟩ := List.mem_flatMap.1 h
    obtain ⟨row, known, rfl⟩ := List.mem_map.1 member
    exact ofRecord (List.mem_cons_of_mem _ known) h

end SqlShell.Text
