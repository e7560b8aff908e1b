import Mathlib.Data.PNat.Defs
import ClassroomSuite.Platform.Filesystem.Classification

/-!
# The round trip of the filesystem table

A row of the table is written with spaces in front of it and between its columns. Parsing what has
been written returns the rows, whatever the numbers of spaces, and white space within the last
column is kept. A number is written only if it has no more digits than the interpreter's limit, if
one is set.

Source: `cli/src/bcs/platform/adapters/filesystem/parser.py`,
`cli/tests/test_platform_adapters_filesystem_parser.py`.

## Main definitions

* `DfRow`, `DfRow.usage`: a row that can be written, and the record it is read as.
* `Padding`, `DfRow.render`, `renderLines`, `joinLines`: how rows are written.

## Main results

* `words_renderCells`, `afterWords_renderCells`: the cells of a line are its words.
* `usageOf_render`.
* `parseFilesystemUsage_render`.
-/

namespace ClassroomSuite.Platform.Filesystem

open Python Library

/-- A text that is not empty and has no white space. -/
def IsWord (cs : List Char) : Prop := cs ≠ [] ∧ ∀ c ∈ cs, isSpace c = false

/-- A row that can be written. -/
structure DfRow where
  source : List Char
  fsType : List Char
  inodesTotal : Option ℕ
  inodesUsed : Option ℕ
  inodesAvailable : Option ℕ
  sizeBytes : ℕ
  usedBytes : ℕ
  availableBytes : ℕ
  target : List Char
  source_isWord : IsWord source
  fsType_isWord : IsWord fsType
  target_ne_nil : target ≠ []
  target_trimmed : Trimmed isSpace target
  target_oneLine : ∀ c ∈ target, isLineBreak c = false

/-- How many spaces there are in front of a row and after each of its first eight columns. -/
structure Padding where
  leading : ℕ
  gap : Fin 8 → ℕ+

/-- A number of blanks. -/
def spaces (n : ℕ) : List Char := List.replicate n ' '

variable (numerals : Numerals)

/-- A count of inodes as it is written. -/
def inodeCell : Option ℕ → Except PyError (List Char)
  | none => .ok ['-']
  | some n => numerals.str n

/-- The numbers of a row as they are written. -/
structure NumberCells where
  itotal : List Char
  iused : List Char
  iavail : List Char
  size : List Char
  used : List Char
  avail : List Char

/-- The cells of the numbers of a row. -/
def DfRow.numberCells (row : DfRow) : Except PyError NumberCells := do
  let itotal ← inodeCell numerals row.inodesTotal
  let iused ← inodeCell numerals row.inodesUsed
  let iavail ← inodeCell numerals row.inodesAvailable
  let size ← numerals.str row.sizeBytes
  let used ← numerals.str row.usedBytes
  let avail ← numerals.str row.availableBytes
  return { itotal, iused, iavail, size, used, avail }

/-- Cells, each with the number of spaces after it, and the last column. -/
def renderCells (target : List Char) : List (List Char × ℕ+) → List Char
  | [] => target
  | (cell, gap) :: cells => cell ++ (spaces gap ++ renderCells target cells)

/-- All columns but the last one. -/
def DfRow.cells (row : DfRow) (numbers : NumberCells) (pad : Padding) : List (List Char × ℕ+) := [
  (row.source, pad.gap 0),
  (row.fsType, pad.gap 1),
  (numbers.itotal, pad.gap 2),
  (numbers.iused, pad.gap 3),
  (numbers.iavail, pad.gap 4),
  (numbers.size, pad.gap 5),
  (numbers.used, pad.gap 6),
  (numbers.avail, pad.gap 7)]

/-- A row as one line. -/
def DfRow.render (row : DfRow) (pad : Padding) : Except PyError (List Char) := do
  let numbers ← row.numberCells numerals
  return spaces pad.leading ++ renderCells row.target (row.cells numbers pad)

/-- The lines of some rows. -/
def renderLines (rows : List (DfRow × Padding)) : Except PyError (List (List Char)) :=
  rows.mapM fun (row, pad) => row.render numerals pad

/-- The lines as a text, joined by line feeds. -/
def joinLines (lines : List (List Char)) : String := String.ofList (['\n'].intercalate lines)

/-- The record that a row is read as, from the line it was written as. -/
def DfRow.usage (row : DfRow) (line : List Char) : FilesystemUsage where
  source := String.ofList row.source
  target := String.ofList row.target
  fsType := String.ofList row.fsType
  sizeBytes := row.sizeBytes
  usedBytes := row.usedBytes
  availableBytes := row.availableBytes
  inodesTotal := row.inodesTotal
  inodesUsed := row.inodesUsed
  inodesAvailable := row.inodesAvailable
  rawLine := String.ofList line

/-! ### The words of a line -/

theorem isSpace_of_mem_spaces {n : ℕ} {c : Char} (h : c ∈ spaces n) : isSpace c = true := by
  rw [List.eq_of_mem_replicate h]
  decide

theorem spaces_ne_nil (n : ℕ+) : spaces n ≠ [] := by
  simp [spaces]

variable {numerals} {row : DfRow} {numbers : NumberCells} {pad : Padding}

theorem isWord_of_str {n : ℕ} {cs : List Char} (h : numerals.str n = .ok cs) : IsWord cs := by
  obtain ⟨hne, hdigits⟩ := Numerals.isDigit_of_str h
  exact ⟨hne, fun c hc => isSpace_eq_false_of_isDigit (hdigits c hc)⟩

theorem isWord_of_inodeCell {count : Option ℕ} {cs : List Char}
    (h : inodeCell numerals count = .ok cs) : IsWord cs := by
  cases count with
  | none =>
    cases h
    exact ⟨List.cons_ne_nil _ _, forall_not_of_all (by decide)⟩
  | some n => exact isWord_of_str h

/-- What the numbers of a row are written as. -/
theorem DfRow.numberCells_eq_ok (h : row.numberCells numerals = .ok numbers) :
    (inodeCell numerals row.inodesTotal = .ok numbers.itotal ∧
      inodeCell numerals row.inodesUsed = .ok numbers.iused ∧
      inodeCell numerals row.inodesAvailable = .ok numbers.iavail) ∧
    numerals.str row.sizeBytes = .ok numbers.size ∧
      numerals.str row.usedBytes = .ok numbers.used ∧
      numerals.str row.availableBytes = .ok numbers.avail := by
  obtain ⟨itotal, hitotal, h⟩ := bind_eq_ok_iff.mp h
  obtain ⟨iused, hiused, h⟩ := bind_eq_ok_iff.mp h
  obtain ⟨iavail, hiavail, h⟩ := bind_eq_ok_iff.mp h
  obtain ⟨size, hsize, h⟩ := bind_eq_ok_iff.mp h
  obtain ⟨used, hused, h⟩ := bind_eq_ok_iff.mp h
  obtain ⟨avail, havail, h⟩ := bind_eq_ok_iff.mp h
  cases h
  exact ⟨⟨hitotal, hiused, hiavail⟩, hsize, hused, havail⟩

theorem DfRow.isWord_of_mem_cells (h : row.numberCells numerals = .ok numbers) :
    ∀ cell ∈ row.cells numbers pad, IsWord cell.1 := by
  obtain ⟨⟨hitotal, hiused, hiavail⟩, hsize, hused, havail⟩ := numberCells_eq_ok h
  simp only [cells, List.forall_mem_cons]
  exact ⟨row.source_isWord, row.fsType_isWord, isWord_of_inodeCell hitotal,
    isWord_of_inodeCell hiused, isWord_of_inodeCell hiavail, isWord_of_str hsize,
    isWord_of_str hused, isWord_of_str havail,
    List.forall_mem_nil _⟩

variable {target : List Char} {cells : List (List Char × ℕ+)}

/-- The cells of a line are its first words. -/
theorem words_renderCells (h : ∀ cell ∈ cells, IsWord cell.1) :
    words isSpace (renderCells target cells) = cells.map (·.1) ++ words isSpace target := by
  induction cells with
  | nil => rfl
  | cons cell cells ih =>
    obtain ⟨hcell, hcells⟩ := List.forall_mem_cons.mp h
    rw [renderCells, words_append hcell.1 hcell.2 (spaces_ne_nil _)
      (fun _ => isSpace_of_mem_spaces), ih hcells]
    rfl

/-- The last column is what follows them. -/
theorem afterWords_renderCells (h : ∀ cell ∈ cells, IsWord cell.1)
    (htarget : Trimmed isSpace target) :
    afterWords isSpace cells.length (renderCells target cells) = target := by
  induction cells with
  | nil => exact dropWhile_of_head htarget.1
  | cons cell cells ih =>
    obtain ⟨hcell, hcells⟩ := List.forall_mem_cons.mp h
    rw [renderCells, List.length_cons, afterWords_append hcell.1 hcell.2 (spaces_ne_nil _)
      (fun _ => isSpace_of_mem_spaces), ih hcells]

/-- There is no white space at the ends of a line, apart from what is in front of it. -/
theorem trimmed_renderCells (h : ∀ cell ∈ cells, IsWord cell.1) (htarget : Trimmed isSpace target)
    (hne : target ≠ []) :
    renderCells target cells ≠ [] ∧ Trimmed isSpace (renderCells target cells) := by
  induction cells with
  | nil => exact ⟨hne, htarget⟩
  | cons cell cells ih =>
    obtain ⟨hcell, hcells⟩ := List.forall_mem_cons.mp h
    obtain ⟨hrest, htrimmed⟩ := ih hcells
    exact ⟨by simp [renderCells, hcell.1],
      (trimmed_of_forall hcell.2).append htrimmed hcell.1 hrest (spaces cell.2)⟩

theorem isLineBreak_renderCells (h : ∀ cell ∈ cells, IsWord cell.1)
    (htarget : ∀ c ∈ target, isLineBreak c = false) :
    ∀ c ∈ renderCells target cells, isLineBreak c = false := by
  induction cells with
  | nil => exact htarget
  | cons cell cells ih =>
    obtain ⟨hcell, hcells⟩ := List.forall_mem_cons.mp h
    intro c hc
    rcases List.mem_append.mp hc with hc | hc
    · exact isLineBreak_eq_false (hcell.2 c hc)
    · rcases List.mem_append.mp hc with hc | hc
      · rw [List.eq_of_mem_replicate hc]
        decide
      · exact ih hcells c hc

/-! ### Reading a row -/

theorem inodeOf_of_inodeCell {count : Option ℕ} {cs : List Char}
    (h : inodeCell numerals count = .ok cs) :
    inodeOf numerals cs = some count ∧
      (numerals.isNumber cs = true → numerals.fits cs = true) := by
  cases count with
  | none =>
    cases h
    refine ⟨rfl, fun hnumber => ?_⟩
    have hdash : numerals.value '-' = none := numerals.value_ascii '-' (by decide)
    simp [Numerals.isNumber, hdash] at hnumber
  | some n =>
    have hdigits : cs ≠ ['-'] := by
      rintro rfl
      exact absurd ((Numerals.isDigit_of_str h).2 '-' List.mem_cons_self) (by decide)
    obtain ⟨hfits, hcs⟩ := Numerals.str_eq_ok_iff.mp h
    refine ⟨?_, fun _ => hfits⟩
    rw [inodeOf, if_neg hdigits, if_pos (Numerals.isNumber_of_str h), hcs,
      Numerals.number_toDigits]

theorem byteOf_of_str {n : ℕ} {cs : List Char} (h : numerals.str n = .ok cs) :
    byteOf numerals cs = some n ∧
      (numerals.isNumber cs = true → numerals.fits cs = true) := by
  obtain ⟨hfits, hcs⟩ := Numerals.str_eq_ok_iff.mp h
  refine ⟨?_, fun _ => hfits⟩
  rw [byteOf, if_pos (Numerals.isNumber_of_str h), hcs, Numerals.number_toDigits]

/-- The columns of a row. -/
def DfRow.columns (row : DfRow) (numbers : NumberCells) : Columns where
  source := row.source
  fsType := row.fsType
  itotal := numbers.itotal
  iused := numbers.iused
  iavail := numbers.iavail
  size := numbers.size
  used := numbers.used
  avail := numbers.avail
  target := row.target

/-- The columns of a line are those of the row. -/
theorem columnsOf_render (h : row.numberCells numerals = .ok numbers) :
    columnsOf (spaces pad.leading ++ renderCells row.target (row.cells numbers pad)) =
      some (row.columns numbers) := by
  have hcells : ∀ cell ∈ row.cells numbers pad, IsWord cell.1 := DfRow.isWord_of_mem_cells h
  have hstrip : strip isSpace (spaces pad.leading ++
      renderCells row.target (row.cells numbers pad)) =
        renderCells row.target (row.cells numbers pad) :=
    strip_append (fun _ => isSpace_of_mem_spaces)
      (trimmed_renderCells hcells row.target_trimmed row.target_ne_nil).2
  have hwords : words isSpace (spaces pad.leading ++
      renderCells row.target (row.cells numbers pad)) =
        (row.cells numbers pad).map (·.1) ++ words isSpace row.target := by
    rw [← words_strip, hstrip, words_renderCells hcells]
  have htarget : words isSpace row.target ≠ [] := by
    rw [ne_eq, words_eq_nil_iff, dropWhile_of_head row.target_trimmed.1]
    exact row.target_ne_nil
  obtain ⟨w, ws, hw⟩ := List.exists_cons_of_ne_nil htarget
  have hafter := afterWords_renderCells hcells row.target_trimmed
  rw [columnsOf, hwords, hw, hstrip]
  exact congrArg (fun target => some { row.columns numbers with target }) hafter

/-- What has been written is a line of which the record is read, with numbers within the limit. -/
theorem usageOf_render {line : List Char} (h : row.render numerals pad = .ok line) :
    usageOf numerals line = some (row.usage line) ∧ NumbersFit numerals line := by
  obtain ⟨numbers, hnumbers, hline⟩ := bind_eq_ok_iff.mp h
  cases hline
  obtain ⟨⟨hitotal, hiused, hiavail⟩, hsize, hused, havail⟩ := DfRow.numberCells_eq_ok hnumbers
  have hread : (row.columns numbers).numbers numerals = {
      itotal := some row.inodesTotal, iused := some row.inodesUsed
      iavail := some row.inodesAvailable, size := some row.sizeBytes, used := some row.usedBytes
      avail := some row.availableBytes } := by
    simp only [Columns.numbers, DfRow.columns, (inodeOf_of_inodeCell hitotal).1,
      (inodeOf_of_inodeCell hiused).1, (inodeOf_of_inodeCell hiavail).1, (byteOf_of_str hsize).1,
      (byteOf_of_str hused).1, (byteOf_of_str havail).1]
  constructor
  · rw [usageOf_eq, columnsOf_render hnumbers, Option.bind_some, hread]
    rfl
  · intro columns hcolumns
    rw [columnsOf_render hnumbers] at hcolumns
    cases hcolumns
    simp only [Columns.numericTokens, List.forall_mem_cons]
    exact ⟨(inodeOf_of_inodeCell hitotal).2, (inodeOf_of_inodeCell hiused).2,
      (inodeOf_of_inodeCell hiavail).2, (byteOf_of_str hsize).2, (byteOf_of_str hused).2,
      (byteOf_of_str havail).2, List.forall_mem_nil _⟩

/-- What has been written is one line. -/
theorem isLineBreak_render {line : List Char} (h : row.render numerals pad = .ok line) :
    line ≠ [] ∧ ∀ c ∈ line, isLineBreak c = false := by
  obtain ⟨numbers, hnumbers, hline⟩ := bind_eq_ok_iff.mp h
  cases hline
  have hcells : ∀ cell ∈ row.cells numbers pad, IsWord cell.1 :=
    DfRow.isWord_of_mem_cells hnumbers
  obtain ⟨hne, -⟩ := trimmed_renderCells hcells row.target_trimmed row.target_ne_nil
  refine ⟨by simp [hne], fun c hc => ?_⟩
  rcases List.mem_append.mp hc with hc | hc
  · rw [List.eq_of_mem_replicate hc]
    decide
  · exact isLineBreak_renderCells hcells row.target_oneLine c hc

/-- Without a limit every row can be written. -/
theorem exists_render (h : numerals.maxDigits = none) (row : DfRow) (pad : Padding) :
    ∃ line, row.render numerals pad = .ok line := by
  have hinode (count : Option ℕ) : ∃ cs, inodeCell numerals count = .ok cs := by
    cases count with
    | none => exact ⟨_, rfl⟩
    | some n => exact ⟨_, Numerals.str_of_maxDigits_eq_none h n⟩
  obtain ⟨itotal, hitotal⟩ := hinode row.inodesTotal
  obtain ⟨iused, hiused⟩ := hinode row.inodesUsed
  obtain ⟨iavail, hiavail⟩ := hinode row.inodesAvailable
  have hnumbers : row.numberCells numerals = .ok {
      itotal, iused, iavail, size := Nat.toDigits 10 row.sizeBytes
      used := Nat.toDigits 10 row.usedBytes, avail := Nat.toDigits 10 row.availableBytes } := by
    rw [DfRow.numberCells, hitotal, hiused, hiavail]
    simp only [Numerals.str_of_maxDigits_eq_none h, ok_bind]
    rfl
  exact ⟨_, bind_eq_ok_iff.mpr ⟨_, hnumbers, rfl⟩⟩

/-- Rows that have been written are read, in their order; and without a limit on the digits of a
number all rows can be written. -/
theorem parseFilesystemUsage_render (rt : TextRuntime) (numerals : Numerals)
    (rows : List (DfRow × Padding)) :
    (∀ lines, renderLines numerals rows = .ok lines →
      parseFilesystemUsage rt numerals (joinLines lines) = .ok {
        filesystems := List.zipWith (fun p line => p.1.usage line) rows lines
        rawText := joinLines lines }) ∧
      (numerals.maxDigits = none → ∃ lines, renderLines numerals rows = .ok lines) := by
  constructor
  · intro lines hrender
    have hrows := (mapM_eq_ok_iff _ _ _).mp hrender
    have hwritten : ∀ line ∈ lines, ∃ p : DfRow × Padding, p.1.render numerals p.2 = .ok line :=
      fun line hline => (exists_mem_of_forall₂ hrows.flip hline).imp fun _ hp => hp.2
    have hlines : splitLines (joinLines lines).toList = lines := by
      rw [joinLines, String.toList_ofList]
      refine splitLines_intercalate fun line hline => ?_
      obtain ⟨p, hp⟩ := hwritten line hline
      exact isLineBreak_render hp
    have hread : ∀ line ∈ lines, NumbersFit numerals line ∧ ¬ Offends numerals line := by
      intro line hline
      obtain ⟨p, hp⟩ := hwritten line hline
      obtain ⟨husage, hfit⟩ := usageOf_render hp
      exact ⟨hfit, not_offends_of_usageOf husage⟩
    have husages : lines.filterMap (usageOf numerals) =
        List.zipWith (fun p line => p.1.usage line) rows lines := by
      clear hrender hwritten hlines hread
      induction hrows with
      | nil => rfl
      | cons hrow _ ih =>
        rw [List.filterMap_cons_some (usageOf_render hrow).1, ih]
        rfl
    rw [parseFilesystemUsage_of_forall rt (by rw [hlines]; exact fun l hl => (hread l hl).1)
      (by rw [hlines]; exact fun l hl => (hread l hl).2), hlines, husages]
  · intro hlimit
    exact (exists_mapM_eq_ok_iff _ rows).mpr fun p _ => exists_render hlimit p.1 p.2

/-- A row with a space in its last column. -/
def stickRow : DfRow where
  source := "/dev/sdb1".toList
  fsType := "vfat".toList
  inodesTotal := none
  inodesUsed := none
  inodesAvailable := some 12
  sizeBytes := 4096
  usedBytes := 1024
  availableBytes := 3072
  target := "/media/My  Stick".toList
  source_isWord := ⟨by decide, forall_not_of_all (by decide)⟩
  fsType_isWord := ⟨by decide, forall_not_of_all (by decide)⟩
  target_ne_nil := by decide
  target_trimmed := trimmed_of_all (by decide) (by decide)
  target_oneLine := forall_not_of_all (by decide)

/-- One space in front of a row, and two between its columns. -/
def wide : Padding where
  leading := 1
  gap _ := 2

theorem parseFilesystemUsage_render_stick :
    (∃ lines, parseFilesystemUsage asciiText asciiNumerals (joinLines lines) = .ok {
      filesystems := List.zipWith (fun (p : DfRow × Padding) line => p.1.usage line)
        [(stickRow, wide)] lines
      rawText := joinLines lines }) ∧
      ∃ lines, renderLines { asciiNumerals with maxDigits := none } [(stickRow, wide)] =
        .ok lines := by
  obtain ⟨lines, hlines⟩ : ∃ lines, renderLines asciiNumerals [(stickRow, wide)] = .ok lines :=
    ⟨_, rfl⟩
  exact ⟨⟨lines, (parseFilesystemUsage_render asciiText asciiNumerals _).1 lines hlines⟩,
    (parseFilesystemUsage_render asciiText { asciiNumerals with maxDigits := none } _).2 rfl⟩

end ClassroomSuite.Platform.Filesystem
