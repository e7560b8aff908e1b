import ClassroomSuite.Inventory.ParentDisk

/-!
# Looking up the mount point of a disk

The kernel writes each mount on a line of its own, its fields separated by spaces, and writes white
space and backslashes in a field by their octal codes. A disk is looked up by the beginning of the
device in such a line: this is also how the devices of other disks begin, and what is found is the
mount point as it is written. The answer is right if the mounts that are passed over are of other
disks, and the one that is found is of the disk and needs no escape, or happens to be written as the
right one.

White space other than the space, the tab and the newline is not escaped, but separates words and
lines all the same. The converse is proved for the tables in which there is none where it matters.

Source: `cli/src/bcs/inventory/collectors.py`.

## Main definitions

* `Mount`, `Mount.line`, `renderMounts`: the mount table.
* `Mount.IsOf`, `mountPointOf`, `LooksUp`: what should be found.
* `Mount.Plain`, `Mount.Begins`, `Mount.Passed`: how a mount is written.
* `FoundRightly`.
* `Mount.shown`: the word that is read as the mount point.

## Main results

* `findMountedPartition_renderMounts`: what is found.
* `shown_of_plain`, `shown_of_passed`, `shown_of_legible`: what is shown of a mount.
* `looksUp_of_foundRightly`.
-/

namespace ClassroomSuite.Inventory

open Python Library

/-! ### The mount table -/

/-- A device that is mounted somewhere. -/
structure Mount where
  device : String
  mountPoint : String
  fstype : String
  options : String

/-- The characters that separate or escape fields are written by their octal codes. -/
def octalEscape (c : Char) : List Char :=
  if c = ' ' then "\\040".toList
  else if c = '\t' then "\\011".toList
  else if c = '\n' then "\\012".toList
  else if c = '\\' then "\\134".toList
  else [c]

/-- A field, in which the kernel has escaped blanks and the like. -/
def escapeField (field : String) : List Char := field.toList.flatMap octalEscape

/-- The line of a mount. It ends with two numbers that the kernel no longer uses. -/
def Mount.line (m : Mount) : List Char :=
  escapeField m.device ++ ' ' :: (escapeField m.mountPoint ++ ' ' :: (escapeField m.fstype ++
    ' ' :: (escapeField m.options ++ " 0 0".toList)))

/-- The text of a table of mounts. -/
def renderMounts (table : List Mount) : String :=
  String.ofList (table.flatMap fun m => m.line ++ ['\n'])

/-! ### What should be found -/

/-- The device is the disk, or one of its partitions. -/
def Mount.IsOf (disk : String) (m : Mount) : Prop :=
  m.device.toList = devicePath disk ∨ ∃ n, m.device.toList = partitionPath disk.toList n

open Classical in
/-- The first mount of the disk. -/
noncomputable def firstOf (disk : String) (table : List Mount) : Option Mount :=
  table.find? fun m => decide (m.IsOf disk)

/-- Where the first device of a disk is mounted. -/
noncomputable def mountPointOf (disk : String) (table : List Mount) : Option String :=
  (firstOf disk table).map (·.mountPoint)

/-- The mount point of the first mount of the disk is found, and that of no other one. -/
structure LooksUp (disk : String) (table : List Mount) : Prop where
  returns : findMountedPartition (some (renderMounts table).toUTF8.data.toList) disk =
    .ok (mountPointOf disk table)
  isOf : ∀ mountPoint,
    findMountedPartition (some (renderMounts table).toUTF8.data.toList) disk =
        .ok (some mountPoint) →
      ∃ m ∈ table, m.IsOf disk ∧ m.mountPoint = mountPoint

/-! ### How a mount is written -/

/-- There is neither white space nor a backslash. -/
def Legible (cs : List Char) : Prop := ∀ c ∈ cs, isSpace c = false ∧ c ≠ '\\'

/-- The field is written as one word: it is not empty, and the white space in it is escaped. -/
def OneWord (field : String) : Prop :=
  field ≠ "" ∧ ∀ c ∈ field.toList, isSpace c = true → c = ' ' ∨ c = '\t' ∨ c = '\n'

/-- The field is written on one line. -/
def OneLine (field : String) : Prop := ∀ c ∈ field.toList, isLineBreak c = true → c = '\n'

/-- The mount is written on one line, of which its device and its mount point are the first
words. -/
structure Mount.Plain (m : Mount) : Prop where
  device : OneWord m.device
  mountPoint : OneWord m.mountPoint
  fstype : OneLine m.fstype
  options : OneLine m.options

/-- The device begins, as it is written, with the path of the disk. -/
def Mount.Begins (disk : String) (m : Mount) : Prop := devicePath disk <+: escapeField m.device

/-- No word in the fields begins, as it is written, with the path of the disk. -/
def Mount.Unrelated (disk : String) (m : Mount) : Prop :=
  ∀ field ∈ [m.device, m.mountPoint, m.fstype, m.options],
    ∀ word ∈ words isSpace (escapeField field), ¬ devicePath disk <+: word

/-- The mount is passed over when the disk is looked up. -/
def Mount.Passed (disk : String) (m : Mount) : Prop :=
  m.Unrelated disk ∨ (m.Plain ∧ ¬ m.Begins disk)

/-- The first mount whose device begins with the path of the disk happens to be mounted where, as it
is written, the first mount of the disk is. -/
def Coincides (disk : String) (table : List Mount) : Prop :=
  ∃ before a after b, table = before ++ a :: after ∧ (∀ m ∈ before, m.Passed disk) ∧
    a.Plain ∧ a.Begins disk ∧ firstOf disk table = some b ∧
    escapeField a.mountPoint = b.mountPoint.toList

/-- The mounts of other disks are passed over, and the first one that is not is of the disk, and its
mount point can be read; or there is a coincidence. -/
def FoundRightly (disk : String) : List Mount → Prop
  | [] => True
  | m :: table =>
    (m.IsOf disk ∧ Legible disk.toList ∧ m.mountPoint ≠ "" ∧ Legible m.mountPoint.toList) ∨
    (¬ m.IsOf disk ∧ m.Passed disk ∧ FoundRightly disk table) ∨
    Coincides disk (m :: table)

/-! ### What is found -/

/-- The second word of the first line of a mount that begins with the path of the disk. A mount has
one line, unless a field has a character that ends one for the reader. -/
def Mount.shown (disk : String) (m : Mount) : Option String :=
  (rows m.line).findSome? (mountPointIn (devicePath disk))

/-! ### Fields -/

theorem octalEscape_of_ne {c : Char} (hspace : isSpace c = false) (hbackslash : c ≠ '\\') :
    octalEscape c = [c] := by
  have hne {d : Char} (hd : isSpace d = true) : c ≠ d := by
    rintro rfl
    rw [hd] at hspace
    cases hspace
  rw [octalEscape, if_neg (hne (by decide)), if_neg (hne (by decide)), if_neg (hne (by decide)),
    if_neg hbackslash]

theorem length_octalEscape_pos (c : Char) : 0 < (octalEscape c).length := by
  unfold octalEscape
  split_ifs
  case neg => exact Nat.one_pos
  all_goals decide

/-- A legible field is written as it is. -/
theorem escapeField_of_legible {field : String} (h : Legible field.toList) :
    escapeField field = field.toList := by
  rw [escapeField]
  conv_rhs => rw [← List.flatMap_singleton' field.toList]
  exact List.flatMap_congr fun c hc => octalEscape_of_ne (h c hc).1 (h c hc).2

/-- No white space is written in a field that has none. -/
theorem isSpace_escapeField {field : String} (h : ∀ c ∈ field.toList, isSpace c = false) :
    ∀ c ∈ escapeField field, isSpace c = false := by
  intro c hc
  obtain ⟨d, hd, hc⟩ := List.mem_flatMap.mp hc
  by_cases hbackslash : d = '\\'
  · rw [hbackslash] at hc
    exact forall_not_of_all (by decide) c hc
  · rw [octalEscape_of_ne (h d hd) hbackslash] at hc
    exact List.mem_singleton.mp hc ▸ h d hd

/-- A field with a backslash is not written as it is. -/
theorem length_lt_escapeField {field : String} (h : '\\' ∈ field.toList) :
    field.toList.length < (escapeField field).length := by
  have hle (cs : List Char) : cs.length ≤ (cs.flatMap octalEscape).length := by
    induction cs with
    | nil => exact le_rfl
    | cons c cs ih =>
      have hpos := length_octalEscape_pos c
      rw [List.flatMap_cons, List.length_append, List.length_cons]
      omega
  obtain ⟨before, after, hfield⟩ := List.append_of_mem h
  have hbefore := hle before
  have hafter := hle after
  have hbackslash : (octalEscape '\\').length = 4 := by decide
  rw [escapeField, hfield, List.flatMap_append, List.flatMap_cons]
  simp only [List.length_append, List.length_cons]
  omega

/-! ### What is found -/

/-- Rows without words do not count. -/
theorem findSome?_rows {α : Type} {f : List (List Char) → Option α} (hf : f [] = none)
    (text : List Char) : (rows text).findSome? f = (lineWords text).findSome? f := by
  rw [rows, lineWords]
  induction (splitLines text).map (words isSpace) with
  | nil => rfl
  | cons row rows ih =>
    cases row with
    | nil => rw [List.findSome?_cons_of_isNone (by simp [hf]), ih]; rfl
    | cons word row =>
      rw [List.filter_cons_of_pos (by simp), List.findSome?_cons, List.findSome?_cons, ih]

theorem findMountedPartition_of_readText {bytes : List UInt8} {text : String}
    (h : Python.readText bytes = some text) (disk : String) :
    findMountedPartition (some bytes) disk =
      .ok ((rows text.toList).findSome? (mountPointIn (devicePath disk))) := by
  have hrows : (rows text.toList).findSome? (mountPointIn (devicePath disk)) =
      (rows (strip isSpace text.toList)).findSome? (mountPointIn (devicePath disk)) := by
    rw [findSome?_rows rfl, findSome?_rows rfl, lineWords_strip]
  rw [findMountedPartition, readText, h, hrows]
  dsimp only
  rw [ok_bind]
  cases strip isSpace text.toList with
  | nil => rfl
  | cons c cs => rfl

theorem rows_append {line : List Char} (hne : line ≠ [])
    (hlast : ∀ c ∈ line.getLast?, isLineBreak c = false) (rest : List Char) :
    rows (line ++ '\n' :: rest) = rows line ++ rows rest := by
  rw [rows, splitLines_append_of_last hne hlast, List.map_append]
  rfl

/-- The line of a mount ends with no line break. -/
theorem exists_line_eq (m : Mount) : ∃ cs, m.line = cs ++ ['0'] :=
  ⟨escapeField m.device ++ ' ' :: (escapeField m.mountPoint ++ ' ' :: (escapeField m.fstype ++
    ' ' :: (escapeField m.options ++ [' ', '0', ' ']))), by simp [Mount.line]⟩

/-- The first mount that is shown is found, as it is shown. -/
theorem findMountedPartition_renderMounts (table : List Mount) (disk : String) :
    findMountedPartition (some (renderMounts table).toUTF8.data.toList) disk =
      .ok (table.findSome? (·.shown disk)) := by
  have htext : Python.readText (renderMounts table).toUTF8.data.toList =
      some (String.ofList (universalNewlines (renderMounts table).toList)) := by
    rw [Python.readText, decodeUtf8_toUTF8, Option.map_some]
  have hlines (cs : List Char) : rows (universalNewlines cs) = rows cs := by
    rw [rows, splitLines_universalNewlines, rows]
  rw [findMountedPartition_of_readText htext, String.toList_ofList, hlines, renderMounts,
    String.toList_ofList]
  refine congrArg Except.ok ?_
  clear htext
  induction table with
  | nil => rfl
  | cons m table ih =>
    obtain ⟨cs, hcs⟩ := exists_line_eq m
    have hne : m.line ≠ [] := by simp [hcs]
    have hlast : ∀ c ∈ m.line.getLast?, isLineBreak c = false := by
      rw [hcs, List.getLast?_append]
      rintro c ⟨⟩
      decide
    rw [List.flatMap_cons, List.append_assoc, List.singleton_append, rows_append hne hlast,
      List.findSome?_append, ih, List.findSome?_cons, Mount.shown]
    cases (rows m.line).findSome? (mountPointIn (devicePath disk)) <;> rfl

/-! ### What is shown -/

variable {disk mountPoint : String} {m : Mount} {table : List Mount}

theorem Legible.append {cs ds : List Char} (hcs : Legible cs) (hds : Legible ds) :
    Legible (cs ++ ds) :=
  List.forall_mem_append.mpr ⟨hcs, hds⟩

theorem legible_partitionSuffix (name : List Char) (n : ℕ+) : Legible (partitionSuffix name n) := by
  have hdigits : Legible (Nat.toDigits 10 n) := by
    intro c hc
    have hdigit : c.isDigit = true := Nat.isDigit_of_mem_toDigits (by decide) (by decide) hc
    refine ⟨isSpace_eq_false_of_isDigit hdigit, ?_⟩
    rintro rfl
    exact absurd hdigit (by decide)
  refine Legible.append (fun c hc => ?_) hdigits
  split_ifs at hc
  · obtain rfl := List.mem_singleton.mp hc
    exact ⟨by decide, by decide⟩
  · cases hc

/-- The device of a mount of the disk begins with the path of the disk, and is as legible as its
name. -/
theorem device_of_isOf (h : m.IsOf disk) (hdisk : Legible disk.toList) :
    devicePath disk <+: m.device.toList ∧ Legible m.device.toList := by
  have hpath : Legible (devicePath disk) :=
    Legible.append (fun c hc => ⟨forall_not_of_all (by decide) c hc, by
      rintro rfl
      exact absurd hc (by decide)⟩) hdisk
  rcases h with h | ⟨n, h⟩
  · rw [h]
    exact ⟨List.prefix_rfl, hpath⟩
  · rw [h, partitionPath_eq, ← List.append_assoc]
    exact ⟨List.prefix_append _ _, hpath.append (legible_partitionSuffix _ n)⟩

/-- The first row of a mount begins with its device and its mount point as they are written, if no
white space is written in them. -/
theorem exists_rows_line (hdevice : ∀ c ∈ escapeField m.device, isSpace c = false)
    (hdeviceNe : escapeField m.device ≠ [])
    (hmountPoint : ∀ c ∈ escapeField m.mountPoint, isSpace c = false)
    (hmountPointNe : escapeField m.mountPoint ≠ []) :
    ∃ row rest,
      rows m.line = (escapeField m.device :: escapeField m.mountPoint :: row) :: rest := by
  -- The two fields and the spaces behind them begin the first line.
  have hbreak : ∀ c ∈ escapeField m.device ++ ' ' :: (escapeField m.mountPoint ++ [' ']),
      isLineBreak c = false := by
    simp only [List.forall_mem_append, List.forall_mem_cons]
    exact ⟨fun c hc => isLineBreak_eq_false (hdevice c hc), by decide,
      fun c hc => isLineBreak_eq_false (hmountPoint c hc), by decide, List.forall_mem_nil _⟩
  obtain ⟨rest, lines, hlines⟩ := exists_splitLines_append hbreak (by simp)
    (escapeField m.fstype ++ ' ' :: (escapeField m.options ++ " 0 0".toList))
  have hline : m.line = (escapeField m.device ++ ' ' :: (escapeField m.mountPoint ++ [' '])) ++
      (escapeField m.fstype ++ ' ' :: (escapeField m.options ++ " 0 0".toList)) := by
    simp [Mount.line]
  have hwords : words isSpace
      (escapeField m.device ++ ' ' :: (escapeField m.mountPoint ++ [' ']) ++ rest) =
        escapeField m.device :: escapeField m.mountPoint :: words isSpace rest := by
    have hsplit : escapeField m.device ++ ' ' :: (escapeField m.mountPoint ++ [' ']) ++ rest =
        escapeField m.device ++ ' ' :: (escapeField m.mountPoint ++ ' ' :: rest) := by simp
    rw [hsplit, words_append_cons (by decide), words_append_cons (by decide),
      words_singleton hdeviceNe hdevice, words_singleton hmountPointNe hmountPoint]
    rfl
  refine ⟨words isSpace rest, lines.map (words isSpace), ?_⟩
  rw [rows, hline, hlines, List.map_cons, hwords]

/-- No white space is written in a field that is written as one word. -/
theorem isSpace_of_oneWord {field : String} (h : OneWord field) :
    escapeField field ≠ [] ∧ ∀ c ∈ escapeField field, isSpace c = false := by
  constructor
  · obtain ⟨c, cs, hfield⟩ := List.exists_cons_of_ne_nil fun hnil =>
      h.1 (String.toList_eq_nil_iff.mp hnil)
    rw [escapeField, hfield, List.flatMap_cons]
    exact List.append_ne_nil_of_left_ne_nil
      (List.ne_nil_of_length_pos (length_octalEscape_pos c)) _
  · intro c hc
    obtain ⟨d, hd, hc⟩ := List.mem_flatMap.mp hc
    cases hspace : isSpace d with
    | true =>
      obtain rfl | rfl | rfl := h.2 d hd hspace
      all_goals exact forall_not_of_all (by decide) c hc
    | false =>
      by_cases hbackslash : d = '\\'
      · rw [hbackslash] at hc
        exact forall_not_of_all (by decide) c hc
      · rw [octalEscape_of_ne hspace hbackslash] at hc
        exact List.mem_singleton.mp hc ▸ hspace

/-- No line break is written in a field that is written on one line. -/
theorem isLineBreak_of_oneLine {field : String} (h : OneLine field) :
    ∀ c ∈ escapeField field, isLineBreak c = false := by
  intro c hc
  obtain ⟨d, hd, hc⟩ := List.mem_flatMap.mp hc
  by_cases hnewline : d = '\n'
  · rw [hnewline] at hc
    exact forall_not_of_all (by decide) c hc
  · have hbreak : isLineBreak d = false := by
      rw [Bool.eq_false_iff]
      exact fun hbreak => hnewline (h d hd hbreak)
    unfold octalEscape at hc
    split_ifs at hc
    case neg => exact List.mem_singleton.mp hc ▸ hbreak
    all_goals exact forall_not_of_all (by decide) c hc

/-- A plain mount is shown exactly if its device begins with the path of the disk, and its mount
point is shown as it is written. -/
theorem shown_of_plain (h : m.Plain) (disk : String) : m.shown disk =
    if devicePath disk <+: escapeField m.device then
      some (String.ofList (escapeField m.mountPoint))
    else none := by
  obtain ⟨hdeviceNe, hdevice⟩ := isSpace_of_oneWord h.device
  obtain ⟨hmountPointNe, hmountPoint⟩ := isSpace_of_oneWord h.mountPoint
  obtain ⟨row, rest, hrows⟩ := exists_rows_line hdevice hdeviceNe hmountPoint hmountPointNe
  obtain ⟨cs, hcs⟩ := exists_line_eq m
  have hline : ∀ c ∈ m.line, isLineBreak c = false := by
    simp only [Mount.line, List.forall_mem_append, List.forall_mem_cons]
    exact ⟨fun c hc => isLineBreak_eq_false (hdevice c hc), by rfl,
      fun c hc => isLineBreak_eq_false (hmountPoint c hc), by rfl,
      isLineBreak_of_oneLine h.fstype, by rfl, isLineBreak_of_oneLine h.options,
      by simp [isLineBreak]⟩
  have hsingle : rows m.line = [words isSpace m.line] := by
    rw [rows, splitLines_singleton hline (by simp [hcs]), List.map_singleton]
  have hrest : rest = [] := (List.cons.inj (hrows.symm.trans hsingle)).2
  rw [Mount.shown, hrows, hrest, List.findSome?_singleton, mountPointIn]
  simp only [List.isPrefixOf_iff_prefix]

theorem shown_of_begins (h : m.Plain) (hbegins : m.Begins disk) :
    m.shown disk = some (String.ofList (escapeField m.mountPoint)) :=
  (shown_of_plain h disk).trans (if_pos hbegins)

/-- The words in the line of a mount are those in its fields, and the two numbers. -/
theorem words_line (m : Mount) : words isSpace m.line =
    words isSpace (escapeField m.device) ++ (words isSpace (escapeField m.mountPoint) ++
      (words isSpace (escapeField m.fstype) ++ (words isSpace (escapeField m.options) ++
        [['0'], ['0']]))) := by
  have hnumbers : words isSpace (escapeField m.options ++ " 0 0".toList) =
      words isSpace (escapeField m.options) ++ [['0'], ['0']] :=
    words_append_cons (c := ' ') (by decide) (escapeField m.options) "0 0".toList
  rw [Mount.line, words_append_cons (by decide), words_append_cons (by decide),
    words_append_cons (by decide), hnumbers]

/-- A mount that is passed over is not shown. -/
theorem shown_of_passed (h : m.Passed disk) : m.shown disk = none := by
  rcases h with hunrelated | ⟨hplain, hbegins⟩
  · rw [Mount.shown, List.findSome?_eq_none_iff]
    intro row hrow
    obtain ⟨line, hline, rfl⟩ := List.mem_map.mp hrow
    cases hwords : words isSpace line with
    | nil => rfl
    | cons word row =>
      have hword : word ∈ words isSpace m.line := by
        rw [← flatMap_words_splitLines]
        exact List.mem_flatMap.mpr ⟨line, hline, hwords ▸ List.mem_cons_self⟩
      have hnot : ¬ devicePath disk <+: word := by
        simp only [Mount.Unrelated, List.forall_mem_cons] at hunrelated
        obtain ⟨hdevice, hmountPoint, hfstype, hoptions, -⟩ := hunrelated
        rw [words_line] at hword
        simp only [List.mem_append] at hword
        rcases hword with hword | hword | hword | hword | hword
        · exact hdevice word hword
        · exact hmountPoint word hword
        · exact hfstype word hword
        · exact hoptions word hword
        · intro hprefix
          have hlength := hprefix.length_le
          have hone : word.length = 1 := by
            simp only [List.mem_cons, List.not_mem_nil, or_false, or_self] at hword
            rw [hword]
            rfl
          simp [devicePath, hone] at hlength
      cases row with
      | nil => rfl
      | cons mountPoint row =>
        rw [mountPointIn, if_neg fun hprefix => hnot (List.isPrefixOf_iff_prefix.mp hprefix)]
  · exact (shown_of_plain hplain disk).trans (if_neg hbegins)

/-- A mount of the disk is shown with its mount point as it is written, if no white space is written
in it. -/
theorem shown_of_legible (h : m.IsOf disk) (hdisk : Legible disk.toList)
    (hne : escapeField m.mountPoint ≠ [])
    (hspace : ∀ c ∈ escapeField m.mountPoint, isSpace c = false) :
    m.shown disk = some (String.ofList (escapeField m.mountPoint)) := by
  obtain ⟨hbegins, hlegible⟩ := device_of_isOf h hdisk
  rw [← escapeField_of_legible hlegible] at hbegins
  have hdeviceNe : escapeField m.device ≠ [] := by
    intro hnil
    rw [hnil] at hbegins
    exact absurd (List.prefix_nil.mp hbegins) (List.append_ne_nil_of_left_ne_nil (by decide) _)
  obtain ⟨row, rest, hrows⟩ := exists_rows_line
    (isSpace_escapeField fun c hc => (hlegible c hc).1) hdeviceNe hspace hne
  rw [Mount.shown, hrows, List.findSome?_cons, mountPointIn,
    if_pos (List.isPrefixOf_iff_prefix.mpr hbegins)]

/-- What is shown is a word. -/
theorem isWord_of_shown (h : m.shown disk = some mountPoint) :
    mountPoint.toList ≠ [] ∧ ∀ c ∈ mountPoint.toList, isSpace c = false := by
  obtain ⟨row, hrow, hfound⟩ := List.exists_of_findSome?_eq_some h
  obtain ⟨line, -, rfl⟩ := List.mem_map.mp hrow
  cases hwords : words isSpace line with
  | nil => rw [hwords] at hfound; cases hfound
  | cons device row =>
    cases row with
    | nil => rw [hwords] at hfound; cases hfound
    | cons word row =>
      rw [hwords, mountPointIn] at hfound
      split_ifs at hfound
      have hword : word ∈ words isSpace line := by
        rw [hwords]
        simp
      rw [← Option.some.inj hfound, String.toList_ofList]
      exact mem_words hword

theorem exists_shown (h : table.findSome? (·.shown disk) = some mountPoint) :
    ∃ m ∈ table, m.shown disk = some mountPoint :=
  List.exists_of_findSome?_eq_some h

/-- A mount of the disk at the beginning is found rightly exactly if its mount point is legible. -/
theorem findSome?_shown_of_isOf (h : m.IsOf disk) (hdisk : Legible disk.toList) :
    (m :: table).findSome? (·.shown disk) = some m.mountPoint ↔
      m.mountPoint ≠ "" ∧ Legible m.mountPoint.toList := by
  constructor
  · intro hfound
    obtain ⟨m', -, hshown⟩ := exists_shown hfound
    obtain ⟨hne, hspace⟩ := isWord_of_shown hshown
    refine ⟨fun hempty => hne (by rw [hempty]; rfl), fun c hc => ⟨hspace c hc, ?_⟩⟩
    rintro rfl
    have hlength := length_lt_escapeField hc
    have hfirst := shown_of_legible h hdisk
      (List.ne_nil_of_length_pos (Nat.zero_lt_of_lt hlength)) (isSpace_escapeField hspace)
    rw [List.findSome?_cons, hfirst] at hfound
    have hsame := congrArg String.toList (Option.some.inj hfound)
    rw [String.toList_ofList] at hsame
    rw [hsame] at hlength
    exact lt_irrefl _ hlength
  · rintro ⟨hne, hlegible⟩
    have hwritten := escapeField_of_legible hlegible
    have hshown := shown_of_legible h hdisk
      (by rw [hwritten]; exact fun hnil => hne (String.toList_eq_nil_iff.mp hnil))
      (fun c hc => (hlegible c (hwritten ▸ hc)).1)
    rw [hwritten, String.ofList_toList] at hshown
    rw [List.findSome?_cons, hshown]

/-! ### Finding the right mount point -/

theorem firstOf_cons_of_isOf (h : m.IsOf disk) : firstOf disk (m :: table) = some m :=
  List.find?_cons_of_pos (by simpa using h)

theorem mountPointOf_cons_of_not (h : ¬ m.IsOf disk) :
    mountPointOf disk (m :: table) = mountPointOf disk table := by
  rw [mountPointOf, firstOf, List.find?_cons_of_neg (by simpa using h), mountPointOf, firstOf]

/-- In a coincidence the right mount point is shown. -/
theorem findSome?_shown_of_coincides (h : Coincides disk table) :
    table.findSome? (·.shown disk) = mountPointOf disk table := by
  obtain ⟨before, a, after, b, rfl, hbefore, hplain, hbegins, hfirst, hsame⟩ := h
  have hnone : before.findSome? (·.shown disk) = none :=
    List.findSome?_eq_none_iff.mpr fun m hm => shown_of_passed (hbefore m hm)
  have hshown : a.shown disk = some b.mountPoint := by
    rw [shown_of_begins hplain hbegins, hsame, String.ofList_toList]
  rw [mountPointOf, hfirst, List.findSome?_append, hnone, Option.none_or, List.findSome?_cons,
    hshown, Option.map_some]

/-- Where the mount point of the disk is found rightly, it is what is shown first. The induction is
on the table: the mounts that are passed over are not shown. -/
theorem findSome?_shown_of_foundRightly (h : FoundRightly disk table) :
    table.findSome? (·.shown disk) = mountPointOf disk table := by
  induction table with
  | nil => rfl
  | cons m table ih =>
    rcases h with ⟨hof, hdisk, hlegible⟩ | ⟨hnot, hpassed, hrest⟩ | hcoincides
    · rw [(findSome?_shown_of_isOf hof hdisk).mpr hlegible, mountPointOf, firstOf_cons_of_isOf hof,
        Option.map_some]
    · rw [mountPointOf_cons_of_not hnot, List.findSome?_cons, shown_of_passed hpassed, ih hrest]
    · exact findSome?_shown_of_coincides hcoincides

/-- Every mount of the table is plain, or has nothing to do with the disk. -/
def Ordinary (disk : String) (table : List Mount) : Prop :=
  ∀ m ∈ table, m.Plain ∨ m.Unrelated disk

/-- A mount of such a table that is not passed over begins with the path of the disk. -/
theorem plain_of_not_passed (h : m.Plain ∨ m.Unrelated disk) (hnot : ¬ m.Passed disk) :
    m.Plain ∧ m.Begins disk := by
  obtain ⟨hunrelated, hplain⟩ := not_or.mp hnot
  have hm := h.resolve_right hunrelated
  exact ⟨hm, not_not.mp fun hbegins => hplain ⟨hm, hbegins⟩⟩

/-- In such a table, what is shown first is the mount point of the first mount that is not passed
over, as it is written. -/
theorem exists_of_findSome?_shown (hordinary : Ordinary disk table)
    (h : table.findSome? (·.shown disk) = some mountPoint) :
    ∃ before a after, table = before ++ a :: after ∧ (∀ m ∈ before, m.Passed disk) ∧
      a.Plain ∧ a.Begins disk ∧ escapeField a.mountPoint = mountPoint.toList := by
  rcases forall_or_exists_first (·.Passed disk) table with
    hall | ⟨before, a, after, htable, hbefore, hnot⟩
  · have hnone : table.findSome? (·.shown disk) = none :=
      List.findSome?_eq_none_iff.mpr fun m hm => shown_of_passed (hall m hm)
    rw [hnone] at h
    cases h
  · obtain ⟨hplain, hbegins⟩ :=
      plain_of_not_passed (hordinary a (htable ▸ List.mem_append_right _ List.mem_cons_self)) hnot
    have hnone : before.findSome? (·.shown disk) = none :=
      List.findSome?_eq_none_iff.mpr fun m hm => shown_of_passed (hbefore m hm)
    rw [htable, List.findSome?_append, hnone, Option.none_or, List.findSome?_cons,
      shown_of_begins hplain hbegins] at h
    refine ⟨before, a, after, htable, hbefore, hplain, hbegins, ?_⟩
    rw [← Option.some.inj h, String.toList_ofList]

/-- In such a table the mount point of the disk is what is shown first only if it is found
rightly. -/
theorem foundRightly_of_findSome?_shown (hordinary : Ordinary disk table)
    (h : table.findSome? (·.shown disk) = mountPointOf disk table) : FoundRightly disk table := by
  induction table with
  | nil => trivial
  | cons m table ih =>
    obtain ⟨hm, hrest⟩ := List.forall_mem_cons.mp hordinary
    by_cases hskipped : ¬ m.IsOf disk ∧ m.Passed disk
    · rw [mountPointOf_cons_of_not hskipped.1, List.findSome?_cons,
        shown_of_passed hskipped.2] at h
      exact Or.inr (Or.inl ⟨hskipped.1, hskipped.2, ih hrest h⟩)
    · -- There is an answer and a right one, and they are the same.
      refine Or.inr (Or.inr ?_)
      obtain ⟨right, hright⟩ : ∃ right, mountPointOf disk (m :: table) = some right := by
        by_cases hof : m.IsOf disk
        · exact ⟨m.mountPoint, by rw [mountPointOf, firstOf_cons_of_isOf hof, Option.map_some]⟩
        · obtain ⟨hplain, hbegins⟩ := plain_of_not_passed hm fun hpassed => hskipped ⟨hof, hpassed⟩
          rw [List.findSome?_cons, shown_of_begins hplain hbegins] at h
          exact ⟨_, h.symm⟩
      obtain ⟨before, a, after, htable, hbefore, hplain, hbegins, hsame⟩ :=
        exists_of_findSome?_shown hordinary (h.trans hright)
      obtain ⟨b, hb, rfl⟩ := Option.map_eq_some_iff.mp hright
      exact ⟨before, a, after, b, htable, hbefore, hplain, hbegins, hb, hsame⟩

theorem looksUp_iff_shown (disk : String) (table : List Mount) :
    LooksUp disk table ↔ table.findSome? (·.shown disk) = mountPointOf disk table := by
  refine ⟨fun h => ?_, fun h => ?_⟩
  · have hreturns := h.returns
    rw [findMountedPartition_renderMounts] at hreturns
    exact Except.ok.inj hreturns
  · have hreturns : findMountedPartition (some (renderMounts table).toUTF8.data.toList) disk =
        .ok (mountPointOf disk table) := by
      rw [findMountedPartition_renderMounts, h]
    refine ⟨hreturns, fun mountPoint hfound => ?_⟩
    have hright : mountPointOf disk table = some mountPoint :=
      Except.ok.inj (hreturns.symm.trans hfound)
    obtain ⟨m, hm, rfl⟩ := Option.map_eq_some_iff.mp hright
    exact ⟨m, List.mem_of_find?_eq_some hm, by simpa using List.find?_some hm, rfl⟩

/-- The mount point of a disk is looked up if the mounts of other disks are passed over and the
first one that is not is of the disk and legible, or there is a coincidence; in an ordinary table
only then. -/
theorem looksUp_of_foundRightly (disk : String) (table : List Mount) :
    (FoundRightly disk table → LooksUp disk table) ∧
      (Ordinary disk table → (LooksUp disk table ↔ FoundRightly disk table)) := by
  have hright : FoundRightly disk table → LooksUp disk table := fun h =>
    (looksUp_iff_shown disk table).mpr (findSome?_shown_of_foundRightly h)
  exact ⟨hright, fun hordinary => ⟨fun h =>
    foundRightly_of_findSome?_shown hordinary ((looksUp_iff_shown disk table).mp h), hright⟩⟩

/-- A stick whose name begins with that of another disk. -/
def otherStick : Mount where
  device := "/dev/sdaa1"
  mountPoint := "/media/other"
  fstype := "vfat"
  options := "rw"

/-- A stick with a space in its label. -/
def labelledStick : Mount where
  device := "/dev/sdb1"
  mountPoint := "/media/My Stick"
  fstype := "vfat"
  options := "rw"

/-- A stick whose mount point can be read. -/
def plainStick : Mount where
  device := "/dev/sdb1"
  mountPoint := "/media/stick"
  fstype := "vfat"
  options := "rw"

/-- The mount of the other disk is passed over, and the stick is found. -/
theorem looksUp_plainStick : LooksUp "sdb" [otherStick, plainStick] ∧
    findMountedPartition (some (renderMounts [otherStick, plainStick]).toUTF8.data.toList) "sdb" =
      .ok (some "/media/stick") := by
  have hdisk : Legible "sdb".toList := by simp [Legible, isSpace]
  have hmountPoint : Legible "/media/stick".toList := by simp [Legible, isSpace]
  have hother : ¬ otherStick.IsOf "sdb" := fun h => absurd (device_of_isOf h hdisk).1 (by decide)
  have hunrelated : otherStick.Unrelated "sdb" := by
    simp only [Mount.Unrelated]
    decide +kernel
  have hplain : plainStick.IsOf "sdb" := Or.inr ⟨1, by decide⟩
  have hright : FoundRightly "sdb" [otherStick, plainStick] :=
    Or.inr (Or.inl ⟨hother, Or.inl hunrelated, Or.inl ⟨hplain, hdisk, by decide, hmountPoint⟩⟩)
  have hlooksUp := (looksUp_of_foundRightly "sdb" [otherStick, plainStick]).1 hright
  refine ⟨hlooksUp, hlooksUp.returns.trans ?_⟩
  rw [mountPointOf_cons_of_not hother, mountPointOf, firstOf_cons_of_isOf hplain]
  rfl

theorem not_isOf_otherStick : ¬ otherStick.IsOf "sda" := by
  rintro (h | ⟨n, h⟩)
  · exact absurd h (by decide)
  · have hdevice : otherStick.device.toList =
        "/dev/".toList ++ ("sda".toList ++ 'a' :: ['1']) := by decide
    rw [hdevice, partitionPath_eq, List.append_cancel_left_eq, List.append_cancel_left_eq,
      partitionSuffix, if_neg (by decide), List.nil_append] at h
    have ha : 'a' ∈ Nat.toDigits 10 n := h ▸ List.mem_cons_self
    exact absurd (Nat.isDigit_of_mem_toDigits (by decide) (by decide) ha) (by decide)

/-- The stick is found for the other disk, and the label as it is written. -/
theorem not_looksUp : ¬ LooksUp "sda" [otherStick] ∧ ¬ LooksUp "sdb" [labelledStick] := by
  constructor
  · intro h
    have hfound : findMountedPartition (some (renderMounts [otherStick]).toUTF8.data.toList) "sda" =
        .ok (some "/media/other") := by
      have hshown : [otherStick].findSome? (·.shown "sda") = some "/media/other" := by
        decide +kernel
      rw [findMountedPartition_renderMounts, hshown]
    obtain ⟨m, hm, hof, -⟩ := h.isOf _ hfound
    exact not_isOf_otherStick (List.mem_singleton.mp hm ▸ hof)
  · intro h
    have hfound : findMountedPartition (some (renderMounts [labelledStick]).toUTF8.data.toList)
        "sdb" = .ok (some "/media/My\\040Stick") := by
      have hshown : [labelledStick].findSome? (·.shown "sdb") = some "/media/My\\040Stick" := by
        decide +kernel
      rw [findMountedPartition_renderMounts, hshown]
    obtain ⟨m, hm, -, hmountPoint⟩ := h.isOf _ hfound
    rw [List.mem_singleton.mp hm] at hmountPoint
    exact absurd hmountPoint (by decide)

end ClassroomSuite.Inventory
