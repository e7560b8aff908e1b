import ClassroomSuite.Platform.Filesystem.Adapter

/-!
# The classification of the lines

What a line is depends on its words and on how many of its six numbers can be read. The parser looks
for the columns in two splits, and stops at the first line that offends; the classification here
speaks of all words of a line and of all lines of a text.

Source: `cli/src/bcs/platform/adapters/filesystem/parser.py`,
`cli/src/bcs/platform/adapters/filesystem/adapter.py`.

## Main definitions

* `columnsOf`, `usageOf`: the columns of a line with nine positions, and its record.
* `IsShort`, `IsPartial`, `Offends`, `OffenceOf`, `FirstOffence`.
* `Classified`, `Concluded`: what the parser makes of a text, and the adapter of a result.

## Main results

* `splitColumns_strip`, `parseLine_eq`.
* `classified_and_concluded`.
-/

namespace ClassroomSuite.Platform.Filesystem

open Python Library

variable (rt : TextRuntime) (numerals : Numerals)

/-! ### What a line is -/

/-- A count of inodes, if the token is one. -/
def inodeOf (token : List Char) : Option (Option ℕ) :=
  if token = ['-'] then some none
  else if numerals.isNumber token then some (some (numerals.number token)) else none

/-- A count of bytes, if the token is one. -/
def byteOf (token : List Char) : Option ℕ :=
  if numerals.isNumber token then some (numerals.number token) else none

/-- The numbers that the columns are. -/
def Columns.numbers (columns : Columns) : Numbers where
  itotal := inodeOf numerals columns.itotal
  iused := inodeOf numerals columns.iused
  iavail := inodeOf numerals columns.iavail
  size := byteOf numerals columns.size
  used := byteOf numerals columns.used
  avail := byteOf numerals columns.avail

/-- The columns that are to be numbers. -/
def Columns.numericTokens (columns : Columns) : List (List Char) :=
  [columns.itotal, columns.iused, columns.iavail, columns.size, columns.used, columns.avail]

/-- The columns of a line with nine positions: the first eight words, and all that follows them. -/
def columnsOf (line : List Char) : Option Columns :=
  match words isSpace line with
  | source :: fsType :: itotal :: iused :: iavail :: size :: used :: avail :: _ :: _ =>
    some { source, fsType, itotal, iused, iavail, size, used, avail,
           target := afterWords isSpace 8 (strip isSpace line) }
  | _ => none

/-- The numeric columns by name, and whether what is in them is valid. -/
def Columns.validity (columns : Columns) : List (String × Bool) := [
  ("itotal", (inodeOf numerals columns.itotal).isSome),
  ("iused", (inodeOf numerals columns.iused).isSome),
  ("iavail", (inodeOf numerals columns.iavail).isSome),
  ("size", (byteOf numerals columns.size).isSome),
  ("used", (byteOf numerals columns.used).isSome),
  ("avail", (byteOf numerals columns.avail).isSome)]

/-- The record of a line with nine positions of which all six numbers are valid: every field is that
of its own word, the mount point is all that follows the first eight words, and the line is kept. -/
def usageOf (line : List Char) : Option FilesystemUsage :=
  match words isSpace line with
  | source :: fsType :: itotal :: iused :: iavail :: size :: used :: avail :: _ :: _ => do
    let inodesTotal ← inodeOf numerals itotal
    let inodesUsed ← inodeOf numerals iused
    let inodesAvailable ← inodeOf numerals iavail
    let sizeBytes ← byteOf numerals size
    let usedBytes ← byteOf numerals used
    let availableBytes ← byteOf numerals avail
    return {
      source := String.ofList source
      target := String.ofList (afterWords isSpace 8 (strip isSpace line))
      fsType := String.ofList fsType
      sizeBytes, usedBytes, availableBytes, inodesTotal, inodesUsed, inodesAvailable
      rawLine := String.ofList line }
  | _ => none

/-- The numbers of the line have no more digits than the limit. -/
def NumbersFit (line : List Char) : Prop :=
  ∀ columns, columnsOf line = some columns → ∀ token ∈ columns.numericTokens,
    numerals.isNumber token = true → numerals.fits token = true

/-- The line is not blank and has fewer than nine positions. -/
def IsShort (line : List Char) : Prop :=
  words isSpace line ≠ [] ∧ (words isSpace line).length < 9

/-- The line has nine positions, and of its six numbers some but not all are valid. -/
def IsPartial (line : List Char) : Prop :=
  ∃ columns, columnsOf line = some columns ∧
    1 ≤ (columns.validity numerals).countP (·.2) ∧ (columns.validity numerals).countP (·.2) ≤ 5

/-- A line that the parser refuses. -/
def Offends (line : List Char) : Prop := IsShort line ∨ IsPartial numerals line

/-- The error says that the line is short, or that the field is the first of its columns that is not
valid. -/
def OffenceOf (line : List Char) (number : ℕ) (e : PyError) : Prop :=
  (IsShort line ∧ e = .valueError ("malformed row (line " ++ toString number ++ "): " ++
      rt.repr (String.ofList line))) ∨
    ∃ columns field, columnsOf line = some columns ∧ IsPartial numerals line ∧
      (columns.validity numerals).find? (fun column => !column.2) = some (field, false) ∧
      e = .valueError ("malformed " ++ field ++ " line (line " ++ toString number ++ "): " ++
        rt.repr (String.ofList line))

/-- The error is that of the first line that offends. -/
def FirstOffence (lines : List (List Char)) (e : PyError) : Prop :=
  ∃ before line after, lines = before ++ line :: after ∧ (∀ l ∈ before, ¬ Offends numerals l) ∧
    OffenceOf rt numerals line (before.length + 1) e

/-- What the parser makes of a text. -/
structure Classified (text : String) : Prop where
  returns : (∃ report, parseFilesystemUsage rt numerals text = .ok report) ↔
    ∀ line ∈ splitLines text.toList, ¬ Offends numerals line
  report : ∀ report, parseFilesystemUsage rt numerals text = .ok report → report =
    { filesystems := (splitLines text.toList).filterMap (usageOf numerals), rawText := text }
  error : ∀ e, parseFilesystemUsage rt numerals text = .error e →
    e.isValueError = true ∧ FirstOffence rt numerals (splitLines text.toList) e

/-! ### The columns of a line -/

theorem splitColumns_of_length_le {cs : List Char} (h : (words isSpace cs).length ≤ 7) :
    splitColumns cs = none := by
  have hsplit : splitWords isSpace 7 cs = words isSpace cs := by
    simp [splitWords_eq, afterWords_eq_nil_iff.mpr h, List.take_of_length_le h]
  rw [splitColumns, hsplit]
  split
  · next heq => simp [heq] at h
  · rfl

theorem columnsOf_of_length_lt {line : List Char} (h : (words isSpace line).length < 9) :
    columnsOf line = none := by
  rw [columnsOf]
  split
  · next heq =>
    simp only [heq, List.length_cons] at h
    omega
  · rfl

/-- The first eight of at least as many words. -/
theorem exists_eight {α : Type} {ws : List α} (h : ¬ ws.length ≤ 7) :
    ∃ source fsType itotal iused iavail size used avail rest, ws =
      source :: fsType :: itotal :: iused :: iavail :: size :: used :: avail :: rest := by
  rcases ws with _ | ⟨source, _ | ⟨fsType, _ | ⟨itotal, _ | ⟨iused, _ | ⟨iavail, _ |
    ⟨size, _ | ⟨used, _ | ⟨avail, rest⟩⟩⟩⟩⟩⟩⟩⟩
  iterate 8 (· simp at h)
  exact ⟨source, fsType, itotal, iused, iavail, size, used, avail, rest, rfl⟩

/-- The two splits of the parser find the columns. -/
theorem splitColumns_strip (line : List Char) :
    splitColumns (strip isSpace line) = columnsOf line := by
  by_cases h : (words isSpace line).length ≤ 7
  · rw [splitColumns_of_length_le (by rwa [words_strip]), columnsOf_of_length_lt (by omega)]
  · obtain ⟨source, fsType, itotal, iused, iavail, size, used, avail, rest, hwords⟩ :=
      exists_eight h
    have hstrip : words isSpace (strip isSpace line) =
        source :: fsType :: itotal :: iused :: iavail :: size :: used :: avail :: rest := by
      rw [words_strip, hwords]
    have hremainder : afterWords isSpace 7 (strip isSpace line) ≠ [] := by
      simp [afterWords_eq_nil_iff, hstrip]
    have hfirst : splitWords isSpace 7 (strip isSpace line) =
        [source, fsType, itotal, iused, iavail, size, used,
          afterWords isSpace 7 (strip isSpace line)] := by
      simp [splitWords_eq, hstrip, hremainder]
    have hsecond : splitWords isSpace 1 (afterWords isSpace 7 (strip isSpace line)) = avail ::
        if (afterWords isSpace 8 (strip isSpace line)).isEmpty then []
        else [afterWords isSpace 8 (strip isSpace line)] := by
      rw [splitWords_eq, words_afterWords, hstrip, afterWords_afterWords]
      simp only [List.drop_succ_cons, List.drop_zero, List.take_succ_cons, List.take_zero,
        List.cons_append, List.nil_append]
    have hend : afterWords isSpace 8 (strip isSpace line) = [] ↔ rest = [] := by
      rw [afterWords_eq_nil_iff, hstrip, ← List.length_eq_zero_iff]
      simp only [List.length_cons]
      omega
    rw [splitColumns, hfirst]
    dsimp only
    rw [hsecond, columnsOf, hwords]
    cases rest with
    | nil => simp [hend.mpr rfl]
    | cons w rest =>
      have hne : afterWords isSpace 8 (strip isSpace line) ≠ [] := fun h =>
        List.cons_ne_nil w rest (hend.mp h)
      simp [hne]

/-- Only a line with fewer than nine positions has no columns. -/
theorem columnsOf_eq_none_iff {line : List Char} :
    columnsOf line = none ↔ (words isSpace line).length < 9 := by
  refine ⟨fun h => ?_, columnsOf_of_length_lt⟩
  rw [columnsOf] at h
  split at h
  · cases h
  · next hne =>
    by_contra hlength
    have hlong : ¬ (words isSpace line).length ≤ 7 := by omega
    obtain ⟨_, _, _, _, _, _, _, _, rest, hwords⟩ := exists_eight hlong
    cases rest with
    | nil => simp [hwords] at hlength
    | cons w rest => exact hne _ _ _ _ _ _ _ _ _ _ hwords

/-! ### One line -/

/-- The record is made of the columns. -/
theorem usageOf_eq (line : List Char) : usageOf numerals line =
    (columnsOf line).bind fun columns => columns.usage (columns.numbers numerals) line := by
  rw [usageOf, columnsOf]
  generalize words isSpace line = ws
  rcases ws with _ | ⟨_, _ | ⟨_, _ | ⟨_, _ | ⟨_, _ | ⟨_, _ | ⟨_, _ | ⟨_, _ | ⟨_, _ | ⟨_, _⟩⟩⟩⟩⟩⟩⟩⟩⟩
  iterate 9 (· rfl)
  simp only [Option.bind_some, Columns.usage, Columns.numbers]

theorem Columns.fields_numbers (columns : Columns) :
    (columns.numbers numerals).fields = columns.validity numerals := rfl

/-- Of columns that are not all valid, the parser names the first. -/
theorem Columns.find?_failedField {columns : Columns}
    (h : (columns.validity numerals).countP (·.2) ≤ 5) :
    (columns.validity numerals).find? (fun column => !column.2) =
      some ((columns.numbers numerals).failedField, false) := by
  rw [Numbers.failedField, columns.fields_numbers]
  cases hfind : (columns.validity numerals).find? (fun column => !column.2) with
  | none =>
    have hall : (columns.validity numerals).countP (·.2) = (columns.validity numerals).length :=
      List.countP_eq_length.mpr fun column hcolumn => by
        simpa using List.find?_eq_none.mp hfind column hcolumn
    rw [hall] at h
    exact absurd h (show ¬ 6 ≤ 5 by decide)
  | some column =>
    have hfalse : column.2 = false := by simpa using List.find?_some hfind
    rw [Option.map_some, Option.getD_some, ← hfalse]

/-- Without a number there is no record. -/
theorem Columns.usage_of_successes_eq_zero {numbers : Numbers} (columns : Columns)
    (line : List Char) (h : numbers.successes = 0) : columns.usage numbers line = none := by
  have hitotal := List.countP_eq_zero.mp h _ List.mem_cons_self
  rw [Bool.not_eq_true, Option.isSome_eq_false_iff, Option.isNone_iff_eq_none] at hitotal
  simp [usage, hitotal]

/-- With a record there are all six. -/
theorem Columns.successes_of_usage {columns : Columns} {numbers : Numbers} {line : List Char}
    {usage : FilesystemUsage} (h : columns.usage numbers line = some usage) :
    numbers.successes = 6 := by
  simp only [Columns.usage, Option.bind_eq_bind, Option.bind_eq_some_iff] at h
  obtain ⟨_, hitotal, _, hiused, _, hiavail, _, hsize, _, hused, _, havail, -⟩ := h
  simp [Numbers.successes, Numbers.fields, hitotal, hiused, hiavail, hsize, hused, havail]

section Conversion

variable {numerals} {token : List Char}

theorem tryParseInodeField_eq
    (h : numerals.isNumber token = true → numerals.fits token = true) :
    tryParseInodeField numerals token = .ok (inodeOf numerals token) := by
  rw [tryParseInodeField, inodeOf]
  split_ifs with hdash hnumber
  · rfl
  · rw [Numerals.int_of_fits (h hnumber), ok_bind]
    rfl
  · rfl

theorem tryParseByteField_eq
    (h : numerals.isNumber token = true → numerals.fits token = true) :
    tryParseByteField numerals token = .ok (byteOf numerals token) := by
  rw [tryParseByteField, byteOf]
  split_ifs with hnumber
  · rw [Numerals.int_of_fits (h hnumber), ok_bind]
    rfl
  · rfl

/-- Numbers within the limit are read. -/
theorem Columns.parseNumbers_eq {columns : Columns} (h : ∀ token ∈ columns.numericTokens,
    numerals.isNumber token = true → numerals.fits token = true) :
    columns.parseNumbers numerals = .ok (columns.numbers numerals) := by
  simp only [numericTokens, List.forall_mem_cons] at h
  obtain ⟨hitotal, hiused, hiavail, hsize, hused, havail, -⟩ := h
  rw [parseNumbers, tryParseInodeField_eq hitotal, tryParseInodeField_eq hiused,
    tryParseInodeField_eq hiavail, tryParseByteField_eq hsize, tryParseByteField_eq hused,
    tryParseByteField_eq havail]
  rfl

theorem not_unhandled_tryParseInodeField :
    ¬ Raises PyError.Unhandled (tryParseInodeField numerals token) := by
  rw [tryParseInodeField]
  split_ifs
  · exact not_raises_ok _ _
  · rw [raises_bind_pure_iff]
    exact Numerals.not_unhandled_int token
  · exact not_raises_ok _ _

theorem not_unhandled_tryParseByteField :
    ¬ Raises PyError.Unhandled (tryParseByteField numerals token) := by
  rw [tryParseByteField]
  split_ifs
  · rw [raises_bind_pure_iff]
    exact Numerals.not_unhandled_int token
  · exact not_raises_ok _ _

end Conversion

/-- What a line is by its words is what it is for the parser. -/
theorem parseLine_eq {line : List Char} (h : NumbersFit numerals line) (number : ℕ) :
    parseLine rt numerals line number =
      if words isSpace line = [] then .ok none
      else match columnsOf line with
        | none => .error (malformedRow rt line number)
        | some columns =>
          if (columns.numbers numerals).successes = 0 then .ok none
          else if (columns.numbers numerals).successes < 6 then
            .error (malformedField rt (columns.numbers numerals).failedField line number)
          else .ok (columns.usage (columns.numbers numerals) line) := by
  rw [parseLine, splitColumns_strip]
  simp only [List.isEmpty_iff, strip_eq_nil_iff]
  cases hcolumns : columnsOf line with
  | none => rfl
  | some columns =>
    dsimp only
    rw [Columns.parseNumbers_eq (h columns hcolumns), ok_bind]
    rfl

variable {numerals}

/-- A line that has a record does not offend. -/
theorem not_offends_of_usageOf {line : List Char} {usage : FilesystemUsage}
    (h : usageOf numerals line = some usage) : ¬ Offends numerals line := by
  rw [usageOf_eq] at h
  obtain ⟨columns, hcolumns, husage⟩ := Option.bind_eq_some_iff.mp h
  rintro (⟨-, hlength⟩ | ⟨columns', hcolumns', -, hfive⟩)
  · rw [columnsOf_of_length_lt hlength] at hcolumns
    cases hcolumns
  · obtain rfl := Option.some.inj (hcolumns.symm.trans hcolumns')
    have hsix := Columns.successes_of_usage husage
    rw [Numbers.successes, columns.fields_numbers] at hsix
    omega

theorem parseLine_of_not_offends {line : List Char} (hfit : NumbersFit numerals line)
    (h : ¬ Offends numerals line) (number : ℕ) :
    parseLine rt numerals line number = .ok (usageOf numerals line) := by
  obtain ⟨hshort, hpartial⟩ := not_or.mp h
  rw [parseLine_eq rt numerals hfit, usageOf_eq]
  by_cases hblank : words isSpace line = []
  · rw [if_pos hblank, columnsOf_of_length_lt (by simp [hblank]), Option.bind_none]
  · rw [if_neg hblank]
    cases hcolumns : columnsOf line with
    | none => exact absurd ⟨hblank, columnsOf_eq_none_iff.mp hcolumns⟩ hshort
    | some columns =>
      dsimp only
      rw [Option.bind_some]
      split_ifs with hzero hall
      · rw [columns.usage_of_successes_eq_zero line hzero]
      · rw [Numbers.successes, columns.fields_numbers] at hzero hall
        exact absurd ⟨columns, hcolumns, by omega, by omega⟩ hpartial
      · rfl

/-- A line that offends is an error: that of a short row, or of the first number that is not
valid. -/
theorem parseLine_of_offends {line : List Char} (hfit : NumbersFit numerals line)
    (h : Offends numerals line) (number : ℕ) :
    ∃ e, parseLine rt numerals line number = .error e ∧ OffenceOf rt numerals line number e := by
  rw [parseLine_eq rt numerals hfit]
  rcases h with hshort | hpartial
  · obtain ⟨hblank, hlength⟩ := hshort
    refine ⟨malformedRow rt line number, ?_, Or.inl ⟨⟨hblank, hlength⟩, rfl⟩⟩
    rw [if_neg hblank, columnsOf_of_length_lt hlength]
  · obtain ⟨columns, hcolumns, hone, hfive⟩ := hpartial
    have hblank : words isSpace line ≠ [] := fun hnil => by
      rw [columnsOf_of_length_lt (by simp [hnil])] at hcolumns
      cases hcolumns
    refine ⟨malformedField rt (columns.numbers numerals).failedField line number, ?_,
      Or.inr ⟨columns, _, hcolumns, ⟨columns, hcolumns, hone, hfive⟩,
        columns.find?_failedField numerals hfive, rfl⟩⟩
    rw [if_neg hblank, hcolumns]
    dsimp only
    rw [Numbers.successes, columns.fields_numbers, if_neg (by omega), if_pos (by omega)]

/-! ### The text -/

variable {text : String}

/-- Where no line offends, there is one record for each line that has one. -/
theorem parseFilesystemUsage_of_forall
    (hfit : ∀ line ∈ splitLines text.toList, NumbersFit numerals line)
    (h : ∀ line ∈ splitLines text.toList, ¬ Offends numerals line) :
    parseFilesystemUsage rt numerals text = .ok
      { filesystems := (splitLines text.toList).filterMap (usageOf numerals)
        rawText := text } := by
  have hrows : ((splitLines text.toList).zipIdx 1).mapM (fun p => parseLine rt numerals p.1 p.2) =
      .ok ((splitLines text.toList).map (usageOf numerals)) := by
    rw [mapM_eq_ok_iff]
    refine forall₂_zipIdx ?_ 1
    rw [List.forall₂_map_right_iff, List.forall₂_same]
    exact fun line hline => parseLine_of_not_offends rt (hfit line hline) (h line hline)
  have hmap : ((splitLines text.toList).map (usageOf numerals)).reduceOption =
      (splitLines text.toList).filterMap (usageOf numerals) := List.filterMap_map
  rw [parseFilesystemUsage, hrows, ok_bind, hmap]
  rfl

/-- The first line that offends is the error. -/
theorem parseFilesystemUsage_of_first {before after : List (List Char)} {line : List Char}
    (hfit : ∀ line ∈ splitLines text.toList, NumbersFit numerals line)
    (hlines : splitLines text.toList = before ++ line :: after)
    (hbefore : ∀ l ∈ before, ¬ Offends numerals l) (hline : Offends numerals line) :
    ∃ e, parseFilesystemUsage rt numerals text = .error e ∧
      FirstOffence rt numerals (splitLines text.toList) e := by
  rw [hlines, List.forall_mem_append, List.forall_mem_cons] at hfit
  obtain ⟨hfitBefore, hfitLine, -⟩ := hfit
  obtain ⟨e, herror, he⟩ := parseLine_of_offends rt hfitLine hline (before.length + 1)
  refine ⟨e, ?_, before, line, after, hlines, hbefore, he⟩
  obtain ⟨e', hrows, rfl⟩ := (raises_zipIdx_mapM_iff (· = e) (parseLine rt numerals)
    (splitLines text.toList) 1).mpr ⟨before, line, after, hlines, fun p hp =>
      have hmem := List.fst_mem_of_mem_zipIdx hp
      ⟨_, parseLine_of_not_offends rt (hfitBefore _ hmem) (hbefore _ hmem) _⟩,
      e, by rw [Nat.add_comm]; exact herror, rfl⟩
  rw [parseFilesystemUsage, hrows, error_bind]

variable (numerals)

theorem not_unhandled_parseLine (line : List Char) (number : ℕ) :
    ¬ Raises PyError.Unhandled (parseLine rt numerals line number) := by
  rw [parseLine]
  split_ifs
  · exact not_raises_ok _ _
  · cases splitColumns (strip isSpace line) with
    | none => simp [malformedRow]
    | some columns =>
      refine not_raises_bind _ ?_ fun numbers _ => ?_
      · exact not_raises_bind _ not_unhandled_tryParseInodeField fun _ _ =>
          not_raises_bind _ not_unhandled_tryParseInodeField fun _ _ =>
          not_raises_bind _ not_unhandled_tryParseInodeField fun _ _ =>
          not_raises_bind _ not_unhandled_tryParseByteField fun _ _ =>
          not_raises_bind _ not_unhandled_tryParseByteField fun _ _ =>
          not_raises_bind _ not_unhandled_tryParseByteField fun _ _ => not_raises_ok _ _
      · split_ifs
        · exact not_raises_ok _ _
        · simp [malformedField]
        · exact not_raises_ok _ _

/-- The parser raises value errors only, also where a number has too many digits. -/
theorem isValueError_of_parseFilesystemUsage {text : String} {e : PyError}
    (h : parseFilesystemUsage rt numerals text = .error e) : e.isValueError = true := by
  have hnot : ¬ Raises PyError.Unhandled (parseFilesystemUsage rt numerals text) :=
    not_raises_bind _ (not_raises_mapM _ fun _ _ => not_unhandled_parseLine rt numerals _ _)
      fun _ _ => not_raises_ok _ _
  obtain ⟨report, hreport⟩ | ⟨e', he', hvalue⟩ := (not_unhandled_iff _).mp hnot
  · rw [h] at hreport
    cases hreport
  · rw [h] at he'
    cases he'
    exact hvalue

theorem classified {text : String}
    (hfit : ∀ line ∈ splitLines text.toList, NumbersFit numerals line) :
    Classified rt numerals text := by
  rcases forall_or_exists_first (fun line => ¬ Offends numerals line) (splitLines text.toList) with
    h | ⟨before, line, after, hlines, hbefore, hline⟩
  · have hparse := parseFilesystemUsage_of_forall rt hfit h
    refine ⟨iff_of_true ⟨_, hparse⟩ h, fun report hreport => ?_, fun e he => ?_⟩
    · exact Except.ok.inj (hreport.symm.trans hparse)
    · rw [hparse] at he
      cases he
  · obtain ⟨e, hparse, hfirst⟩ :=
      parseFilesystemUsage_of_first rt hfit hlines hbefore (not_not.mp hline)
    refine ⟨iff_of_false ?_ fun h => hline (h line ?_), fun report hreport => ?_, fun e' he' => ?_⟩
    · rintro ⟨report, hreport⟩
      rw [hparse] at hreport
      cases hreport
    · rw [hlines]
      exact List.mem_append_right _ List.mem_cons_self
    · rw [hparse] at hreport
      cases hreport
    · have hvalue := isValueError_of_parseFilesystemUsage rt numerals he'
      obtain rfl := Except.error.inj (hparse.symm.trans he')
      exact ⟨hvalue, hfirst⟩

/-! ### The adapter -/

/-- What the adapter makes of the result of the command: the report with the error output if there
is a record, and otherwise one of three errors. -/
structure Concluded (result : CommandResult) (outcome : Except Raised FilesystemUsageReport) :
    Prop where
  returns : ∀ report, outcome = .ok report ↔
    ∃ parsed, parseFilesystemUsage rt numerals result.stdout = .ok parsed ∧
      parsed.filesystems ≠ [] ∧ report = { parsed with rawStderr := result.stderr }
  malformed : ∀ e, parseFilesystemUsage rt numerals result.stdout = .error e →
    outcome = .error (.platform
      (.adapterParse .filesystem ("Failed to parse df output: " ++ e.str) result.stdout))
  unrecognized : ∀ parsed, parseFilesystemUsage rt numerals result.stdout = .ok parsed →
    parsed.filesystems = [] → result.exitCode = some 0 →
      outcome = .error (.platform (.adapterParse .filesystem
        "df output contained no recognizable filesystem usage data." result.stdout))
  unavailable : ∀ parsed, parseFilesystemUsage rt numerals result.stdout = .ok parsed →
    parsed.filesystems = [] → result.exitCode ≠ some 0 →
      isUnavailable rt unavailablePatterns result.stderr = true →
        outcome = .error (.platform (.adapterUnavailable .filesystem
          "Filesystem usage data is not available in this environment." (some result)))
  failed : ∀ parsed, parseFilesystemUsage rt numerals result.stdout = .ok parsed →
    parsed.filesystems = [] → result.exitCode ≠ some 0 →
      isUnavailable rt unavailablePatterns result.stderr = false →
        outcome = .error (.platform (.adapterError .filesystem
          ("df exited with code " ++ exitCodeStr result.exitCode ++ ".") (some result)))

theorem concluded (result : CommandResult) :
    Concluded rt numerals result (usageOfResult rt numerals result) := by
  unfold usageOfResult
  cases hparse : parseFilesystemUsage rt numerals result.stdout with
  | error e =>
    have hvalue := isValueError_of_parseFilesystemUsage rt numerals hparse
    have houtput : parsedOutput .filesystem "Failed to parse df output: " result.stdout
        (.error e : Except PyError FilesystemUsageReport) = .error (.platform
          (.adapterParse .filesystem ("Failed to parse df output: " ++ e.str) result.stdout)) := by
      simp only [parsedOutput, hvalue, if_true]
    rw [houtput, error_bind]
    constructor <;> simp [hparse]
  | ok parsed =>
    rw [parsedOutput, ok_bind]
    by_cases hrecords : parsed.filesystems = []
    · rw [if_neg (not_not.mpr hrecords)]
      by_cases hcode : result.exitCode = some 0
      · rw [if_neg (not_not.mpr hcode)]
        constructor <;> simp [hparse, hrecords, hcode]
      · rw [if_pos hcode]
        cases hunavailable : isUnavailable rt unavailablePatterns result.stderr <;>
          constructor <;> simp [hparse, hrecords, hcode, hunavailable]
    · rw [if_pos hrecords]
      refine ⟨fun report => ?_, ?_, ?_, ?_, ?_⟩
      · simp [hparse, hrecords, eq_comm (a := report)]
      all_goals simp [hparse, hrecords]

/-- Every text with numbers within the limit is classified line by line, and every result of the
command concluded from what its output is parsed to. -/
theorem classified_and_concluded :
    (∀ text : String, (∀ line ∈ splitLines text.toList, NumbersFit numerals line) →
      Classified rt numerals text) ∧
      ∀ (runner : CommandRunner) (environ : List (String × String)) (timeoutSeconds : Option ℚ)
        (result : CommandResult),
        runner { command := dfCommand, timeoutSeconds, env := plainLocale environ } = .ok result →
          Concluded rt numerals result
            (readFilesystemUsage rt numerals runner environ timeoutSeconds) := by
  refine ⟨fun _ => classified rt numerals, fun runner environ timeoutSeconds result hresult => ?_⟩
  rw [readFilesystemUsage, hresult]
  exact concluded rt numerals result

/-- The tool failed on one filesystem and wrote another. -/
def staleResult : CommandResult where
  command := dfCommand
  stdout := "Filesystem Type Inodes IUsed IFree 1B-blocks Used Avail Mounted on\n" ++
    "/dev/sdb1 vfat - - - 4096 1024 3072 /media/My  Stick\n"
  stderr := "df: /mnt: Stale file handle\n"
  exitCode := some 1
  duration := 0
  startedAt := 0
  finishedAt := 0
  timedOut := false
  command_ne_nil := by decide
  duration_nonneg := by decide
  exitCode_eq_none_iff := by decide
  startedAt_le_finishedAt := by decide

/-- The record in its output. -/
def staleUsage : FilesystemUsage where
  source := "/dev/sdb1"
  target := "/media/My  Stick"
  fsType := "vfat"
  sizeBytes := 4096
  usedBytes := 1024
  availableBytes := 3072
  rawLine := "/dev/sdb1 vfat - - - 4096 1024 3072 /media/My  Stick"

/-- The text is classified, and its record returned with the error output. -/
theorem concluded_stale : Classified asciiText asciiNumerals staleResult.stdout ∧
    readFilesystemUsage asciiText asciiNumerals (fun _ => .ok staleResult) [] = .ok {
      filesystems := [staleUsage]
      rawText := staleResult.stdout
      rawStderr := "df: /mnt: Stale file handle\n" } := by
  obtain ⟨hclassified, hconcluded⟩ := classified_and_concluded asciiText asciiNumerals
  refine ⟨hclassified _ fun line hline columns hcolumns => ?_, ?_⟩
  · have hfit : ∀ line ∈ splitLines staleResult.stdout.toList, ∀ columns ∈ columnsOf line,
        ∀ token ∈ columns.numericTokens, asciiNumerals.isNumber token = true →
          asciiNumerals.fits token = true := by decide +kernel
    exact hfit line hline columns hcolumns
  · have hparsed : parseFilesystemUsage asciiText asciiNumerals staleResult.stdout =
        .ok { filesystems := [staleUsage], rawText := staleResult.stdout } := by decide +kernel
    have hreturns := hconcluded (fun _ => .ok staleResult) [] (some 10) staleResult rfl
    exact (hreturns.returns _).mpr ⟨_, hparsed, List.cons_ne_nil _ _, rfl⟩

end ClassroomSuite.Platform.Filesystem
