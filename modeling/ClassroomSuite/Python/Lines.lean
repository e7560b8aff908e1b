import ClassroomSuite.Library.Raises
import ClassroomSuite.Library.Words
import ClassroomSuite.Python.Json
import ClassroomSuite.Python.Text

/-!
# Lines of a text

The output of tools that write no JSON is read line by line. The white space that separates words
and the characters that end a line are those of the language; a carriage return before a line feed
ends one line with it. Which characters are decimal digits, and their values, depends on the version
of the Unicode tables, of which it matters only that they extend ASCII. A number with more digits
than the interpreter's limit, if one is set, is neither read nor written.

## Main definitions

* `isSpace`, `isLineBreak`, `splitLines`.
* `lineWords`: the words of the lines that have any.
* `Numerals`, `Numerals.isNumber`, `Numerals.int`, `Numerals.str`.

## Main results

* `splitLines_append`, `splitLines_flatMap`, `splitLines_intercalate`: lines that have been written
  are read.
* `splitLines_append_of_last`, `splitLines_universalNewlines`: lines of any text.
* `lineWords_strip`: stripping a text changes no line that has words.
* `Numerals.isNumber_of_str`, `Numerals.int_of_str`: so are numbers.
-/

namespace ClassroomSuite.Python

open Library

/-- White space. -/
def isSpace (c : Char) : Bool :=
  let n := c.toNat
  (9 ≤ n && n ≤ 13) || (0x1C ≤ n && n ≤ 0x20) || n == 0x85 || n == 0xA0 || n == 0x1680 ||
    (0x2000 ≤ n && n ≤ 0x200A) || n == 0x2028 || n == 0x2029 || n == 0x202F || n == 0x205F ||
    n == 0x3000

/-- The characters that end a line. -/
def isLineBreak (c : Char) : Bool :=
  let n := c.toNat
  (10 ≤ n && n ≤ 13) || (0x1C ≤ n && n ≤ 0x1E) || n == 0x85 || n == 0x2028 || n == 0x2029

/-- A character in front of the first line. -/
def consLine (c : Char) : List (List Char) → List (List Char)
  | [] => [[c]]
  | line :: lines => (c :: line) :: lines

/-- The lines of a text, without what ends them. -/
def splitLines : List Char → List (List Char)
  | [] => []
  | '\r' :: '\n' :: cs => [] :: splitLines cs
  | c :: cs => if isLineBreak c then [] :: splitLines cs else consLine c (splitLines cs)

/-- The words of the lines that have any. -/
def lineWords (cs : List Char) : List (List (List Char)) :=
  ((splitLines cs).map (words isSpace)).filter (!·.isEmpty)

example : splitLines "a\r\n\nb".toList = [['a'], [], ['b']] := by decide

/-- Every character that ends a line is white space. -/
theorem isSpace_of_isLineBreak {c : Char} (h : isLineBreak c = true) : isSpace c = true := by
  simp only [isLineBreak, isSpace, Bool.or_eq_true, Bool.and_eq_true, decide_eq_true_eq,
    beq_iff_eq] at h ⊢
  omega

theorem isLineBreak_eq_false {c : Char} (h : isSpace c = false) : isLineBreak c = false := by
  cases hbreak : isLineBreak c with
  | false => rfl
  | true => rw [isSpace_of_isLineBreak hbreak] at h; cases h

/-- A visible character of ASCII is no white space. -/
theorem isSpace_eq_false {c : Char} (hge : 33 ≤ c.toNat) (hle : c.toNat ≤ 126) :
    isSpace c = false := by
  cases hspace : isSpace c with
  | false => rfl
  | true =>
    simp only [isSpace, Bool.or_eq_true, Bool.and_eq_true, decide_eq_true_eq, beq_iff_eq] at hspace
    omega

theorem isSpace_eq_false_of_isDigit {c : Char} (h : c.isDigit = true) : isSpace c = false := by
  obtain ⟨hge, hle⟩ := Char.isDigit_iff_toNat.mp h
  exact isSpace_eq_false (le_trans (by decide) hge) (le_trans hle (by decide))

/-! ### Reading what has been written -/

theorem splitLines_cons {c : Char} (h : isLineBreak c = false) (cs : List Char) :
    splitLines (c :: cs) = consLine c (splitLines cs) := by
  have hc : c ≠ '\r' := by
    rintro rfl
    exact absurd h (by decide)
  rw [splitLines, if_neg (by simp [h])]
  exact fun _ hcr => absurd hcr hc

theorem splitLines_newline (cs : List Char) : splitLines ('\n' :: cs) = [] :: splitLines cs := by
  rw [splitLines, if_pos (by decide)]
  exact fun _ hcr => absurd hcr (by decide)

/-- A line that has been written is read. -/
theorem splitLines_append {line : List Char} (h : ∀ c ∈ line, isLineBreak c = false)
    (cs : List Char) : splitLines (line ++ '\n' :: cs) = line :: splitLines cs := by
  induction line with
  | nil => exact splitLines_newline cs
  | cons c line ih =>
    obtain ⟨hc, hline⟩ := List.forall_mem_cons.mp h
    rw [List.cons_append, splitLines_cons hc, ih hline]
    rfl

/-- So are lines that are each ended. -/
theorem splitLines_flatMap {lines : List (List Char)}
    (h : ∀ line ∈ lines, ∀ c ∈ line, isLineBreak c = false) :
    splitLines (lines.flatMap (· ++ ['\n'])) = lines := by
  induction lines with
  | nil => rfl
  | cons line lines ih =>
    obtain ⟨hline, hlines⟩ := List.forall_mem_cons.mp h
    rw [List.flatMap_cons, List.append_assoc, List.singleton_append, splitLines_append hline,
      ih hlines]

/-- The last line need not be ended, unless it is empty. -/
theorem splitLines_singleton {line : List Char} (h : ∀ c ∈ line, isLineBreak c = false)
    (hne : line ≠ []) : splitLines line = [line] := by
  induction line with
  | nil => exact absurd rfl hne
  | cons c line ih =>
    obtain ⟨hc, hline⟩ := List.forall_mem_cons.mp h
    rw [splitLines_cons hc]
    cases line with
    | nil => rfl
    | cons d line => rw [ih hline (List.cons_ne_nil d line), consLine]

/-- Lines that are joined are read. -/
theorem splitLines_intercalate {lines : List (List Char)}
    (h : ∀ line ∈ lines, line ≠ [] ∧ ∀ c ∈ line, isLineBreak c = false) :
    splitLines (['\n'].intercalate lines) = lines := by
  induction lines with
  | nil => rfl
  | cons line lines ih =>
    obtain ⟨⟨hne, hline⟩, hlines⟩ := List.forall_mem_cons.mp h
    cases lines with
    | nil => rw [List.intercalate_singleton, splitLines_singleton hline hne]
    | cons line' lines =>
      rw [List.intercalate_cons_cons, List.append_assoc, List.singleton_append,
        splitLines_append hline, ih hlines]

/-! ### Lines of any text -/

theorem consLine_append (c : Char) {lines lines' : List (List Char)} (h : lines ≠ []) :
    consLine c (lines ++ lines') = consLine c lines ++ lines' := by
  cases lines with
  | nil => exact absurd rfl h
  | cons line lines => rfl

theorem splitLines_ne_nil {cs : List Char} (h : cs ≠ []) : splitLines cs ≠ [] := by
  fun_cases splitLines cs with
  | case1 => exact absurd rfl h
  | case2 cs => exact List.cons_ne_nil _ _
  | case3 c cs hnot hbreak => exact List.cons_ne_nil _ _
  | case4 c cs hnot hbreak => cases splitLines cs <;> exact List.cons_ne_nil _ _

/-- A text that does not end with what ends a line is ended by a line feed. -/
theorem splitLines_append_of_last {cs : List Char} (hne : cs ≠ [])
    (hlast : ∀ c ∈ cs.getLast?, isLineBreak c = false) (rest : List Char) :
    splitLines (cs ++ '\n' :: rest) = splitLines cs ++ splitLines rest := by
  induction cs using splitLines.induct with
  | case1 => exact absurd rfl hne
  | case2 cs ih =>
    have hcs : cs ≠ [] := by
      rintro rfl
      exact absurd (hlast '\n' rfl) (by decide)
    rw [List.getLast?_cons_of_ne_nil (List.cons_ne_nil _ _), List.getLast?_cons_of_ne_nil hcs]
      at hlast
    rw [List.cons_append, List.cons_append, splitLines, splitLines, ih hcs hlast, List.cons_append]
  | case3 c cs hnot hbreak ih =>
    have hcs : cs ≠ [] := by
      rintro rfl
      rw [hlast c rfl] at hbreak
      cases hbreak
    rw [List.getLast?_cons_of_ne_nil hcs] at hlast
    have hnot' (ds : List Char) (hc : c = '\r') : cs ++ '\n' :: rest = '\n' :: ds → False := by
      obtain ⟨d, cs, rfl⟩ := List.exists_cons_of_ne_nil hcs
      intro heq
      rw [List.cons_append, List.cons.injEq] at heq
      exact hnot cs hc (heq.1 ▸ rfl)
    rw [List.cons_append, splitLines, splitLines, if_pos hbreak, if_pos hbreak, ih hcs hlast,
      List.cons_append]
    · exact hnot
    · exact hnot'
  | case4 c cs hnot hbreak ih =>
    have hc : isLineBreak c = false := Bool.not_eq_true _ ▸ hbreak
    rw [List.cons_append, splitLines_cons hc, splitLines_cons hc]
    by_cases hcs : cs = []
    · rw [hcs, List.nil_append, splitLines_newline]
      rfl
    · rw [List.getLast?_cons_of_ne_nil hcs] at hlast
      rw [ih hcs hlast, consLine_append c (splitLines_ne_nil hcs)]

/-- What begins with characters that end no line has them in its first line. -/
theorem exists_splitLines_append {xs : List Char} (h : ∀ c ∈ xs, isLineBreak c = false)
    (hne : xs ≠ []) (ys : List Char) :
    ∃ line lines, splitLines (xs ++ ys) = (xs ++ line) :: lines := by
  induction xs with
  | nil => exact absurd rfl hne
  | cons c xs ih =>
    obtain ⟨hc, hxs⟩ := List.forall_mem_cons.mp h
    rw [List.cons_append, splitLines_cons hc]
    by_cases hnil : xs = []
    · rw [hnil, List.nil_append]
      cases splitLines ys with
      | nil => exact ⟨[], [], rfl⟩
      | cons line lines => exact ⟨line, lines, rfl⟩
    · obtain ⟨line, lines, hlines⟩ := ih hxs hnil
      rw [hlines]
      exact ⟨line, lines, rfl⟩

/-- The first line is what comes before the first line break, and the others are the lines behind
it. -/
theorem exists_of_splitLines_cons {cs line : List Char} {lines : List (List Char)}
    (h : splitLines cs = line :: lines) : (cs = line ∧ lines = []) ∨
      ∃ c ds, isSpace c = true ∧ lines = splitLines ds ∧
        (cs = line ++ c :: ds ∨ ∃ d, isSpace d = true ∧ cs = line ++ c :: d :: ds) := by
  induction cs using splitLines.induct generalizing line lines with
  | case1 => cases h
  | case2 cs ih =>
    rw [splitLines] at h
    obtain ⟨rfl, rfl⟩ := List.cons.inj h
    exact Or.inr ⟨_, cs, by decide, rfl, Or.inr ⟨_, by decide, rfl⟩⟩
  | case3 c cs hnot hbreak ih =>
    rw [splitLines, if_pos hbreak] at h
    · obtain ⟨rfl, rfl⟩ := List.cons.inj h
      exact Or.inr ⟨c, cs, isSpace_of_isLineBreak hbreak, rfl, Or.inl rfl⟩
    · exact hnot
  | case4 c cs hnot hbreak ih =>
    rw [splitLines, if_neg hbreak] at h
    · cases hrest : splitLines cs with
      | nil =>
        rw [hrest] at h
        obtain ⟨rfl, rfl⟩ := List.cons.inj h
        obtain rfl : cs = [] := by_contra fun hne => splitLines_ne_nil hne hrest
        exact Or.inl ⟨rfl, rfl⟩
      | cons line' lines' =>
        rw [hrest] at h
        obtain ⟨rfl, rfl⟩ := List.cons.inj h
        rcases ih hrest with ⟨rfl, rfl⟩ | ⟨d, ds, hd, rfl, rfl | ⟨e, he, rfl⟩⟩
        · exact Or.inl ⟨rfl, rfl⟩
        · exact Or.inr ⟨d, ds, hd, rfl, Or.inl rfl⟩
        · exact Or.inr ⟨d, ds, hd, rfl, Or.inr ⟨e, he, rfl⟩⟩
    · exact hnot

/-- The words in the lines of a text are those in the text. -/
theorem flatMap_words_splitLines (cs : List Char) :
    (splitLines cs).flatMap (words isSpace) = words isSpace cs := by
  generalize hlines : splitLines cs = lines
  induction lines generalizing cs with
  | nil =>
    obtain rfl : cs = [] := by_contra fun hne => splitLines_ne_nil hne hlines
    rfl
  | cons line lines ih =>
    rw [List.flatMap_cons]
    rcases exists_of_splitLines_cons hlines with ⟨rfl, rfl⟩ | ⟨c, ds, hc, rfl, rfl | ⟨d, hd, rfl⟩⟩
    · rw [List.flatMap_nil, List.append_nil]
    · rw [ih ds rfl, words_append_cons hc]
    · rw [ih ds rfl, words_append_cons hc, words_cons hd]

/-- The translation of line ends does not change the lines. -/
theorem splitLines_universalNewlines (cs : List Char) :
    splitLines (universalNewlines cs) = splitLines cs := by
  fun_induction universalNewlines cs with
  | case1 => rfl
  | case2 cs ih => rw [splitLines_newline, splitLines, ih]
  | case3 cs hnot ih =>
    rw [splitLines_newline, splitLines, if_pos (by decide), ih]
    exact fun ds _ hcs => hnot ds hcs
  | case4 c cs hnot hnot' ih =>
    have hc : c ≠ '\r' := hnot'
    rw [splitLines, splitLines]
    · rw [ih]
    · exact fun _ hcr => absurd hcr hc
    · exact fun _ hcr => absurd hcr hc

/-! ### The words of lines -/

theorem lineWords_of_lines {lines lines' : List (List Char)} {line line' : List Char}
    (hline : words isSpace line = words isSpace line')
    (hlines : (lines.map (words isSpace)).filter (!·.isEmpty) =
      (lines'.map (words isSpace)).filter (!·.isEmpty)) :
    ((line :: lines).map (words isSpace)).filter (!·.isEmpty) =
      ((line' :: lines').map (words isSpace)).filter (!·.isEmpty) := by
  rw [List.map_cons, List.map_cons, List.filter_cons, List.filter_cons, hline, hlines]

/-- A line feed belongs to the carriage return before it. -/
theorem splitLines_lineBreak {c : Char} (h : isLineBreak c = true) (cs : List Char) :
    splitLines (c :: cs) = [] :: splitLines cs ∨
      ∃ ds, cs = '\n' :: ds ∧ splitLines (c :: cs) = [] :: splitLines ds := by
  by_cases hreturn : c = '\r' ∧ ∃ ds, cs = '\n' :: ds
  · obtain ⟨rfl, ds, rfl⟩ := hreturn
    exact Or.inr ⟨ds, rfl, by rw [splitLines]⟩
  · refine Or.inl ?_
    rw [splitLines, if_pos h]
    exact fun ds hc hcs => hreturn ⟨hc, ds, hcs⟩

/-- The characters of the lines are those of the text. -/
theorem mem_of_mem_splitLines {cs line : List Char} (h : line ∈ splitLines cs) :
    ∀ c ∈ line, c ∈ cs := by
  induction cs using splitLines.induct generalizing line with
  | case1 => cases h
  | case2 cs ih =>
    rw [splitLines] at h
    rcases List.mem_cons.mp h with rfl | h
    · exact List.forall_mem_nil _
    · exact fun c hc => List.mem_cons_of_mem _ (List.mem_cons_of_mem _ (ih h c hc))
  | case3 c cs hnot hbreak ih =>
    rw [splitLines, if_pos hbreak] at h
    · rcases List.mem_cons.mp h with rfl | h
      · exact List.forall_mem_nil _
      · exact fun d hd => List.mem_cons_of_mem _ (ih h d hd)
    · exact hnot
  | case4 c cs hnot hbreak ih =>
    rw [splitLines_cons (Bool.not_eq_true _ ▸ hbreak)] at h
    cases hlines : splitLines cs with
    | nil =>
      rw [hlines] at h
      obtain rfl := List.mem_singleton.mp h
      exact fun d hd => List.mem_singleton.mp hd ▸ List.mem_cons_self
    | cons line' lines =>
      rw [hlines] at h ih
      rcases List.mem_cons.mp h with rfl | h
      · exact List.forall_mem_cons.mpr
          ⟨List.mem_cons_self, fun d hd => List.mem_cons_of_mem c (ih List.mem_cons_self d hd)⟩
      · exact fun d hd => List.mem_cons_of_mem c (ih (List.mem_cons_of_mem line' h) d hd)

theorem lineWords_cons {c : Char} (hc : isSpace c = true) (cs : List Char) :
    lineWords (c :: cs) = lineWords cs := by
  unfold lineWords
  cases hbreak : isLineBreak c with
  | true =>
    rcases splitLines_lineBreak hbreak cs with h | ⟨ds, rfl, h⟩
    · rw [h]
      simp
    · rw [h, splitLines_newline]
  | false =>
    rw [splitLines_cons hbreak]
    cases splitLines cs with
    | nil => simp [consLine, words_cons hc]
    | cons line lines => exact lineWords_of_lines (words_cons hc line) rfl

theorem lineWords_of_forall {cs : List Char} (h : ∀ c ∈ cs, isSpace c = true) :
    lineWords cs = [] := by
  induction cs with
  | nil => rfl
  | cons c cs ih =>
    obtain ⟨hc, hcs⟩ := List.forall_mem_cons.mp h
    rw [lineWords_cons hc, ih hcs]

/-- White space adds to the last line of a text, and lines without words. -/
def AddsNoWords (cs gap : List Char) : Prop :=
  ∃ line lines more lines', splitLines cs = line :: lines ∧
    splitLines (cs ++ gap) = (line ++ more) :: lines' ∧ (∀ c ∈ more, isSpace c = true) ∧
    (lines'.map (words isSpace)).filter (!·.isEmpty) =
      (lines.map (words isSpace)).filter (!·.isEmpty)

theorem lineWords_append_of_addsNoWords {cs gap : List Char} (h : ∀ c ∈ gap, isSpace c = true)
    (hadds : cs ≠ [] → AddsNoWords cs gap) : lineWords (cs ++ gap) = lineWords cs := by
  by_cases hne : cs = []
  · rw [hne, List.nil_append, lineWords_of_forall h]
    rfl
  · obtain ⟨line, lines, more, lines', hcs, happend, hmore, hlines⟩ := hadds hne
    rw [lineWords, lineWords, hcs, happend]
    exact lineWords_of_lines (words_append_of_forall hmore) hlines

/-- A line that is ended stays as it is. -/
theorem addsNoWords_of_lineBreak {c : Char} {cs gap : List Char} (hbreak : isLineBreak c = true)
    (hcs : splitLines (c :: cs) = [] :: splitLines cs)
    (hwords : lineWords (cs ++ gap) = lineWords cs) : AddsNoWords (c :: cs) gap := by
  rcases splitLines_lineBreak hbreak (cs ++ gap) with happend | ⟨ds, hds, happend⟩
  · exact ⟨[], splitLines cs, [], splitLines (cs ++ gap), hcs, happend, List.forall_mem_nil _,
      hwords⟩
  · have hrest : lineWords ds = lineWords cs := by
      rw [← hwords, hds, lineWords_cons (by decide)]
    exact ⟨[], splitLines cs, [], splitLines ds, hcs, happend, List.forall_mem_nil _, hrest⟩

theorem addsNoWords_singleton {c : Char} {gap : List Char} (hc : isLineBreak c = false)
    (h : ∀ c ∈ gap, isSpace c = true) : AddsNoWords [c] gap := by
  unfold AddsNoWords
  rw [List.singleton_append, splitLines_cons hc, splitLines_cons hc]
  cases hgap : splitLines gap with
  | nil => exact ⟨[c], [], [], [], rfl, rfl, List.forall_mem_nil _, rfl⟩
  | cons line lines =>
    have hblank := lineWords_of_forall h
    rw [lineWords, hgap, List.map_cons, List.filter_cons] at hblank
    refine ⟨[c], [], line, lines, rfl, rfl, fun d hd => ?_, ?_⟩
    · exact h d (mem_of_mem_splitLines (hgap ▸ List.mem_cons_self) d hd)
    · split_ifs at hblank
      exact hblank

theorem AddsNoWords.cons {c : Char} {cs gap : List Char} (h : AddsNoWords cs gap)
    (hc : isLineBreak c = false) : AddsNoWords (c :: cs) gap := by
  obtain ⟨line, lines, more, lines', hcs, happend, hmore, hlines⟩ := h
  refine ⟨c :: line, lines, more, lines', ?_, ?_, hmore, hlines⟩
  · rw [splitLines_cons hc, hcs, consLine]
  · rw [List.cons_append, splitLines_cons hc, happend, consLine, List.cons_append]

theorem addsNoWords {gap : List Char} (h : ∀ c ∈ gap, isSpace c = true) (cs : List Char)
    (hne : cs ≠ []) : AddsNoWords cs gap := by
  induction cs using splitLines.induct with
  | case1 => exact absurd rfl hne
  | case2 cs ih =>
    exact ⟨[], splitLines cs, [], splitLines (cs ++ gap), by rw [splitLines],
      by rw [List.cons_append, List.cons_append, splitLines]; rfl, List.forall_mem_nil _,
      lineWords_append_of_addsNoWords h ih⟩
  | case3 c cs hnot hbreak ih =>
    have hcs : splitLines (c :: cs) = [] :: splitLines cs := by
      rw [splitLines, if_pos hbreak]
      exact hnot
    exact addsNoWords_of_lineBreak hbreak hcs (lineWords_append_of_addsNoWords h ih)
  | case4 c cs hnot hbreak ih =>
    have hc : isLineBreak c = false := Bool.not_eq_true _ ▸ hbreak
    by_cases hcs : cs = []
    · rw [hcs]
      exact addsNoWords_singleton hc h
    · exact (ih hcs).cons hc

theorem lineWords_append {gap : List Char} (h : ∀ c ∈ gap, isSpace c = true) (cs : List Char) :
    lineWords (cs ++ gap) = lineWords cs :=
  lineWords_append_of_addsNoWords h (addsNoWords h cs)

/-- Stripping a text changes no line that has words. -/
theorem lineWords_strip (cs : List Char) : lineWords (strip isSpace cs) = lineWords cs := by
  have hdrop (cs : List Char) : lineWords (cs.dropWhile isSpace) = lineWords cs := by
    induction cs with
    | nil => rfl
    | cons c cs ih =>
      cases hc : isSpace c with
      | true => rw [List.dropWhile_cons_of_pos hc, ih, lineWords_cons hc]
      | false => rw [List.dropWhile_cons_of_neg (by simp [hc])]
  have happ : strip isSpace cs ++ (cs.dropWhile isSpace).rtakeWhile isSpace =
      cs.dropWhile isSpace := List.rdropWhile_append_rtakeWhile
  rw [← hdrop cs, ← happ, lineWords_append fun _ hc => List.mem_rtakeWhile_imp hc]

/-! ### Numbers -/

/-- The characters that are decimal digits, with their values, and how many digits a number that is
read or written may have, if there is a limit. -/
structure Numerals where
  value : Char → Option ℕ
  value_ascii : ∀ c, c.toNat < 128 → value c = if c.isDigit then some (c.toNat - 48) else none
  maxDigits : Option ℕ

/-- The digits of ASCII, and the limit of the interpreter. -/
def asciiNumerals : Numerals where
  value c := if c.isDigit then some (c.toNat - 48) else none
  value_ascii _ _ := rfl
  maxDigits := some 4300

namespace Numerals

variable (t : Numerals)

/-- Whether a text consists of digits. -/
def isNumber (cs : List Char) : Bool := !cs.isEmpty && cs.all fun c => (t.value c).isSome

/-- The number that digits write. -/
def number (cs : List Char) : ℕ := cs.foldl (fun n c => 10 * n + (t.value c).getD 0) 0

/-- There are no more digits than the limit. -/
def fits (cs : List Char) : Bool := t.maxDigits.all (cs.length ≤ ·)

/-- The error about a number with too many digits. -/
def exceedsLimit (detail : String) : PyError :=
  .valueError ("Exceeds the limit (" ++ toString (t.maxDigits.getD 0) ++
    " digits) for integer string conversion" ++ detail ++
    "; use sys.set_int_max_str_digits() to increase the limit")

/-- The number that a text of digits is converted to. -/
def int (cs : List Char) : Except PyError ℕ :=
  if t.fits cs then .ok (t.number cs)
  else .error (t.exceedsLimit (": value has " ++ toString cs.length ++ " digits"))

/-- The text that a number is converted to. -/
def str (n : ℕ) : Except PyError (List Char) :=
  if t.fits (Nat.toDigits 10 n) then .ok (Nat.toDigits 10 n) else .error (t.exceedsLimit "")

variable {t}

theorem value_of_isDigit {c : Char} (h : c.isDigit = true) : t.value c = some (c.toNat - 48) := by
  have hascii : c.toNat < 128 := lt_of_le_of_lt (Char.isDigit_iff_toNat.mp h).2 (by decide)
  rw [t.value_ascii c hascii, if_pos h]

theorem int_of_fits {cs : List Char} (h : t.fits cs = true) : t.int cs = .ok (t.number cs) :=
  if_pos h

/-- A conversion raises value errors only. -/
theorem not_unhandled_int (cs : List Char) : ¬ Raises PyError.Unhandled (t.int cs) := by
  rw [int]
  split_ifs
  · exact not_raises_ok _ _
  · simp [exceedsLimit]

/-- The digits of a number write it. -/
theorem isNumber_toDigits (n : ℕ) : t.isNumber (Nat.toDigits 10 n) = true := by
  have hne : Nat.toDigits 10 n ≠ [] := Nat.toDigits_ne_nil
  have hdigits : ∀ c ∈ Nat.toDigits 10 n, (t.value c).isSome = true := fun c hc => by
    rw [value_of_isDigit (Nat.isDigit_of_mem_toDigits (by decide) (by decide) hc)]
    rfl
  simpa [isNumber, hne] using hdigits

theorem number_toDigits (n : ℕ) : t.number (Nat.toDigits 10 n) = n := by
  have hfold (cs : List Char) (k : ℕ) (h : ∀ c ∈ cs, c.isDigit = true) :
      cs.foldl (fun n c => 10 * n + (t.value c).getD 0) k = Nat.ofDigitChars 10 cs k := by
    induction cs generalizing k with
    | nil => rfl
    | cons c cs ih =>
      obtain ⟨hc, hcs⟩ := List.forall_mem_cons.mp h
      rw [List.foldl_cons, ih _ hcs, value_of_isDigit hc, Nat.ofDigitChars_cons]
      rfl
  rw [number, hfold _ _ fun c hc => Nat.isDigit_of_mem_toDigits (by decide) (by decide) hc,
    Nat.ofDigitChars_ten_toDigits]

theorem str_eq_ok_iff {n : ℕ} {cs : List Char} :
    t.str n = .ok cs ↔ t.fits cs = true ∧ cs = Nat.toDigits 10 n := by
  rw [str]
  split_ifs with hfits
  · rw [Except.ok.injEq]
    exact ⟨fun h => ⟨h ▸ hfits, h.symm⟩, fun h => h.2.symm⟩
  · refine iff_of_false nofun ?_
    rintro ⟨hfits', rfl⟩
    exact hfits hfits'

/-- A number that has been converted to a text is converted back. -/
theorem int_of_str {n : ℕ} {cs : List Char} (h : t.str n = .ok cs) : t.int cs = .ok n := by
  obtain ⟨hfits, rfl⟩ := str_eq_ok_iff.mp h
  rw [int_of_fits hfits, number_toDigits]

/-- A number that has been converted to a text consists of ASCII digits. -/
theorem isDigit_of_str {n : ℕ} {cs : List Char} (h : t.str n = .ok cs) :
    cs ≠ [] ∧ ∀ c ∈ cs, c.isDigit = true := by
  obtain ⟨-, rfl⟩ := str_eq_ok_iff.mp h
  exact ⟨Nat.toDigits_ne_nil, fun c hc => Nat.isDigit_of_mem_toDigits (by decide) (by decide) hc⟩

theorem isNumber_of_str {n : ℕ} {cs : List Char} (h : t.str n = .ok cs) :
    t.isNumber cs = true := by
  obtain ⟨-, rfl⟩ := str_eq_ok_iff.mp h
  exact isNumber_toDigits n

/-- Without a limit every number is converted to a text. -/
theorem str_of_maxDigits_eq_none (h : t.maxDigits = none) (n : ℕ) :
    t.str n = .ok (Nat.toDigits 10 n) :=
  str_eq_ok_iff.mpr ⟨by rw [fits, h]; rfl, rfl⟩

end Numerals

end ClassroomSuite.Python
