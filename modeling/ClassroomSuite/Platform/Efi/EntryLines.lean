import ClassroomSuite.Platform.Efi.Parser

/-!
# The lines of boot entries

A line that begins like a boot entry has one only if it goes on with white space. Lines are stripped
before they are matched, so that this is missing where nothing follows the number and the marker;
and a line that goes on at once with another character is passed over as one that is not
recognized.

Source: `cli/src/bcs/platform/adapters/efi/parser.py`.

## Main definitions

* `LineItem.entry?`: the entry that a line has.
* `isEntryLine`, `IsEntryOf`, `EntriesKept`.
* `GoesOn`: where the line begins like an entry, white space follows.

## Main results

* `entryHead_eq_some_iff`: what a line that begins like an entry is.
* `readLine_of_noField`, `entry_of_readLine`: the lines that an entry is read of.
* `entries_eq_filterMap`.
* `entriesKept_iff`.
-/

namespace ClassroomSuite.Platform.Efi

open Python Library

/-- The entry that a line has. -/
def LineItem.entry? : LineItem → Option BootEntry
  | .entry bootEntry => some bootEntry
  | _ => none

/-- The stripped line is `Boot`, four hexadecimal digits, an optional marker, and then nothing or
white space before any text. -/
def isEntryLine (line : List Char) : Bool :=
  match entryHead (strip isSpace line) with
  | some (_, _, []) => true
  | some (_, _, c :: _) => isSpace c
  | none => false

/-- The entry has the number and the marker of the line. -/
def IsEntryOf (line : List Char) (entry : BootEntry) : Prop :=
  (∃ rest, entryHead (strip isSpace line) = some (entry.bootNumber, entry.active, rest)) ∧
    entry.rawLine = String.ofList line

/-- There is exactly one entry for each line that is one, in their order, and no line that begins
like an entry is ignored. -/
structure EntriesKept (lines : List (List Char)) (entries : List BootEntry) : Prop where
  onePerLine : List.Forall₂ IsEntryOf (lines.filter isEntryLine) entries
  noneIgnored : ∀ line ∈ lines, entryHead (strip isSpace line) ≠ none →
    ∃ entry ∈ entries, IsEntryOf line entry

/-- If the line begins like an entry, white space follows. -/
def GoesOn (line : List Char) : Prop :=
  ∀ bootNumber marker rest, entryHead (strip isSpace line) = some (bootNumber, marker, rest) →
    ∃ c ∈ rest.head?, isSpace c = true

/-- The names of the fields. -/
def fieldNames : List String := ["BootCurrent:", "Timeout:", "BootOrder:", "BootNext:"]

/-! ### The patterns -/

theorem BootNumber.length_digits (n : BootNumber) : n.digits.length = 4 := by
  have h := n.isHex4_digits
  simp only [isHex4, Bool.and_eq_true, beq_iff_eq] at h
  exact h.1

/-- A line that begins like an entry is `Boot`, a boot number, the marker or none, and any rest,
which begins with no marker if there was none. -/
theorem entryHead_eq_some_iff {stripped rest : List Char} {n : BootNumber} {marker : Bool} :
    entryHead stripped = some (n, marker, rest) ↔
      stripped = 'B' :: 'o' :: 'o' :: 't' ::
          (n.digits ++ ((if marker then ['*'] else []) ++ rest)) ∧
        (marker = false → rest.head? ≠ some '*') := by
  constructor
  · intro h
    unfold entryHead at h
    split at h
    · next cs =>
      split_ifs at h with hhex
      have hcs := List.take_append_drop 4 cs
      split at h
      · next rest' hdrop =>
        rw [hdrop] at hcs
        cases h
        exact ⟨by simp [hcs], nofun⟩
      · next rest' hne =>
        cases h
        refine ⟨by simp [hcs], fun _ hhead => ?_⟩
        obtain ⟨rest, hrest⟩ := List.head?_eq_some_iff.mp hhead
        exact hne rest hrest
    · cases h
  · rintro ⟨rfl, hmarker⟩
    have htake (tail : List Char) : (n.digits ++ tail).take 4 = n.digits :=
      List.take_left' n.length_digits
    have hdrop (tail : List Char) : (n.digits ++ tail).drop 4 = tail :=
      List.drop_left' n.length_digits
    unfold entryHead
    simp only [htake, hdrop, n.isHex4_digits, dite_true]
    cases marker with
    | true => rfl
    | false =>
      simp only [Bool.false_eq_true, if_false, List.nil_append]
      split
      · exact absurd rfl (hmarker rfl)
      · rfl

/-- A field whose name is `Boot` and four characters that are no boot number has no value in a line
that begins like an entry. -/
theorem fieldValue_eq_none {name : String} {w more : List Char}
    (hname : name.toList = 'B' :: 'o' :: 'o' :: 't' :: (w ++ more)) (hlength : w.length = 4)
    (hw : isHex4 w = false) (n : BootNumber) (tail : List Char) :
    fieldValue name ('B' :: 'o' :: 'o' :: 't' :: (n.digits ++ tail)) = none := by
  refine if_neg fun hprefix => ?_
  obtain ⟨t, ht⟩ := List.isPrefixOf_iff_prefix.mp hprefix
  rw [hname] at ht
  simp only [List.cons_append, List.cons.injEq, true_and, List.append_assoc] at ht
  obtain ⟨rfl, -⟩ := List.append_inj ht (hlength.trans n.length_digits.symm)
  rw [n.isHex4_digits] at hw
  cases hw

/-- A line that begins like an entry is no field. -/
theorem fieldValue_of_entryHead {stripped : List Char} (h : entryHead stripped ≠ none) :
    ∀ name ∈ fieldNames, fieldValue name stripped = none := by
  obtain ⟨⟨n, marker, rest⟩, hhead⟩ := Option.ne_none_iff_exists'.mp h
  obtain ⟨rfl, -⟩ := entryHead_eq_some_iff.mp hhead
  simp only [fieldNames, List.forall_mem_cons]
  refine ⟨?_, rfl, ?_, ?_, List.forall_mem_nil _⟩
  · exact fieldValue_eq_none (w := ['C', 'u', 'r', 'r']) rfl rfl (by decide) n _
  · exact fieldValue_eq_none (w := ['O', 'r', 'd', 'e']) rfl rfl (by decide) n _
  · exact fieldValue_eq_none (w := ['N', 'e', 'x', 't']) rfl rfl (by decide) n _

/-! ### Reading a line -/

variable {rt : ModelRuntime} {numerals : Numerals}

theorem matchBootEntry_eq_some_iff {stripped value : List Char} {n : BootNumber} {marker : Bool} :
    matchBootEntry stripped = some (n, marker, value) ↔
      ∃ c rest, entryHead stripped = some (n, marker, c :: rest) ∧ isSpace c = true ∧
        value = rest.dropWhile isSpace := by
  unfold matchBootEntry
  split
  · next n' marker' c rest hhead =>
    split_ifs with hc
    · simp only [hhead, Option.some.injEq, Prod.mk.injEq, List.cons.injEq]
      constructor
      · rintro ⟨rfl, rfl, rfl⟩
        exact ⟨c, rest, ⟨rfl, rfl, rfl, rfl⟩, hc, rfl⟩
      · rintro ⟨c', rest', ⟨rfl, rfl, rfl, rfl⟩, -, rfl⟩
        exact ⟨rfl, rfl, rfl⟩
    · refine iff_of_false nofun ?_
      rintro ⟨c', rest', hhead', hc', -⟩
      rw [hhead] at hhead'
      cases hhead'
      exact hc hc'
  · next hnone =>
    refine iff_of_false nofun ?_
    rintro ⟨c', rest', hhead', -, -⟩
    exact hnone _ _ _ _ hhead'

/-- A line that is no field is an entry, or is not recognized. -/
theorem readLine_of_noField {line : List Char}
    (h : ∀ name ∈ fieldNames, fieldValue name (strip isSpace line) = none) (number : ℕ) :
    readLine rt numerals line number =
      .ok (((matchBootEntry (strip isSpace line)).map fun (bootNumber, active, rest) =>
        LineItem.entry (bootEntry bootNumber active rest line)).getD .unrecognized) := by
  simp only [fieldNames, List.forall_mem_cons] at h
  obtain ⟨hcurrent, htimeout, horder, hnext, -⟩ := h
  rw [readLine]
  by_cases hnil : strip isSpace line = []
  · rw [hnil]
    rfl
  · have hne : (strip isSpace line).isEmpty = false := List.isEmpty_eq_false_iff.mpr hnil
    simp only [hne, Bool.false_eq_true, if_false, hcurrent, htimeout, horder, hnext]
    cases matchBootEntry (strip isSpace line) <;> rfl

/-- An entry is read of no other line. -/
theorem entry_of_readLine {line : List Char} {number : ℕ} {entry : BootEntry}
    (h : readLine rt numerals line number = .ok (.entry entry)) :
    ∃ value, matchBootEntry (strip isSpace line) = some (entry.bootNumber, entry.active, value) ∧
      entry.rawLine = String.ofList line := by
  have hmap {α : Type} {m : Except PyError α} {f : α → LineItem} (hf : ∀ a, f a ≠ .entry entry) :
      m.map f ≠ .ok (.entry entry) := by
    cases m with
    | error e => exact nofun
    | ok a => exact fun heq => hf a (Except.ok.inj heq)
  simp only [readLine] at h
  split_ifs at h
  · cases h
  split at h
  · exact absurd h (hmap nofun)
  split at h
  · exact absurd h (hmap nofun)
  split at h
  · exact absurd h (hmap nofun)
  split at h
  · exact absurd h (hmap nofun)
  split at h
  · next bootNumber active rest hmatch =>
    cases h
    exact ⟨rest, hmatch, rfl⟩
  · cases h

/-! ### The entries of a text -/

theorem entries_of_make {parsed : Parsed} {text : String} {config : FirmwareBootConfiguration}
    (h : FirmwareBootConfiguration.make rt parsed text = .ok config) :
    config.entries = parsed.entries := by
  rw [FirmwareBootConfiguration.make, construct_eq_ok_iff] at h
  split_ifs at h
  cases h
  rfl

/-- The entries are those that the lines have. -/
theorem entries_eq_filterMap {text : String} {config : FirmwareBootConfiguration}
    (h : parseFirmwareBootConfiguration rt numerals text = .ok config) :
    ∃ items, List.Forall₂ (fun line item => ∃ number, readLine rt numerals line number = .ok item)
        (splitLines text.toList) items ∧ config.entries = items.filterMap LineItem.entry? := by
  obtain ⟨items, hitems, hmake⟩ := bind_eq_ok_iff.mp h
  refine ⟨items, forall₂_of_zipIdx ((mapM_eq_ok_iff _ _ _).mp hitems), ?_⟩
  rw [entries_of_make hmake]
  refine foldl_eq_append_filterMap Parsed.entries (fun parsed item => ?_) items {}
  cases item <;> simp [Parsed.assign, LineItem.entry?]

/-- A line that goes on with white space, if it begins like an entry, has its entry exactly if it is
one. -/
theorem entry?_of_goesOn {line : List Char} {number : ℕ} {item : LineItem}
    (hread : readLine rt numerals line number = .ok item) (hgoes : GoesOn line) :
    (isEntryLine line = true ∧ ∃ entry, item.entry? = some entry ∧ IsEntryOf line entry) ∨
      (entryHead (strip isSpace line) = none ∧ isEntryLine line = false ∧ item.entry? = none) := by
  cases hhead : entryHead (strip isSpace line) with
  | none =>
    refine Or.inr ⟨rfl, by rw [isEntryLine, hhead], ?_⟩
    by_contra hentry
    obtain ⟨entry, hentry⟩ := Option.ne_none_iff_exists'.mp hentry
    cases item with
    | entry e =>
      obtain ⟨value, hmatch, -⟩ := entry_of_readLine hread
      obtain ⟨c, rest, hhead', -⟩ := matchBootEntry_eq_some_iff.mp hmatch
      rw [hhead] at hhead'
      cases hhead'
    | _ => cases hentry
  | some found =>
    obtain ⟨n, marker, rest⟩ := found
    obtain ⟨c, hc, hspace⟩ := hgoes n marker rest hhead
    obtain ⟨rest, rfl⟩ := List.head?_eq_some_iff.mp hc
    have hmatch : matchBootEntry (strip isSpace line) = some (n, marker, rest.dropWhile isSpace) :=
      matchBootEntry_eq_some_iff.mpr ⟨c, rest, hhead, hspace, rfl⟩
    rw [readLine_of_noField (fieldValue_of_entryHead (by simp [hhead])), hmatch] at hread
    refine Or.inl ⟨by rw [isEntryLine, hhead]; exact hspace,
      bootEntry n marker (rest.dropWhile isSpace) line, ?_, ⟨_, hhead⟩, rfl⟩
    rw [← Except.ok.inj hread]
    rfl

/-- Of a text that can be parsed the entries are kept if and only if every line that begins like an
entry goes on with white space. -/
theorem entriesKept_iff {text : String} {config : FirmwareBootConfiguration}
    (h : parseFirmwareBootConfiguration rt numerals text = .ok config) :
    EntriesKept (splitLines text.toList) config.entries ↔
      ∀ line ∈ splitLines text.toList, GoesOn line := by
  obtain ⟨items, hitems, hentries⟩ := entries_eq_filterMap h
  rw [hentries]
  generalize splitLines text.toList = lines at hitems ⊢
  constructor
  · intro hkept line hline n marker rest hhead
    obtain ⟨entry, hentry, -, hraw⟩ := hkept.noneIgnored line hline (by simp [hhead])
    obtain ⟨item, hitem, hitemEntry⟩ := List.mem_filterMap.mp hentry
    obtain ⟨line', -, number, hread⟩ := exists_mem_of_forall₂ hitems.flip hitem
    have hitem' : item = .entry entry := by
      cases item with
      | entry e => exact congrArg _ (Option.some.inj hitemEntry)
      | _ => cases hitemEntry
    rw [hitem'] at hread
    -- The entry is that of a line with the same text.
    obtain ⟨value, hmatch, hraw'⟩ := entry_of_readLine hread
    obtain rfl := String.ofList_injective (hraw.symm.trans hraw')
    obtain ⟨c, rest', hhead', hspace, -⟩ := matchBootEntry_eq_some_iff.mp hmatch
    obtain ⟨-, -, rfl⟩ : n = _ ∧ marker = _ ∧ rest = c :: rest' := by
      simpa using hhead.symm.trans hhead'
    exact ⟨c, rfl, hspace⟩
  · intro hgoes
    constructor
    · clear hentries
      induction hitems with
      | nil => exact .nil
      | cons hread _ ih =>
        obtain ⟨number, hread⟩ := hread
        obtain ⟨hline, hlines⟩ := List.forall_mem_cons.mp hgoes
        rcases entry?_of_goesOn hread hline with ⟨hentryLine, entry, hentry, his⟩ |
          ⟨-, hentryLine, hentry⟩
        · rw [List.filter_cons_of_pos hentryLine, List.filterMap_cons_some hentry]
          exact .cons his (ih hlines)
        · rw [List.filter_cons_of_neg (by simp [hentryLine]), List.filterMap_cons_none hentry]
          exact ih hlines
    · intro line hline hhead
      obtain ⟨item, hitem, number, hread⟩ := exists_mem_of_forall₂ hitems hline
      rcases entry?_of_goesOn hread (hgoes line hline) with ⟨-, entry, hentry, his⟩ | ⟨hnone, -⟩
      · exact ⟨entry, List.mem_filterMap.mpr ⟨item, hitem, hentry⟩, his⟩
      · exact absurd hnone hhead

/-- A runtime for texts that are no JSON. -/
def plainRuntime : ModelRuntime := .reading "" .null

/-- The entry of a line with a description is kept. -/
theorem entriesKept_ubuntu : ∃ config,
    parseFirmwareBootConfiguration plainRuntime asciiNumerals "Boot0000* ubuntu\tHD(1)\n" =
        .ok config ∧
      EntriesKept (splitLines "Boot0000* ubuntu\tHD(1)\n".toList) config.entries := by
  obtain ⟨config, hconfig⟩ : ∃ config, parseFirmwareBootConfiguration plainRuntime asciiNumerals
      "Boot0000* ubuntu\tHD(1)\n" = .ok config := by decide +kernel
  refine ⟨config, hconfig, (entriesKept_iff hconfig).mpr fun line hline n marker rest hhead => ?_⟩
  have hspace : ∀ line ∈ splitLines "Boot0000* ubuntu\tHD(1)\n".toList,
      (entryHead (strip isSpace line)).map (fun found => found.2.2.head?) = some (some ' ') := by
    decide +kernel
  have hfirst := hspace line hline
  rw [hhead] at hfirst
  exact ⟨' ', Option.some.inj hfirst, by decide⟩

/-- An entry without a description is not kept. -/
theorem not_entriesKept_no_description :
    ¬ ∀ (rt : ModelRuntime) (numerals : Numerals) (text : String)
      (config : FirmwareBootConfiguration),
        parseFirmwareBootConfiguration rt numerals text = .ok config →
          EntriesKept (splitLines text.toList) config.entries := by
  intro h
  obtain ⟨config, hconfig, hentries⟩ : ∃ config,
      parseFirmwareBootConfiguration plainRuntime asciiNumerals "Boot0001* " = .ok config ∧
        config.entries = [] := by decide +kernel
  obtain ⟨line, hline, hhead⟩ : ∃ line ∈ splitLines "Boot0001* ".toList,
      entryHead (strip isSpace line) ≠ none := by decide +kernel
  obtain ⟨entry, hentry, -⟩ := (h _ _ _ _ hconfig).noneIgnored line hline hhead
  rw [hentries] at hentry
  exact absurd hentry List.not_mem_nil

end ClassroomSuite.Platform.Efi
