import ClassroomSuite.Platform.Efi.EntryLines

/-!
# The round trip of the boot configuration

A boot configuration is written line by line, in any order that keeps the entries in sequence, with
lines in between that are not recognized. Parsing what has been written returns the configuration.
A timeout is written only if it has no more digits than the interpreter's limit, if one is set.

Source: `cli/src/bcs/platform/adapters/efi/parser.py`,
`cli/src/bcs/platform/adapters/efi/models.py`.

## Main definitions

* `WritableEntry`, `BootSetup`: a configuration that can be written.
* `WrittenLine`, `WrittenLine.text`, `Renders`: lines that write a configuration.
* `BootSetup.configuration`: what it is parsed to.

## Main results

* `readLine_text`: what a line that has been written says.
* `parseFirmwareBootConfiguration_text`.
-/

namespace ClassroomSuite.Platform.Efi

open Python Library

/-- An entry that can be written. -/
structure WritableEntry where
  bootNumber : BootNumber
  active : Bool
  label : List Char
  devicePath : List Char
  label_ne_nil : label ≠ []
  label_trimmed : Trimmed isSpace label
  label_plain : ∀ c ∈ label, c ≠ '\t' ∧ isLineBreak c = false
  devicePath_trimmed : Trimmed isSpace devicePath
  devicePath_oneLine : ∀ c ∈ devicePath, isLineBreak c = false

/-- A boot configuration that can be written. -/
structure BootSetup where
  current : Option BootNumber
  timeout : Option ℕ
  order : List BootNumber
  next : Option BootNumber
  entries : List WritableEntry
  nodup_bootNumbers : (entries.map (·.bootNumber)).Nodup

/-- A line as it is written. -/
inductive WrittenLine where
  | current (bootNumber : BootNumber)
  | timeout (seconds : ℕ)
  | order (bootOrder : List BootNumber)
  | next (bootNumber : BootNumber)
  | entry (entry : WritableEntry)
  | other (line : List Char)

/-- The text of an entry. -/
def WritableEntry.text (entry : WritableEntry) : List Char :=
  'B' :: 'o' :: 'o' :: 't' :: (entry.bootNumber.digits ++
    ((if entry.active then ['*', ' '] else [' ', ' ']) ++
      (entry.label ++ '\t' :: entry.devicePath)))

variable (numerals : Numerals)

namespace WrittenLine

/-- The text of a line. -/
def text : WrittenLine → Except PyError (List Char)
  | .current n => .ok ("BootCurrent:".toList ++ ' ' :: n.digits)
  | .timeout seconds => do
    let value ← numerals.str seconds
    return "Timeout:".toList ++ ' ' :: (value ++ ' ' :: "seconds".toList)
  | .order ns => .ok ("BootOrder:".toList ++ ' ' :: [','].intercalate (ns.map (·.digits)))
  | .next n => .ok ("BootNext:".toList ++ ' ' :: n.digits)
  | .entry e => .ok e.text
  | .other line => .ok line

/-- The current entry, if the line is about it. -/
def current? : WrittenLine → Option BootNumber
  | .current n => some n
  | _ => none

/-- The timeout, if the line is about it. -/
def timeout? : WrittenLine → Option ℕ
  | .timeout seconds => some seconds
  | _ => none

/-- The order, if the line is about it. -/
def order? : WrittenLine → Option (List BootNumber)
  | .order ns => some ns
  | _ => none

/-- The next entry, if the line is about it. -/
def next? : WrittenLine → Option BootNumber
  | .next n => some n
  | _ => none

/-- The entry, if the line is one. -/
def entry? : WrittenLine → Option WritableEntry
  | .entry e => some e
  | _ => none

end WrittenLine

/-- The line is one, and none of the patterns matches it. -/
structure IsUnrecognized (line : List Char) : Prop where
  oneLine : ∀ c ∈ line, isLineBreak c = false
  not_field : ∀ name ∈ fieldNames, fieldValue name (strip isSpace line) = none
  not_entry : matchBootEntry (strip isSpace line) = none

/-- The lines write the configuration: each of its fields is in one line, if there is any value of
it, and the entries are in sequence. -/
structure Renders (setup : BootSetup) (lines : List WrittenLine) : Prop where
  current : lines.filterMap WrittenLine.current? = setup.current.toList
  timeout : lines.filterMap WrittenLine.timeout? = setup.timeout.toList
  order : lines.filterMap WrittenLine.order? = [setup.order] ∨
    setup.order = [] ∧ lines.filterMap WrittenLine.order? = []
  next : lines.filterMap WrittenLine.next? = setup.next.toList
  entries : lines.filterMap WrittenLine.entry? = setup.entries
  other : ∀ line, .other line ∈ lines → IsUnrecognized line

/-- Lines as a text, each ended by a line feed. -/
def endLines (lines : List (List Char)) : String := String.ofList (lines.flatMap (· ++ ['\n']))

/-- The text of the lines. -/
def textOf (lines : List WrittenLine) : Except PyError String := do
  return endLines (← lines.mapM (·.text numerals))

/-- The entry that is read. -/
def WritableEntry.entry (entry : WritableEntry) : BootEntry where
  bootNumber := entry.bootNumber
  label := String.ofList entry.label
  active := entry.active
  devicePath := String.ofList entry.devicePath
  rawLine := String.ofList entry.text

/-- The configuration that is read from a text. -/
def BootSetup.configuration (setup : BootSetup) (rawText : String) :
    FirmwareBootConfiguration where
  currentBootNumber := setup.current
  timeoutSeconds := setup.timeout
  bootOrder := setup.order
  bootNext := setup.next
  entries := setup.entries.map WritableEntry.entry
  rawText := rawText
  nodup_bootNumbers := by
    rw [List.map_map]
    exact setup.nodup_bootNumbers

/-- What a line says. -/
def WrittenLine.item : WrittenLine → LineItem
  | .current n => .current (some n)
  | .timeout seconds => .timeout seconds
  | .order ns => .order ns
  | .next n => .next (some n)
  | .entry e => .entry e.entry
  | .other _ => .unrecognized

/-! ### Fields -/

variable {rt : ModelRuntime} {numerals}

/-- A hexadecimal digit is a letter or a digit of ASCII. -/
theorem plain_of_isHexDigit {c : Char} (h : isHexDigit c = true) :
    isSpace c = false ∧ c ≠ ',' := by
  have hrange : (48 ≤ c.toNat ∧ c.toNat ≤ 57) ∨ (65 ≤ c.toNat ∧ c.toNat ≤ 70) ∨
      (97 ≤ c.toNat ∧ c.toNat ≤ 102) := by
    simp only [isHexDigit, Bool.or_eq_true, Bool.and_eq_true, decide_eq_true_eq, or_assoc] at h
    exact h
  refine ⟨isSpace_eq_false (by omega) (by omega), ?_⟩
  rintro rfl
  simp at hrange

theorem BootNumber.plain (n : BootNumber) : ∀ c ∈ n.digits, isSpace c = false ∧ c ≠ ',' := by
  have h := n.isHex4_digits
  simp only [isHex4, Bool.and_eq_true, List.all_eq_true] at h
  exact fun c hc => plain_of_isHexDigit (h.2 c hc)

theorem BootNumber.trimmed (n : BootNumber) : Trimmed isSpace n.digits :=
  trimmed_of_forall fun c hc => (n.plain c hc).1

theorem BootNumber.digits_ne_nil (n : BootNumber) : n.digits ≠ [] := by
  intro hnil
  simpa [hnil] using n.length_digits

/-- The names of the fields have no white space, and none of them begins with another. -/
theorem plain_fieldName {name : String} (h : name ∈ fieldNames) :
    name.toList ≠ [] ∧ (∀ c ∈ name.toList, isSpace c = false) ∧
      ∀ other ∈ fieldNames, other ≠ name → ¬ other.toList <+: name.toList := by
  have hplain : ∀ name ∈ fieldNames, name.toList ≠ [] ∧ name.toList.all (!isSpace ·) = true ∧
      ∀ other ∈ fieldNames, other ≠ name → ¬ other.toList <+: name.toList := by decide +kernel
  obtain ⟨hne, hspace, hprefix⟩ := hplain name h
  exact ⟨hne, forall_not_of_all hspace, hprefix⟩

/-- White space is stripped from a field only if it has no value, so that the value is there. -/
theorem exists_strip_field {name value : List Char} (hne : name ≠ [])
    (hname : ∀ c ∈ name, isSpace c = false) (hvalue : Trimmed isSpace value) :
    ∃ tail, strip isSpace (name ++ ' ' :: value) = name ++ tail ∧
      tail.dropWhile isSpace = value := by
  have hname' := trimmed_of_forall hname
  by_cases hnil : value = []
  · exact ⟨[], by rw [hnil, strip_append_right (List.all_eq_true.mp (by decide)) hname',
      List.append_nil], hnil.symm⟩
  · have htrimmed := hname'.append hvalue hne hnil [' ']
    refine ⟨' ' :: value, htrimmed.strip_eq, ?_⟩
    rw [List.dropWhile_cons_of_pos (by decide), dropWhile_of_head hvalue.1]

/-- A field that has been written has its value, and is no other field. -/
theorem fieldValue_written {name : String} {value : List Char} (h : name ∈ fieldNames)
    (hvalue : Trimmed isSpace value) :
    fieldValue name (strip isSpace (name.toList ++ ' ' :: value)) = some value ∧
      ∀ other ∈ fieldNames, other ≠ name →
        fieldValue other (strip isSpace (name.toList ++ ' ' :: value)) = none := by
  obtain ⟨hne, hname, hprefix⟩ := plain_fieldName h
  obtain ⟨tail, hstrip, htail⟩ := exists_strip_field hne hname hvalue
  rw [hstrip]
  constructor
  · rw [fieldValue, if_pos (by simp), List.drop_left, htail]
  · intro other hother hdiffer
    refine if_neg fun hhead => ?_
    -- Both names are at the beginning of the line, so that one of them begins with the other.
    rcases List.prefix_or_prefix_of_prefix (List.isPrefixOf_iff_prefix.mp hhead)
      (List.prefix_append name.toList tail) with hshort | hlong
    · exact hprefix other hother hdiffer hshort
    · exact (plain_fieldName hother).2.2 name h hdiffer.symm hlong

/-- The line of a field is one if its value is. -/
theorem isLineBreak_field {name : String} {value : List Char} (h : name ∈ fieldNames)
    (hvalue : ∀ c ∈ value, isLineBreak c = false) :
    ∀ c ∈ name.toList ++ ' ' :: value, isLineBreak c = false := by
  rw [List.forall_mem_append, List.forall_mem_cons]
  exact ⟨fun c hc => isLineBreak_eq_false ((plain_fieldName h).2.1 c hc), by decide, hvalue⟩

theorem parseHex4_digits (n : BootNumber) (line : List Char) (number : ℕ) (fieldName : String) :
    parseHex4 rt n.digits line number fieldName = .ok n :=
  dif_pos n.isHex4_digits

theorem parseOptionalHex4_digits (n : BootNumber) (line : List Char) (number : ℕ)
    (fieldName : String) : parseOptionalHex4 rt n.digits line number fieldName = .ok (some n) := by
  rw [parseOptionalHex4, n.trimmed.strip_eq, if_neg (by simp [n.digits_ne_nil]), parseHex4_digits]
  rfl

theorem parseTimeout_of_str {seconds : ℕ} {value : List Char} (h : numerals.str seconds = .ok value)
    (line : List Char) (number : ℕ) :
    parseTimeout rt numerals (value ++ ' ' :: "seconds".toList) line number = .ok seconds := by
  have hnumber := Numerals.isNumber_of_str h
  simp only [Numerals.isNumber, Bool.and_eq_true, List.all_eq_true] at hnumber
  have hspace : numerals.value ' ' = none := numerals.value_ascii ' ' (by decide)
  have hleading : (value ++ ' ' :: "seconds".toList).takeWhile
      (fun c => (numerals.value c).isSome) = value := by
    rw [List.takeWhile_append_of_pos hnumber.2, List.takeWhile_cons_of_neg (by simp [hspace]),
      List.append_nil]
  rw [parseTimeout, hleading, if_neg (by simpa using (Numerals.isDigit_of_str h).1),
    Numerals.int_of_str h]

theorem plain_intercalate (ns : List BootNumber) :
    ∀ c ∈ [','].intercalate (ns.map (·.digits)), isSpace c = false :=
  forall_mem_intercalate (forall_not_of_all (by decide))
    (List.forall_mem_map.mpr fun m _ c hc => (m.plain c hc).1)

theorem trimmed_intercalate (ns : List BootNumber) :
    Trimmed isSpace ([','].intercalate (ns.map (·.digits))) :=
  trimmed_of_forall (plain_intercalate ns)

theorem trimmed_seconds {seconds : ℕ} {value : List Char} (h : numerals.str seconds = .ok value) :
    Trimmed isSpace (value ++ ' ' :: "seconds".toList) := by
  obtain ⟨hne, hdigits⟩ := Numerals.isDigit_of_str h
  have hvalue : Trimmed isSpace value :=
    trimmed_of_forall fun c hc => isSpace_eq_false_of_isDigit (hdigits c hc)
  have hunit : Trimmed isSpace "seconds".toList := trimmed_of_all (by decide) (by decide)
  exact hvalue.append hunit hne (by decide) [' ']

/-- The numbers of an order, joined by commas. -/
theorem parseBootOrder_intercalate (ns : List BootNumber) (line : List Char) (number : ℕ) :
    parseBootOrder rt ([','].intercalate (ns.map (·.digits))) line number = .ok ns := by
  cases ns with
  | nil => rfl
  | cons n ns =>
    have hne : [','].intercalate ((n :: ns).map (·.digits)) ≠ [] := by
      obtain ⟨c, cs, hn⟩ := List.exists_cons_of_ne_nil n.digits_ne_nil
      rw [List.map_cons, hn, List.intercalate_cons_cons_left]
      exact List.cons_ne_nil c _
    have hcomma : ∀ part ∈ (n :: ns).map (·.digits), ',' ∉ part :=
      List.forall_mem_map.mpr fun m _ hmem => (m.plain _ hmem).2 rfl
    have hstrip : ((n :: ns).map (·.digits)).map (strip isSpace) = (n :: ns).map (·.digits) := by
      rw [List.map_map]
      exact List.map_congr_left fun m _ => m.trimmed.strip_eq
    rw [parseBootOrder, (trimmed_intercalate (n :: ns)).strip_eq, if_neg (by simpa using hne),
      List.splitOn_intercalate ',' hcomma (by simp), hstrip, mapM_eq_ok_iff,
      List.forall₂_map_left_iff, List.forall₂_same]
    exact fun m _ => parseHex4_digits m line number "BootOrder"

/-! ### Entries -/

/-- The label and the device path as they are left when the line has been stripped. -/
def WritableEntry.value (entry : WritableEntry) : List Char :=
  if entry.devicePath = [] then entry.label else entry.label ++ '\t' :: entry.devicePath

/-- An entry is written with a tab at its end if it has no device path, and only that is
stripped. -/
theorem strip_entryText (entry : WritableEntry) :
    strip isSpace entry.text = 'B' :: 'o' :: 'o' :: 't' :: (entry.bootNumber.digits ++
      ((if entry.active then ['*', ' '] else [' ', ' ']) ++ entry.value)) := by
  have hfirst : Trimmed isSpace ['B'] := trimmed_of_all (by decide) (by decide)
  rw [WritableEntry.text, WritableEntry.value]
  generalize hmid : 'o' :: 'o' :: 't' :: (entry.bootNumber.digits ++
    (if entry.active then ['*', ' '] else [' ', ' '])) = mid
  by_cases hpath : entry.devicePath = []
  · rw [if_pos hpath]
    have htrimmed := hfirst.append entry.label_trimmed (List.cons_ne_nil _ _) entry.label_ne_nil mid
    have hstrip : strip isSpace (_ ++ ['\t']) = _ :=
      strip_append_right (List.all_eq_true.mp (by decide)) htrimmed
    simpa [hpath, ← hmid] using hstrip
  · rw [if_neg hpath]
    have htrimmed := hfirst.append entry.devicePath_trimmed (List.cons_ne_nil _ _) hpath
      (mid ++ (entry.label ++ ['\t']))
    simpa [← hmid] using htrimmed.strip_eq

theorem partitionAt_value (entry : WritableEntry) :
    partitionAt '\t' (String.ofList entry.value) =
      (String.ofList entry.label, String.ofList entry.devicePath) := by
  have htab : '\t' ∉ (String.ofList entry.label).toList := by
    rw [String.toList_ofList]
    exact fun hmem => (entry.label_plain _ hmem).1 rfl
  rw [WritableEntry.value]
  split_ifs with hpath
  · rw [partitionAt_of_notMem htab, hpath, String.ofList_nil]
  · have hvalue : String.ofList (entry.label ++ '\t' :: entry.devicePath) =
        String.ofList entry.label ++ String.singleton '\t' ++ String.ofList entry.devicePath :=
      String.toList_inj.mp (by simp)
    rw [hvalue, partitionAt_append htab]

/-- An entry that has been written is read. -/
theorem readLine_entryText (entry : WritableEntry) (number : ℕ) :
    readLine rt numerals entry.text number = .ok (.entry entry.entry) := by
  have hlabel : entry.value.dropWhile isSpace = entry.value := by
    refine dropWhile_of_head fun c hc => entry.label_trimmed.1 c ?_
    rw [WritableEntry.value] at hc
    split_ifs at hc
    · exact hc
    · rwa [List.head?_append_of_ne_nil _ entry.label_ne_nil] at hc
  obtain ⟨rest, hhead, hrest⟩ : ∃ rest, entryHead (strip isSpace entry.text) =
      some (entry.bootNumber, entry.active, ' ' :: rest) ∧
        rest.dropWhile isSpace = entry.value := by
    rw [strip_entryText]
    cases entry.active with
    | true => exact ⟨entry.value, entryHead_eq_some_iff.mpr ⟨rfl, nofun⟩, hlabel⟩
    | false =>
      refine ⟨' ' :: entry.value, entryHead_eq_some_iff.mpr ⟨rfl, fun _ => by simp⟩, ?_⟩
      rw [List.dropWhile_cons_of_pos (by decide), hlabel]
  have hmatch : matchBootEntry (strip isSpace entry.text) =
      some (entry.bootNumber, entry.active, entry.value) :=
    matchBootEntry_eq_some_iff.mpr ⟨' ', rest, hhead, by decide, hrest.symm⟩
  have hentry : bootEntry entry.bootNumber entry.active entry.value entry.text = entry.entry := by
    simp only [bootEntry, partitionAt_value]
    rfl
  rw [readLine_of_noField (fieldValue_of_entryHead (by simp [hhead])), hmatch, ← hentry]
  rfl

/-! ### Lines -/

section Fields

variable {line value : List Char}

/-- A line with a field is not blank. -/
theorem isEmpty_of_fieldValue {name : String} {stripped : List Char} (hname : name.toList ≠ [])
    (h : fieldValue name stripped = some value) : stripped.isEmpty = false := by
  rw [fieldValue] at h
  split_ifs at h with hprefix
  obtain ⟨tail, rfl⟩ := List.isPrefixOf_iff_prefix.mp hprefix
  rw [List.isEmpty_eq_false_iff]
  exact List.append_ne_nil_of_left_ne_nil hname tail

theorem readLine_current (h : fieldValue "BootCurrent:" (strip isSpace line) = some value)
    (number : ℕ) : readLine rt numerals line number =
      (parseOptionalHex4 rt value line number "BootCurrent").map .current := by
  have hne := isEmpty_of_fieldValue (by decide) h
  simp only [readLine, hne, Bool.false_eq_true, if_false, h]

theorem readLine_timeout (hcurrent : fieldValue "BootCurrent:" (strip isSpace line) = none)
    (h : fieldValue "Timeout:" (strip isSpace line) = some value) (number : ℕ) :
    readLine rt numerals line number =
      (parseTimeout rt numerals value line number).map .timeout := by
  have hne := isEmpty_of_fieldValue (by decide) h
  simp only [readLine, hne, Bool.false_eq_true, if_false, hcurrent, h]

theorem readLine_order (hcurrent : fieldValue "BootCurrent:" (strip isSpace line) = none)
    (htimeout : fieldValue "Timeout:" (strip isSpace line) = none)
    (h : fieldValue "BootOrder:" (strip isSpace line) = some value) (number : ℕ) :
    readLine rt numerals line number = (parseBootOrder rt value line number).map .order := by
  have hne := isEmpty_of_fieldValue (by decide) h
  simp only [readLine, hne, Bool.false_eq_true, if_false, hcurrent, htimeout, h]

theorem readLine_next (hcurrent : fieldValue "BootCurrent:" (strip isSpace line) = none)
    (htimeout : fieldValue "Timeout:" (strip isSpace line) = none)
    (horder : fieldValue "BootOrder:" (strip isSpace line) = none)
    (h : fieldValue "BootNext:" (strip isSpace line) = some value) (number : ℕ) :
    readLine rt numerals line number =
      (parseOptionalHex4 rt value line number "BootNext").map .next := by
  have hne := isEmpty_of_fieldValue (by decide) h
  simp only [readLine, hne, Bool.false_eq_true, if_false, hcurrent, htimeout, horder, h]

theorem readLine_of_isUnrecognized (h : IsUnrecognized line) (number : ℕ) :
    readLine rt numerals line number = .ok .unrecognized := by
  rw [readLine_of_noField h.not_field, h.not_entry]
  rfl

end Fields

theorem fieldNames_mem : "BootCurrent:" ∈ fieldNames ∧ "Timeout:" ∈ fieldNames ∧
    "BootOrder:" ∈ fieldNames ∧ "BootNext:" ∈ fieldNames := by decide

/-- What a line that has been written says. -/
theorem readLine_text {written : WrittenLine} {line : List Char}
    (hother : ∀ other, written = .other other → IsUnrecognized other)
    (h : written.text numerals = .ok line) (number : ℕ) :
    readLine rt numerals line number = .ok written.item := by
  obtain ⟨hcurrent, htimeout, horder, hnext⟩ := fieldNames_mem
  cases written with
  | current n =>
    cases h
    obtain ⟨hvalue, -⟩ := fieldValue_written hcurrent n.trimmed
    rw [readLine_current hvalue, parseOptionalHex4_digits]
    rfl
  | timeout seconds =>
    obtain ⟨value, hseconds, h⟩ := bind_eq_ok_iff.mp h
    cases h
    obtain ⟨hvalue, hothers⟩ := fieldValue_written htimeout (trimmed_seconds hseconds)
    rw [readLine_timeout (hothers _ hcurrent (by decide)) hvalue, parseTimeout_of_str hseconds]
    rfl
  | order ns =>
    cases h
    obtain ⟨hvalue, hothers⟩ := fieldValue_written horder (trimmed_intercalate ns)
    rw [readLine_order (hothers _ hcurrent (by decide)) (hothers _ htimeout (by decide)) hvalue,
      parseBootOrder_intercalate]
    rfl
  | next n =>
    cases h
    obtain ⟨hvalue, hothers⟩ := fieldValue_written hnext n.trimmed
    rw [readLine_next (hothers _ hcurrent (by decide)) (hothers _ htimeout (by decide))
      (hothers _ horder (by decide)) hvalue, parseOptionalHex4_digits]
    rfl
  | entry entry =>
    cases h
    exact readLine_entryText entry number
  | other other =>
    cases h
    exact readLine_of_isUnrecognized (hother _ rfl) number

/-! ### The text -/

theorem isLineBreak_entryText (entry : WritableEntry) :
    ∀ c ∈ entry.text, isLineBreak c = false := by
  have hmarker : ∀ active, ∀ c ∈ (if active = true then ['*', ' '] else [' ', ' ']),
      isLineBreak c = false := by
    rintro (_ | _) <;> exact forall_not_of_all (by decide)
  simp only [WritableEntry.text, List.forall_mem_cons, List.forall_mem_append]
  exact ⟨by decide, by decide, by decide, by decide,
    fun c hc => isLineBreak_eq_false (entry.bootNumber.plain c hc).1, hmarker entry.active,
    fun c hc => (entry.label_plain c hc).2, by decide, entry.devicePath_oneLine⟩

/-- What has been written is one line. -/
theorem isLineBreak_text {written : WrittenLine} {line : List Char}
    (hother : ∀ other, written = .other other → IsUnrecognized other)
    (h : written.text numerals = .ok line) : ∀ c ∈ line, isLineBreak c = false := by
  obtain ⟨hcurrent, htimeout, horder, hnext⟩ := fieldNames_mem
  have hnumber (n : BootNumber) : ∀ c ∈ n.digits, isLineBreak c = false :=
    fun c hc => isLineBreak_eq_false (n.plain c hc).1
  cases written with
  | current n =>
    cases h
    exact isLineBreak_field hcurrent (hnumber n)
  | timeout seconds =>
    obtain ⟨value, hseconds, h⟩ := bind_eq_ok_iff.mp h
    cases h
    refine isLineBreak_field htimeout ?_
    rw [List.forall_mem_append, List.forall_mem_cons]
    have hdigits := (Numerals.isDigit_of_str hseconds).2
    exact ⟨fun c hc => isLineBreak_eq_false (isSpace_eq_false_of_isDigit (hdigits c hc)),
      by decide, forall_not_of_all (by decide)⟩
  | order ns =>
    cases h
    exact isLineBreak_field horder fun c hc => isLineBreak_eq_false (plain_intercalate ns c hc)
  | next n =>
    cases h
    exact isLineBreak_field hnext (hnumber n)
  | entry entry =>
    cases h
    exact isLineBreak_entryText entry
  | other other =>
    cases h
    exact (hother _ rfl).oneLine

variable {setup : BootSetup} {lines : List WrittenLine}

/-- The lines say what they have been written for. -/
theorem mapM_readLine {texts : List (List Char)}
    (hother : ∀ line, .other line ∈ lines → IsUnrecognized line)
    (h : List.Forall₂ (fun written text => WrittenLine.text numerals written = .ok text)
      lines texts)
    (start : ℕ) : (texts.zipIdx start).mapM (fun p => readLine rt numerals p.1 p.2) =
      .ok (lines.map WrittenLine.item) := by
  rw [mapM_eq_ok_iff]
  refine forall₂_zipIdx ?_ start
  induction h with
  | nil => exact .nil
  | cons hline _ ih =>
    refine .cons (readLine_text (fun other heq => hother other ?_) hline)
      (ih fun line hline => hother line (List.mem_cons_of_mem _ hline))
    rw [heq]
    exact List.mem_cons_self

theorem getD_getLast?_map_some {α : Type} (o : Option α) :
    (o.toList.map some).getLast?.getD none = o := by
  cases o <;> rfl

/-- What the lines say together is the configuration. -/
theorem foldl_assign_item (h : Renders setup lines) :
    (lines.map WrittenLine.item).foldl Parsed.assign {} = {
      currentBootNumber := setup.current
      timeoutSeconds := setup.timeout
      bootOrder := setup.order
      bootNext := setup.next
      entries := setup.entries.map WritableEntry.entry } := by
  rw [List.foldl_map]
  ext1
  · rw [foldl_eq_getLast? Parsed.currentBootNumber (f := fun line => line.current?.map some)
      (fun parsed line => by cases line <;> rfl), ← List.map_filterMap, h.current,
      getD_getLast?_map_some]
  · rw [foldl_eq_getLast? Parsed.timeoutSeconds (f := fun line => line.timeout?.map some)
      (fun parsed line => by cases line <;> rfl), ← List.map_filterMap, h.timeout,
      getD_getLast?_map_some]
  · rw [foldl_eq_getLast? Parsed.bootOrder (f := WrittenLine.order?)
      (fun parsed line => by cases line <;> rfl)]
    rcases h.order with horder | ⟨hnil, horder⟩
    · rw [horder]
      rfl
    · rw [horder, hnil]
      rfl
  · rw [foldl_eq_getLast? Parsed.bootNext (f := fun line => line.next?.map some)
      (fun parsed line => by cases line <;> rfl), ← List.map_filterMap, h.next,
      getD_getLast?_map_some]
  · rw [foldl_eq_append_filterMap Parsed.entries
      (f := fun line => line.entry?.map WritableEntry.entry)
      (fun parsed line => by cases line <;> simp [Parsed.assign, WrittenLine.item,
        WrittenLine.entry?]), ← List.map_filterMap, h.entries]
    rfl

/-- Without a limit every line can be written. -/
theorem exists_text (h : numerals.maxDigits = none) (written : WrittenLine) :
    ∃ line, written.text numerals = .ok line := by
  cases written with
  | timeout seconds =>
    exact ⟨_, bind_eq_ok_iff.mpr ⟨_, Numerals.str_of_maxDigits_eq_none h seconds, rfl⟩⟩
  | _ => exact ⟨_, rfl⟩

/-- A configuration that has been written is read; and without a limit on the digits of a number
every configuration can be written. -/
theorem parseFirmwareBootConfiguration_text (rt : ModelRuntime) (numerals : Numerals)
    (setup : BootSetup) (lines : List WrittenLine) (h : Renders setup lines) :
    (∀ text, textOf numerals lines = .ok text →
      parseFirmwareBootConfiguration rt numerals text = .ok (setup.configuration text)) ∧
      (numerals.maxDigits = none → ∃ text, textOf numerals lines = .ok text) := by
  constructor
  · intro text htext
    obtain ⟨texts, htexts, htext⟩ := bind_eq_ok_iff.mp htext
    cases htext
    have hwritten := (mapM_eq_ok_iff _ _ _).mp htexts
    have hsplit : splitLines (endLines texts).toList = texts := by
      rw [endLines, String.toList_ofList]
      refine splitLines_flatMap fun line hline => ?_
      obtain ⟨written, hmem, hline⟩ := exists_mem_of_forall₂ hwritten.flip hline
      refine isLineBreak_text (fun other heq => h.other other ?_) hline
      rwa [← heq]
    rw [parseFirmwareBootConfiguration, hsplit, mapM_readLine h.other hwritten, ok_bind,
      foldl_assign_item h, FirmwareBootConfiguration.make, construct_eq_ok_iff]
    have hnodup := (setup.configuration (endLines texts)).nodup_bootNumbers
    exact dif_pos hnodup
  · intro hlimit
    obtain ⟨texts, htexts⟩ := (exists_mapM_eq_ok_iff (WrittenLine.text numerals) lines).mpr
      fun line _ => exists_text hlimit line
    exact ⟨_, bind_eq_ok_iff.mpr ⟨texts, htexts, rfl⟩⟩

theorem label_plain_of_all {label : List Char}
    (h : label.all (fun c => c != '\t' && !isLineBreak c) = true) :
    ∀ c ∈ label, c ≠ '\t' ∧ isLineBreak c = false := by
  simpa using h

/-- An active entry with a device path. -/
def ubuntuEntry : WritableEntry where
  bootNumber := ⟨"0000".toList, by decide⟩
  active := true
  label := "ubuntu".toList
  devicePath := "HD(1)/File(\\shimx64.efi)".toList
  label_ne_nil := by decide
  label_trimmed := trimmed_of_all (by decide) (by decide)
  label_plain := label_plain_of_all (by decide)
  devicePath_trimmed := trimmed_of_all (by decide) (by decide)
  devicePath_oneLine := forall_not_of_all (by decide)

/-- An inactive entry without one, and with a space in its label. -/
def usbEntry : WritableEntry where
  bootNumber := ⟨"2001".toList, by decide⟩
  active := false
  label := "EFI USB".toList
  devicePath := []
  label_ne_nil := by decide
  label_trimmed := trimmed_of_all (by decide) (by decide)
  label_plain := label_plain_of_all (by decide)
  devicePath_trimmed := trimmed_of_all (by decide) (by decide)
  devicePath_oneLine := forall_not_of_all (by decide)

/-- A machine with one entry, which it has booted. -/
def ubuntuSetup : BootSetup where
  current := some ubuntuEntry.bootNumber
  timeout := some 5
  order := [usbEntry.bootNumber, ubuntuEntry.bootNumber]
  next := none
  entries := [ubuntuEntry, usbEntry]
  nodup_bootNumbers := by decide

/-- Lines about this machine, with one between them that is not known. -/
def ubuntuLines : List WrittenLine := [
  .order [usbEntry.bootNumber, ubuntuEntry.bootNumber],
  .entry ubuntuEntry,
  .other "MirroredPercentageAbove4G: 0.00".toList,
  .current ubuntuEntry.bootNumber,
  .entry usbEntry,
  .timeout 5]

theorem parseFirmwareBootConfiguration_text_ubuntu :
    (∃ text, parseFirmwareBootConfiguration plainRuntime asciiNumerals text =
      .ok (ubuntuSetup.configuration text)) ∧
      ∃ text, textOf { asciiNumerals with maxDigits := none } ubuntuLines = .ok text := by
  have hother : ∀ line, .other line ∈ ubuntuLines → IsUnrecognized line := by
    intro line hline
    obtain rfl : line = "MirroredPercentageAbove4G: 0.00".toList := by
      simpa [ubuntuLines] using hline
    exact ⟨forall_not_of_all (by decide), by decide +kernel, by decide +kernel⟩
  have hrenders : Renders ubuntuSetup ubuntuLines := ⟨rfl, rfl, Or.inl rfl, rfl, rfl, hother⟩
  obtain ⟨text, htext⟩ : ∃ text, textOf asciiNumerals ubuntuLines = .ok text := ⟨_, rfl⟩
  exact ⟨⟨text, (parseFirmwareBootConfiguration_text plainRuntime asciiNumerals _ _ hrenders).1
    text htext⟩, (parseFirmwareBootConfiguration_text plainRuntime
      { asciiNumerals with maxDigits := none } _ _ hrenders).2 rfl⟩

end ClassroomSuite.Platform.Efi
