import ClassroomSuite.Library.LastWriter
import ClassroomSuite.Library.Text
import ClassroomSuite.Platform.Efi.Models
import ClassroomSuite.Python.Lines
import ClassroomSuite.Python.Validation

/-!
# Parsing the boot configuration

The boot configuration is read line by line. What a stripped line begins with decides what it is:
one of four fields, of which a later one replaces an earlier one, or an entry; any other line is
passed over. A field with a value that is not of its form is an error.

Source: `cli/src/bcs/platform/adapters/efi/parser.py`.

## Main definitions

* `fieldValue`, `entryHead`, `matchBootEntry`: the patterns.
* `LineItem`, `readLine`: what a line says.
* `Parsed`, `Parsed.assign`, `parseFirmwareBootConfiguration`.
-/

namespace ClassroomSuite.Platform.Efi

open Python Library

variable (rt : ModelRuntime) (numerals : Numerals)

/-! ### Patterns -/

/-- `^name\s*(.*)$`, the name with its colon. -/
def fieldValue (name : String) (stripped : List Char) : Option (List Char) :=
  if name.toList.isPrefixOf stripped then
    some ((stripped.drop name.toList.length).dropWhile isSpace)
  else none

/-- `^Boot([0-9A-Fa-f]{4})(\*?)`: the number, whether there is the marker, and what follows. -/
def entryHead (stripped : List Char) : Option (BootNumber × Bool × List Char) :=
  match stripped with
  | 'B' :: 'o' :: 'o' :: 't' :: cs =>
    if h : isHex4 (cs.take 4) then
      match cs.drop 4 with
      | '*' :: rest => some (⟨cs.take 4, h⟩, true, rest)
      | rest => some (⟨cs.take 4, h⟩, false, rest)
    else none
  | _ => none

/-- `^Boot([0-9A-Fa-f]{4})(\*?)\s+(.*)$`. -/
def matchBootEntry (stripped : List Char) : Option (BootNumber × Bool × List Char) :=
  match entryHead stripped with
  | some (bootNumber, marker, c :: rest) =>
    if isSpace c then some (bootNumber, marker, rest.dropWhile isSpace) else none
  | _ => none

/-! ### Values -/

/-- The error about a field whose value cannot be read. -/
def malformed (fieldName : String) (line : List Char) (number : ℕ) : PyError :=
  .valueError ("malformed " ++ fieldName ++ " line (line " ++ toString number ++ "): " ++
    rt.text.repr (String.ofList line))

/-- The text as a boot number. -/
def parseHex4 (value line : List Char) (number : ℕ) (fieldName : String) :
    Except PyError BootNumber :=
  if h : isHex4 value then .ok ⟨value, h⟩ else .error (malformed rt fieldName line number)

/-- A number of an entry, or an error about the field. -/
def parseOptionalHex4 (value line : List Char) (number : ℕ) (fieldName : String) :
    Except PyError (Option BootNumber) :=
  if (strip isSpace value).isEmpty then .ok none
  else (parseHex4 rt (strip isSpace value) line number fieldName).map some

/-- The numbers of an order, with commas between them. -/
def parseBootOrder (value line : List Char) (number : ℕ) : Except PyError (List BootNumber) :=
  if (strip isSpace value).isEmpty then .ok []
  else (((strip isSpace value).splitOn ',').map (strip isSpace)).mapM fun part =>
    parseHex4 rt part line number "BootOrder"

/-- The digits at the beginning of a value. -/
def parseTimeout (value line : List Char) (number : ℕ) : Except PyError ℕ :=
  let leading := value.takeWhile fun c => (numerals.value c).isSome
  if leading.isEmpty then .error (malformed rt "Timeout" line number)
  else numerals.int leading

/-! ### Lines -/

/-- What a line says. -/
inductive LineItem where
  | current (bootNumber : Option BootNumber)
  | timeout (seconds : ℕ)
  | order (bootOrder : List BootNumber)
  | next (bootNumber : Option BootNumber)
  | entry (entry : BootEntry)
  | unrecognized
  deriving DecidableEq, Repr

/-- The entry whose label and device path are written as `rest`, with a tab between them. -/
def bootEntry (bootNumber : BootNumber) (active : Bool) (rest line : List Char) : BootEntry :=
  let (label, devicePath) := partitionAt '\t' (String.ofList rest)
  { bootNumber, label, active, devicePath, rawLine := String.ofList line }

/-- What a line says, if it is one of those known. -/
def readLine (line : List Char) (number : ℕ) : Except PyError LineItem :=
  let stripped := strip isSpace line
  if stripped.isEmpty then .ok .unrecognized
  else match fieldValue "BootCurrent:" stripped with
  | some value => (parseOptionalHex4 rt value line number "BootCurrent").map .current
  | none =>
    match fieldValue "Timeout:" stripped with
    | some value => (parseTimeout rt numerals value line number).map .timeout
    | none =>
      match fieldValue "BootOrder:" stripped with
      | some value => (parseBootOrder rt value line number).map .order
      | none =>
        match fieldValue "BootNext:" stripped with
        | some value => (parseOptionalHex4 rt value line number "BootNext").map .next
        | none =>
          match matchBootEntry stripped with
          | some (bootNumber, active, rest) => .ok (.entry (bootEntry bootNumber active rest line))
          | none => .ok .unrecognized

/-- What has been read. -/
@[ext]
structure Parsed where
  currentBootNumber : Option BootNumber := none
  timeoutSeconds : Option ℕ := none
  bootOrder : List BootNumber := []
  bootNext : Option BootNumber := none
  entries : List BootEntry := []

/-- A field is replaced, and an entry added. -/
def Parsed.assign (parsed : Parsed) : LineItem → Parsed
  | .current bootNumber => { parsed with currentBootNumber := bootNumber }
  | .timeout seconds => { parsed with timeoutSeconds := some seconds }
  | .order bootOrder => { parsed with bootOrder }
  | .next bootNumber => { parsed with bootNext := bootNumber }
  | .entry entry => { parsed with entries := parsed.entries ++ [entry] }
  | .unrecognized => parsed

/-- The configuration of what the lines say. -/
def FirmwareBootConfiguration.make (parsed : Parsed) (rawText : String) :
    Except PyError FirmwareBootConfiguration :=
  construct rt "FirmwareBootConfiguration" <|
    if h : (parsed.entries.map (·.bootNumber)).Nodup then
      .ok {
        currentBootNumber := parsed.currentBootNumber
        timeoutSeconds := parsed.timeoutSeconds
        bootOrder := parsed.bootOrder
        bootNext := parsed.bootNext
        entries := parsed.entries
        rawText
        nodup_bootNumbers := h }
    else .error [⟨"", .invalid "entries must not contain duplicate boot_number values"⟩]

/-- Read an output line by line. -/
def parseFirmwareBootConfiguration (text : String) : Except PyError FirmwareBootConfiguration := do
  let items ← ((splitLines text.toList).zipIdx 1).mapM fun (line, number) =>
    readLine rt numerals line number
  FirmwareBootConfiguration.make rt (items.foldl Parsed.assign {}) text

end ClassroomSuite.Platform.Efi
