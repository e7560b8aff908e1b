import Mathlib.Data.List.Nodup

/-!
# The boot configuration of the firmware

A boot number is four hexadecimal digits and is kept as they are written. No two entries of a
configuration have the same one.

Source: `cli/src/bcs/platform/adapters/efi/models.py`.

## Main definitions

* `isHex4`, `BootNumber`.
* `BootEntry`, `FirmwareBootConfiguration`.
-/

namespace ClassroomSuite.Platform.Efi

/-- Whether a character is a digit of base sixteen. -/
def isHexDigit (c : Char) : Bool :=
  ('0' ≤ c && c ≤ '9') || ('A' ≤ c && c ≤ 'F') || ('a' ≤ c && c ≤ 'f')

/-- Four hexadecimal digits. -/
def isHex4 (cs : List Char) : Bool := cs.length == 4 && cs.all isHexDigit

/-- The number of an entry: four digits of base sixteen, in upper case. -/
structure BootNumber where
  digits : List Char
  isHex4_digits : isHex4 digits = true
  deriving DecidableEq, Repr

/-- A boot entry, with the line it was read from. -/
structure BootEntry where
  bootNumber : BootNumber
  label : String
  active : Bool
  devicePath : String
  rawLine : String
  deriving DecidableEq, Repr

/-- The boot configuration, with the text it was read from. -/
structure FirmwareBootConfiguration where
  currentBootNumber : Option BootNumber := none
  timeoutSeconds : Option ℕ := none
  bootOrder : List BootNumber := []
  bootNext : Option BootNumber := none
  entries : List BootEntry := []
  rawText : String
  nodup_bootNumbers : (entries.map (·.bootNumber)).Nodup
  deriving DecidableEq, Repr

end ClassroomSuite.Platform.Efi
