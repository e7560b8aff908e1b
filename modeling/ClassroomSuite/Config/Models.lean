import Mathlib.Data.List.Basic

/-!
# The validated configuration

The fields of a validated configuration that the semantic checks read. Bounds that the schema puts
on a field are fields of the structure.

Source: `cli/src/bcs/config/models.py`.

## Main definitions

* `ClassroomConfig` and its parts.
* `ErrorDetails`, `ValidationError`: what a failed validation reports.
-/

namespace ClassroomSuite.Config

/-- A locale the interface is translated to. -/
inductive Locale where
  | caES
  | esES
  | enUS
  deriving DecidableEq, Repr

/-- The text of a locale. -/
def Locale.str : Locale → String
  | .caES => "ca_ES"
  | .esES => "es_ES"
  | .enUS => "en_US"

/-- A checksum algorithm. -/
inductive ChecksumAlgorithm where
  | sha256
  | sha512
  deriving DecidableEq, Repr

/-- The text of a checksum algorithm. -/
def ChecksumAlgorithm.str : ChecksumAlgorithm → String
  | .sha256 => "sha256"
  | .sha512 => "sha512"

/-- How the machines get their addresses. -/
inductive AddressingMode where
  | dhcp
  | static
  deriving DecidableEq, Repr

/-- An entry of the boot menu, with a label for some locales, one for each. -/
structure MenuEntry where
  id : String
  label : List (String × String)
  label_ne_nil : label ≠ []
  label_nodup : (label.map Prod.fst).Nodup := by decide

/-- The boot menu. -/
structure Menu where
  defaultEntry : String
  entries : List MenuEntry
  entries_ne_nil : entries ≠ []

/-- The boot manager has a menu. -/
structure BootManagerSpec where
  menu : Menu

/-- How the origin of an image is recorded. -/
structure Provenance where
  checksumAlgorithm : ChecksumAlgorithm := .sha256

/-- The builder records the origin of an image. -/
structure BuilderSpec where
  provenance : Provenance := {}

/-- How a deployment is verified. -/
structure Verification where
  checksumAlgorithm : ChecksumAlgorithm := .sha256

/-- A deployment is verified. -/
structure DeploySpec where
  verification : Verification := {}

/-- The address of one machine. -/
structure StaticAssignment where
  hostname : String
  mac : String
  ip : String

/-- How the machines have their addresses. -/
structure Addressing where
  mode : AddressingMode := .dhcp
  staticAssignments : List StaticAssignment := []

/-- The network gives the machines addresses. -/
structure NetworkSpec where
  addressing : Addressing := {}

/-- The languages of a classroom. -/
structure LocalizationSpec where
  supportedLocales : List Locale := [.caES, .esES]

/-- The sections that the semantic checks look at. -/
structure ClassroomSpec where
  bootManager : BootManagerSpec
  builder : BuilderSpec
  deploy : DeploySpec
  network : NetworkSpec
  localization : LocalizationSpec

/-- A validated configuration. -/
structure ClassroomConfig where
  spec : ClassroomSpec

/-- One error of a failed validation: where it is, as the texts of the path, and what it is. -/
structure ErrorDetails where
  loc : List String
  msg : String

/-- A failed validation has an error. -/
structure ValidationError where
  errors : List ErrorDetails
  errors_ne_nil : errors ≠ []

end ClassroomSuite.Config
