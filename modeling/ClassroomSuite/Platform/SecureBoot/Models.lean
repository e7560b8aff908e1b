/-!
# The Secure Boot status

What the firmware reports of Secure Boot.

Source: `cli/src/bcs/platform/adapters/secureboot/models.py`.

## Main definitions

* `SecureBootState`, `SecureBootStatus`.
-/

namespace ClassroomSuite.Platform.SecureBoot

/-- The state of Secure Boot. It is unsupported on a system without UEFI, and unknown on a UEFI
system whose state could not be determined. -/
inductive SecureBootState where
  | enabled
  | disabled
  | unsupported
  | unknown
  deriving DecidableEq, Repr

/-- The text of a state. -/
def SecureBootState.value : SecureBootState → String
  | enabled => "enabled"
  | disabled => "disabled"
  | unsupported => "unsupported"
  | unknown => "unknown"

/-- What was observed, and the text it was read from. -/
structure SecureBootStatus where
  state : SecureBootState
  setupMode : Option Bool := none
  rawText : String
  deriving DecidableEq, Repr

end ClassroomSuite.Platform.SecureBoot
