import ClassroomSuite.Platform.Execution
import ClassroomSuite.Platform.SecureBoot.Parser

/-!
# Reading the Secure Boot status

The adapter runs one tool and parses its output, which must have a line that is recognized.

Source: `cli/src/bcs/platform/adapters/secureboot/adapter.py`.

## Main definitions

* `readSecureBootStatus`.
-/

namespace ClassroomSuite.Platform.SecureBoot

open Python

/-- What the error output of the tool has when the environment has no Secure Boot state. -/
def unavailablePatterns : List String :=
  ["efi variables are not supported", "not supported on this system", "efivarfs not mounted",
    "permission denied", "operation not permitted", "no such file or directory", "failed to read"]

/-- The command of the adapter. -/
def mokutilCommand : List String := ["mokutil", "--sb-state"]

variable (rt : TextRuntime)

/-- Run the tool and read the state from its output, which has to say something of it. -/
def readSecureBootStatus (runner : CommandRunner) (environ : List (String × String))
    (timeoutSeconds : Option ℚ := some 5) : Except Raised SecureBootStatus := do
  let output ← runForOutput rt .secureBoot unavailablePatterns
    "Secure Boot state is not available in this environment." runner
    "mokutil" ["--sb-state"] timeoutSeconds (plainLocale environ)
  let status ← parsedOutput .secureBoot "Failed to parse mokutil output: " output
    (parseSecureBootStatus rt output)
  if status.state = .unknown ∧ status.setupMode = none then
    throw (.platform (.adapterParse .secureBoot
      "mokutil output contained no recognized Secure Boot state line." output))
  else return status

end ClassroomSuite.Platform.SecureBoot
