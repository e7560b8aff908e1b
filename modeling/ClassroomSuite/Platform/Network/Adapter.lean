import ClassroomSuite.Platform.Execution
import ClassroomSuite.Platform.Network.Parser

/-!
# Reading the network interfaces

The adapter runs one tool and parses its output.

Source: `cli/src/bcs/platform/adapters/network/adapter.py`.

## Main definitions

* `readNetworkInterfaces`.
* `Prints`: what the tool prints, where it succeeds.

## Main results

* `escapes_parse_of_escapes_read`.
-/

namespace ClassroomSuite.Platform.Network

open Python Library

/-- What the error output of the tool has when the environment has no network data. -/
def unavailablePatterns : List String :=
  ["network namespace not accessible", "cannot open netlink socket", "permission denied",
    "network is unreachable"]

variable (rt : ModelRuntime) (runner : CommandRunner)

/-- Run the tool and read the interfaces from its output. -/
def readNetworkInterfaces (environ : List (String × String)) (timeoutSeconds : Option ℚ := some 5) :
    Except Raised NetworkInterfaceStatus := do
  let output ← runForOutput rt.text .network unavailablePatterns
    "Network interface data is not available in this environment." runner
    "ip" ["-json", "addr", "show"] timeoutSeconds (plainLocale environ)
  parsedOutput .network "Failed to parse ip output: " output (parseNetworkInterfaces rt output)

/-- The runner, where it returns a result with a zero exit code, has `output` in it. -/
def Prints (environ : List (String × String)) (timeoutSeconds : Option ℚ) (output : String) :
    Prop :=
  PrintsOn runner ["ip", "-json", "addr", "show"] environ timeoutSeconds output

variable {rt runner}

/-- What passes through the adapter passed through the parser. -/
theorem escapes_parse_of_escapes_read {environ : List (String × String)}
    {timeoutSeconds : Option ℚ} {output : String}
    (hprints : Prints runner environ timeoutSeconds output)
    (h : Raises Raised.Escapes (readNetworkInterfaces rt runner environ timeoutSeconds)) :
    Raises PyError.Unhandled (parseNetworkInterfaces rt output) := by
  obtain ⟨printed, hprinted, h⟩ :=
    (raises_bind_iff_of_not _ (not_escapes_runForOutput _ _ _ _ _ _) _).mp h
  obtain rfl := eq_of_printsOn hprints hprinted
  exact (escapes_parsedOutput_iff _ _ _).mp h

end ClassroomSuite.Platform.Network
