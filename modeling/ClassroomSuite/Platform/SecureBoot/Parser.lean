import Mathlib.Data.List.Basic
import ClassroomSuite.Platform.SecureBoot.Models
import ClassroomSuite.Python.Lines

/-!
# Parsing the Secure Boot status

The status is read line by line. A stripped line that begins with one of two names and white space
gives it a value, of which a later one replaces an earlier one, and a value other than `enabled` and
`disabled` is an error; any other line is passed over.

Source: `cli/src/bcs/platform/adapters/secureboot/parser.py`.

## Main definitions

* `prefixMatches`, `matchValue`: the patterns.
* `LineItem`, `readLine`: what a line says.
* `Parsed`, `Parsed.assign`, `parseSecureBootStatus`.
-/

namespace ClassroomSuite.Platform.SecureBoot

open Python Library

variable (rt : TextRuntime)

/-- `^name\s`. -/
def prefixMatches (name : String) (stripped : List Char) : Bool :=
  match stripped.dropPrefix? name.toList with
  | some (c :: _) => isSpace c
  | _ => false

/-- `^name\s+(enabled|disabled)$`, where the line does not end with white space: whether the value
is `enabled`. -/
def matchValue (name : String) (stripped : List Char) : Option Bool :=
  if prefixMatches name stripped then
    let value := (stripped.drop name.toList.length).dropWhile isSpace
    if value = "enabled".toList then some true
    else if value = "disabled".toList then some false
    else none
  else none

/-- The error about a field whose value cannot be read. -/
def malformed (fieldName : String) (line : List Char) (number : ℕ) : PyError :=
  .valueError ("malformed " ++ fieldName ++ " line (line " ++ toString number ++ "): " ++
    rt.repr (String.ofList line))

/-- What a line says. -/
inductive LineItem where
  | secureBoot (enabled : Bool)
  | setupMode (enabled : Bool)
  | unrecognized
  deriving DecidableEq, Repr

/-- What a line says, if it is one of those known. -/
def readLine (line : List Char) (number : ℕ) : Except PyError LineItem :=
  let stripped := strip isSpace line
  if stripped.isEmpty then .ok .unrecognized
  else if prefixMatches "SecureBoot" stripped then
    match matchValue "SecureBoot" stripped with
    | none => .error (malformed rt "SecureBoot" line number)
    | some enabled => .ok (.secureBoot enabled)
  else if prefixMatches "SetupMode" stripped then
    match matchValue "SetupMode" stripped with
    | none => .error (malformed rt "SetupMode" line number)
    | some enabled => .ok (.setupMode enabled)
  else .ok .unrecognized

/-- What has been read. -/
structure Parsed where
  state : SecureBootState := .unknown
  setupMode : Option Bool := none

/-- The state of a value. -/
def stateOf (enabled : Bool) : SecureBootState := if enabled then .enabled else .disabled

/-- What has been read so far with what a line says, which replaces what was there. -/
def Parsed.assign (parsed : Parsed) : LineItem → Parsed
  | .secureBoot enabled => { parsed with state := stateOf enabled }
  | .setupMode enabled => { parsed with setupMode := some enabled }
  | .unrecognized => parsed

/-- Read an output line by line. -/
def parseSecureBootStatus (text : String) : Except PyError SecureBootStatus := do
  let items ← ((splitLines text.toList).zipIdx 1).mapM fun (line, number) => readLine rt line number
  let parsed := items.foldl Parsed.assign {}
  return { state := parsed.state, setupMode := parsed.setupMode, rawText := text }

end ClassroomSuite.Platform.SecureBoot
