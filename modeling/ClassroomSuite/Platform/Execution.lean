import Mathlib.Data.List.Infix
import ClassroomSuite.Library.Assoc
import ClassroomSuite.Python.Validation

/-!
# Running external commands

An adapter runs a command, takes its standard output, and parses it. A command that fails and an
output that cannot be parsed become exceptions of one hierarchy, which callers handle as a whole;
every other exception passes through. The adapters differ in their domain, their commands, and the
messages by which they recognize an environment that has no data.

Source: `cli/src/bcs/platform/models.py`, `cli/src/bcs/platform/errors.py`,
`cli/src/bcs/platform/execution.py`, and what the adapters in `cli/src/bcs/platform/adapters` have
in common.

## Main definitions

* `CommandResult`, `PlatformError`, `Raised`.
* `RunRequest`, `CommandRunner`.
* `runForOutput`, `parsedOutput`: the two halves of an adapter.
* `PrintsOn`: what a runner prints on a command.

## Main results

* `runForOutput_eq_ok_iff`, `runForOutput_bind_of_exitCode_ne`: the output of a command.
* `not_escapes_runForOutput`, `escapes_parsedOutput_iff`: what passes through an adapter.
* `not_escapes_iff`.
-/

namespace ClassroomSuite.Platform

open Python Library

/-- The outcome of a command. It has an exit code unless it was killed for its timeout. The times
are in microseconds, the duration is in seconds. -/
structure CommandResult where
  command : List String
  stdout : String
  stderr : String
  exitCode : Option ℤ
  duration : ℚ
  startedAt : ℤ
  finishedAt : ℤ
  workingDirectory : Option String := none
  timedOut : Bool
  command_ne_nil : command ≠ []
  duration_nonneg : 0 ≤ duration
  exitCode_eq_none_iff : exitCode = none ↔ timedOut = true
  startedAt_le_finishedAt : startedAt ≤ finishedAt

/-- The result of a command that ended by itself after some seconds. -/
def CommandResult.ended (command : List String) (h : command ≠ []) (stdout stderr : String)
    (exitCode : ℤ) (seconds : ℕ) : CommandResult where
  command := command
  stdout := stdout
  stderr := stderr
  exitCode := some exitCode
  duration := seconds
  startedAt := 0
  finishedAt := seconds * 1000000
  timedOut := false
  command_ne_nil := h
  duration_nonneg := Rat.natCast_nonneg
  exitCode_eq_none_iff := by simp
  startedAt_le_finishedAt := by omega

/-- The domains that have an adapter. -/
inductive AdapterDomain where
  | firmwareBoot
  | secureBoot
  | storage
  | filesystem
  | network
  deriving DecidableEq, Repr

/-- How the names of the exceptions of a domain begin. -/
def AdapterDomain.className : AdapterDomain → String
  | .firmwareBoot => "FirmwareBoot"
  | .secureBoot => "SecureBoot"
  | .storage => "Storage"
  | .filesystem => "Filesystem"
  | .network => "Network"

/-- The exceptions of the platform layer: those of the runner, and the three of each adapter. -/
inductive PlatformError where
  | commandNotFound (message executable : String)
  | commandTimeout (message : String) (partialResult : CommandResult)
  | commandExecution (message : String) (result : CommandResult)
  | adapterError (domain : AdapterDomain) (message : String) (result : Option CommandResult)
  | adapterUnavailable (domain : AdapterDomain) (message : String)
      (result : Option CommandResult)
  | adapterParse (domain : AdapterDomain) (message text : String)

namespace PlatformError

/-- The name of the class of an exception. -/
def className : PlatformError → String
  | .commandNotFound .. => "CommandNotFoundError"
  | .commandTimeout .. => "CommandTimeoutError"
  | .commandExecution .. => "CommandExecutionError"
  | .adapterError domain .. => domain.className ++ "Error"
  | .adapterUnavailable domain .. => domain.className ++ "UnavailableError"
  | .adapterParse domain .. => domain.className ++ "ParseError"

/-- The exception is one of the three of the domain. -/
def IsOf (domain : AdapterDomain) : PlatformError → Prop
  | .commandNotFound .. | .commandTimeout .. | .commandExecution .. => False
  | .adapterError d .. | .adapterUnavailable d .. | .adapterParse d .. => d = domain

/-- The text of an exception. -/
def message : PlatformError → String
  | .commandNotFound message _ | .commandTimeout message _ | .commandExecution message _ => message
  | .adapterError _ message _ | .adapterUnavailable _ message _ => message
  | .adapterParse _ message _ => message

end PlatformError

/-- An exception of the platform layer, or one of the interpreter that passes through it. -/
inductive Raised where
  | platform (e : PlatformError)
  | python (e : PyError)

/-- The exception is not one of the platform layer. -/
def Raised.Escapes : Raised → Prop
  | .platform _ => False
  | .python _ => True

/-- What a runner is asked for. -/
structure RunRequest where
  command : List String
  timeoutSeconds : Option ℚ := none
  check : Bool := false
  cwd : Option String := none
  env : List (String × String)
  inputText : Option String := none

/-- Whatever runs commands: it returns a result or raises an exception of the platform layer. -/
abbrev CommandRunner := RunRequest → Except PlatformError CommandResult

/-! ### Adapters -/

/-- The environment of a command: that of the process, with the plain locale. -/
def plainLocale (environ : List (String × String)) : List (String × String) :=
  assocSet "LC_ALL" "C" (assocSet "LANG" "C" environ)

/-- Whether an error output has one of the patterns, whatever its case. -/
def isUnavailable (rt : TextRuntime) (patterns : List String) (stderr : String) : Bool :=
  patterns.any fun pattern => pattern.toList <:+: (rt.lower stderr).toList

/-- The text of an exit code. -/
def exitCodeStr : Option ℤ → String
  | none => "None"
  | some code => toString code

/-- The output of a command that succeeded. A failure is one of the environment if the error output
says so. -/
def successOutput (rt : TextRuntime) (domain : AdapterDomain) (patterns : List String)
    (tool unavailable : String) (result : CommandResult) : Except Raised String :=
  if result.exitCode = some 0 then .ok result.stdout
  else if isUnavailable rt patterns result.stderr then
    .error (.platform (.adapterUnavailable domain unavailable (some result)))
  else
    .error (.platform (.adapterError domain
      (tool ++ " exited with code " ++ exitCodeStr result.exitCode ++ ".") (some result)))

/-- Run a command and take its output. -/
def runForOutput (rt : TextRuntime) (domain : AdapterDomain) (patterns : List String)
    (unavailable : String) (runner : CommandRunner) (tool : String) (args : List String)
    (timeoutSeconds : Option ℚ) (env : List (String × String)) : Except Raised String :=
  match runner { command := tool :: args, timeoutSeconds, env } with
  | .error e => .error (.platform e)
  | .ok result => successOutput rt domain patterns tool unavailable result

/-- What was parsed from an output. A value error becomes the parse error of the domain. -/
def parsedOutput {α : Type} (domain : AdapterDomain) (failure text : String)
    (parsed : Except PyError α) : Except Raised α :=
  match parsed with
  | .ok a => .ok a
  | .error e =>
    if e.isValueError then .error (.platform (.adapterParse domain (failure ++ e.str) text))
    else .error (.python e)

/-- The runner, where it returns a result of the command with a zero exit code, has `output` in
it. -/
def PrintsOn (runner : CommandRunner) (command : List String) (environ : List (String × String))
    (timeoutSeconds : Option ℚ) (output : String) : Prop :=
  ∀ result, runner { command, timeoutSeconds, env := plainLocale environ } = .ok result →
    result.exitCode = some 0 → result.stdout = output

/-- Every runner prints something on a command. -/
theorem exists_printsOn (runner : CommandRunner) (command : List String)
    (environ : List (String × String)) (timeoutSeconds : Option ℚ) :
    ∃ output, PrintsOn runner command environ timeoutSeconds output := by
  unfold PrintsOn
  cases runner { command, timeoutSeconds, env := plainLocale environ } with
  | error e => exact ⟨"", fun result hresult => by cases hresult⟩
  | ok result => exact ⟨result.stdout, fun result' hresult _ => by rw [Except.ok.inj hresult]⟩

variable {rt : TextRuntime} {domain : AdapterDomain} {patterns : List String}

/-! ### The output of a command -/

section Output

variable {unavailable tool : String} {runner : CommandRunner} {args : List String}
  {timeoutSeconds : Option ℚ} {env : List (String × String)} {output : String}

/-- A command that succeeds gives its output, and none other does. -/
theorem runForOutput_eq_ok_iff :
    runForOutput rt domain patterns unavailable runner tool args timeoutSeconds env = .ok output ↔
      ∃ result, runner { command := tool :: args, timeoutSeconds, env } = .ok result ∧
        result.exitCode = some 0 ∧ result.stdout = output := by
  rw [runForOutput]
  cases runner { command := tool :: args, timeoutSeconds, env } with
  | error e => simp
  | ok result =>
    simp only [successOutput, Except.ok.injEq, exists_eq_left']
    by_cases hcode : result.exitCode = some 0
    · rw [if_pos hcode, Except.ok.injEq, and_iff_right hcode]
    · rw [if_neg hcode]
      refine iff_of_false (fun h => ?_) fun h => hcode h.1
      split_ifs at h

/-- A command that fails gives an error of the domain, whatever is done with its output. -/
theorem runForOutput_bind_of_exitCode_ne {α : Type} {result : CommandResult}
    (hresult : runner { command := tool :: args, timeoutSeconds, env } = .ok result)
    (hcode : result.exitCode ≠ some 0) (f : String → Except Raised α) :
    ∃ e, (runForOutput rt domain patterns unavailable runner tool args timeoutSeconds env >>= f) =
      .error (.platform e) ∧ e.IsOf domain := by
  rw [runForOutput, hresult]
  dsimp only
  rw [successOutput, if_neg hcode]
  split_ifs
  · exact ⟨_, rfl, rfl⟩
  · exact ⟨_, rfl, rfl⟩

/-- The output of a command is what the runner prints. -/
theorem eq_of_printsOn {environ : List (String × String)} {output' : String}
    (hprints : PrintsOn runner (tool :: args) environ timeoutSeconds output)
    (h : runForOutput rt domain patterns unavailable runner tool args timeoutSeconds
      (plainLocale environ) = .ok output') :
    output' = output := by
  obtain ⟨result, hresult, hcode, rfl⟩ := runForOutput_eq_ok_iff.mp h
  exact hprints result hresult hcode

end Output

/-! ### What passes through -/

theorem not_escapes_successOutput (tool unavailable : String) (result : CommandResult) :
    ¬ Raises Raised.Escapes (successOutput rt domain patterns tool unavailable result) := by
  unfold successOutput
  split_ifs <;> simp [Raised.Escapes]

/-- Running a command raises exceptions of the platform layer only. -/
theorem not_escapes_runForOutput (unavailable : String) (runner : CommandRunner) (tool : String)
    (args : List String) (timeoutSeconds : Option ℚ) (env : List (String × String)) :
    ¬ Raises Raised.Escapes
      (runForOutput rt domain patterns unavailable runner tool args timeoutSeconds env) := by
  unfold runForOutput
  split
  · simp [Raised.Escapes]
  · exact not_escapes_successOutput _ _ _

/-- What passes through parsing is what is no value error. -/
theorem escapes_parsedOutput_iff {α : Type} (failure text : String) (parsed : Except PyError α) :
    Raises Raised.Escapes (parsedOutput domain failure text parsed) ↔
      Raises PyError.Unhandled parsed := by
  cases parsed with
  | ok a => simp [parsedOutput]
  | error e =>
    cases he : e.isValueError <;> simp [parsedOutput, he, Raised.Escapes, PyError.Unhandled]

theorem not_escapes_iff {α : Type} (m : Except Raised α) :
    ¬ Raises Raised.Escapes m ↔ (∃ a, m = .ok a) ∨ ∃ e, m = .error (.platform e) := by
  rw [not_raises_iff]
  refine or_congr_right ⟨?_, fun ⟨e, he⟩ => ⟨_, he, not_false⟩⟩
  rintro ⟨e, he, hescapes⟩
  cases e with
  | platform e => exact ⟨e, he⟩
  | python e => exact absurd trivial hescapes

end ClassroomSuite.Platform
