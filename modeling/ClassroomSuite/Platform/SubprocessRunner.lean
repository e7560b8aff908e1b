import Mathlib.Algebra.Order.Field.Basic
import Mathlib.Algebra.Order.Ring.Rat
import Mathlib.Tactic.NormNum
import ClassroomSuite.Library.Disk
import ClassroomSuite.Platform.Execution

/-!
# Running a child process

The runner of the program spawns a child, waits for it, and puts what it finds into a result. It
reads the wall clock before and after, and the wall clock may have been set in between. The result
validates what it is given, and raises an exception of its own where the fields do not agree; a
child that cannot be spawned raises an error of the operating system, of which the runner translates
some.

Source: `SubprocessCommandRunner` of `cli/src/bcs/platform/execution.py`, `CommandResult` of
`cli/src/bcs/platform/models.py`.

## Main definitions

* `ResultFields`, `CommandResult.ofFields`: the validation of a result.
* `ChildOutcome`, `ProcessHost`: what a call of the runner meets.
* `SubprocessCommandRunner.run`.
* `RunClosed`: the guarantee about a call.
* `ProcessHost.Regular`: the runner translates what it meets, and its clock has not gone back.

## Main results

* `ResultFields.problems_eq_nil_iff`: which fields make a result.
* `SubprocessCommandRunner.closed_iff`: when the guarantee holds.
* `SubprocessCommandRunner.exists_commandRunner`: what the adapters rely on.
-/

namespace ClassroomSuite.Platform

open Python Library

/-! ### Validating a result -/

/-- What a result is made of. -/
structure ResultFields where
  command : List String
  stdout : String
  stderr : String
  exitCode : Option ℤ
  duration : ℚ
  startedAt : ℤ
  finishedAt : ℤ
  workingDirectory : Option String
  timedOut : Bool

/-- The problems of the single fields. -/
def ResultFields.fieldProblems (fields : ResultFields) : List FieldProblem :=
  (if fields.command = [] then
    [⟨"command", .invalid "Tuple should have at least 1 item after validation, not 0"⟩]
  else []) ++
  if fields.duration < 0 then [⟨"duration", .below 0⟩] else []

/-- The problem between the exit code and the timeout (`_check_timed_out_matches_exit_code`). -/
def ResultFields.exitCodeProblem (fields : ResultFields) : List FieldProblem :=
  if fields.timedOut = true ∧ fields.exitCode ≠ none then
    [⟨"", .invalid "exit_code must be None when timed_out is True"⟩]
  else if fields.timedOut = false ∧ fields.exitCode = none then
    [⟨"", .invalid "exit_code is required (must not be None) when timed_out is False"⟩]
  else []

/-- The problem between the times (`_check_finished_at_not_before_started_at`). -/
def ResultFields.timesProblem (fields : ResultFields) : List FieldProblem :=
  if fields.finishedAt < fields.startedAt then
    [⟨"", .invalid "finished_at must not be before started_at"⟩]
  else []

/-- What the validation reports. The fields are compared with each other only if each is valid, and
the first comparison that fails ends it. -/
def ResultFields.problems (fields : ResultFields) : List FieldProblem :=
  if fields.fieldProblems ≠ [] then fields.fieldProblems
  else if fields.exitCodeProblem ≠ [] then fields.exitCodeProblem
  else fields.timesProblem

theorem ResultFields.problems_eq_nil_iff (fields : ResultFields) :
    fields.problems = [] ↔ fields.command ≠ [] ∧ 0 ≤ fields.duration ∧
      (fields.exitCode = none ↔ fields.timedOut = true) ∧
        fields.startedAt ≤ fields.finishedAt := by
  have hfields : fields.fieldProblems = [] ↔ fields.command ≠ [] ∧ 0 ≤ fields.duration := by
    simp [ResultFields.fieldProblems]
  have hexit : fields.exitCodeProblem = [] ↔
      (fields.exitCode = none ↔ fields.timedOut = true) := by
    unfold ResultFields.exitCodeProblem
    cases fields.timedOut <;> cases fields.exitCode <;> simp
  have htimes : fields.timesProblem = [] ↔ fields.startedAt ≤ fields.finishedAt := by
    simp [ResultFields.timesProblem]
  rw [ResultFields.problems, ← and_assoc, ← hfields, ← hexit, ← htimes]
  split_ifs with h h' <;> tauto

/-- The construction of a result. -/
def CommandResult.ofFields (rt : ModelRuntime) (fields : ResultFields) :
    Except PyError CommandResult :=
  if h : fields.problems = [] then
    have hvalid := fields.problems_eq_nil_iff.mp h
    .ok {
      command := fields.command
      stdout := fields.stdout
      stderr := fields.stderr
      exitCode := fields.exitCode
      duration := fields.duration
      startedAt := fields.startedAt
      finishedAt := fields.finishedAt
      workingDirectory := fields.workingDirectory
      timedOut := fields.timedOut
      command_ne_nil := hvalid.1
      duration_nonneg := hvalid.2.1
      exitCode_eq_none_iff := hvalid.2.2.1
      startedAt_le_finishedAt := hvalid.2.2.2 }
  else .error (.validationError (rt.renderProblems "CommandResult" fields.problems))

/-- Fields without a problem make a result. -/
theorem CommandResult.ofFields_eq_ok (rt : ModelRuntime) {fields : ResultFields}
    (h : fields.problems = []) : ∃ result, CommandResult.ofFields rt fields = .ok result :=
  ⟨_, dif_pos h⟩

/-- Fields with a problem fail the validation. -/
theorem CommandResult.ofFields_eq_error (rt : ModelRuntime) {fields : ResultFields}
    (h : fields.problems ≠ []) : CommandResult.ofFields rt fields =
      .error (.validationError (rt.renderProblems "CommandResult" fields.problems)) :=
  dif_neg h

/-! ### The child process -/

/-- Output taken from a child: nothing, a text, or bytes that have not been decoded. -/
inductive Captured where
  | absent
  | text (s : String)
  | bytes (data : List UInt8)

/-- The text of the output (`_decode`). -/
def Captured.decode : Captured → String
  | .absent => ""
  | .text s => s
  | .bytes data => decodeReplace data

/-- What becomes of a child. -/
inductive ChildOutcome where
  | completed (returncode : ℤ) (stdout stderr : Captured)
  | osError (e : OSError)
  | timeoutExpired (stdout stderr : Captured)

/-- What one call of the runner meets: the child, and the wall clock before and after it, in
microseconds. -/
structure ProcessHost where
  spawn : RunRequest → ChildOutcome
  before : ℤ
  after : ℤ

/-- The error is that of a file that is not there (`FileNotFoundError`). -/
def isFileNotFoundError (e : OSError) : Bool := e.errno.code = Errno.enoent.code

/-- The error is that of an operation that is not permitted (`PermissionError`). -/
def isPermissionError (e : OSError) : Bool :=
  e.errno.code = Errno.eacces.code || e.errno.code = Errno.eperm.code

/-- An exception that leaves the runner: one of the platform layer, an error of the operating
system, or one of the interpreter. -/
inductive RunRaised where
  | platform (e : PlatformError)
  | osError (e : OSError)
  | python (e : PyError)

/-- The exception is not one of the platform layer. -/
def RunRaised.Escapes : RunRaised → Prop
  | .platform _ => False
  | .osError _ | .python _ => True

/-- A call has returned a result whose fields agree, or raised an exception of the platform
layer. -/
def RunClosed (outcome : Except RunRaised CommandResult) : Prop :=
  (∃ r, outcome = .ok r ∧ 0 ≤ r.duration ∧ r.startedAt ≤ r.finishedAt ∧
    (r.exitCode = none ↔ r.timedOut = true)) ∨ ∃ e, outcome = .error (.platform e)

/-- The fields of a result agree, so only an exception can break the closure. -/
theorem runClosed_iff (outcome : Except RunRaised CommandResult) :
    RunClosed outcome ↔ ¬ Raises RunRaised.Escapes outcome := by
  unfold RunClosed
  cases outcome with
  | ok r => simp [r.duration_nonneg, r.startedAt_le_finishedAt, r.exitCode_eq_none_iff]
  | error e => cases e <;> simp [RunRaised.Escapes]

/-- The text of a tuple of texts. -/
def reprTuple (rt : TextRuntime) : List String → String
  | [s] => "(" ++ rt.repr s ++ ",)"
  | items => "(" ++ ", ".intercalate (items.map rt.repr) ++ ")"

/-- The text of a timeout. -/
def timeoutStr (rt : ModelRuntime) : Option ℚ → String
  | none => "None"
  | some seconds => rt.reprJson (.float (.finite seconds))

/-- Whether a command completed with a zero exit code. -/
def CommandResult.success (result : CommandResult) : Bool :=
  result.exitCode = some 0 && !result.timedOut

namespace SubprocessCommandRunner

/-- The fields of the result of a call. -/
def fields (host : ProcessHost) (request : RunRequest) (exitCode : Option ℤ)
    (stdout stderr : Captured) (timedOut : Bool) : ResultFields where
  command := request.command
  stdout := stdout.decode
  stderr := stderr.decode
  exitCode := exitCode
  -- Dividing floats may round, which leaves the sign as it is.
  duration := (host.after - host.before : ℤ) / 1000000
  startedAt := host.before
  finishedAt := host.after
  workingDirectory := request.cwd
  timedOut := timedOut

/-- The result of a call. -/
def result (rt : ModelRuntime) (host : ProcessHost) (request : RunRequest) (exitCode : Option ℤ)
    (stdout stderr : Captured) (timedOut : Bool) : Except RunRaised CommandResult :=
  (CommandResult.ofFields rt (fields host request exitCode stdout stderr timedOut)).mapError .python

/-- A call of the runner. -/
def run (rt : ModelRuntime) (host : ProcessHost) (request : RunRequest) :
    Except RunRaised CommandResult :=
  match request.command with
  | [] => .error (.python (.valueError "command must not be empty"))
  | executable :: _ =>
    match host.spawn request with
    | .osError e =>
      if isFileNotFoundError e || isPermissionError e then
        .error (.platform (.commandNotFound (rt.text.repr executable ++
          " could not be executed: " ++ e.str rt.text.repr) executable))
      else .error (.osError e)
    | .timeoutExpired stdout stderr => do
      let partialResult ← result rt host request none stdout stderr true
      .error (.platform (.commandTimeout ("command " ++ reprTuple rt.text request.command ++
        " timed out after " ++ timeoutStr rt request.timeoutSeconds ++ "s") partialResult))
    | .completed returncode stdout stderr => do
      let result ← result rt host request (some returncode) stdout stderr false
      if request.check && !result.success then
        .error (.platform (.commandExecution ("command " ++ reprTuple rt.text request.command ++
          " exited with code " ++ exitCodeStr result.exitCode) result))
      else .ok result

end SubprocessCommandRunner

/-- The child has been spawned and the clock has not gone back meanwhile, or the child could not be
spawned because its executable is not there or may not be executed. -/
def ProcessHost.Regular (host : ProcessHost) (request : RunRequest) : Prop :=
  match host.spawn request with
  | .osError e => isFileNotFoundError e = true ∨ isPermissionError e = true
  | .completed .. | .timeoutExpired .. => host.before ≤ host.after

namespace SubprocessCommandRunner

variable {rt : ModelRuntime} {host : ProcessHost} {request : RunRequest}

/-! ### What leaves the runner -/

theorem duration_nonneg_iff (exitCode : Option ℤ) (stdout stderr : Captured) (timedOut : Bool) :
    0 ≤ (fields host request exitCode stdout stderr timedOut).duration ↔
      host.before ≤ host.after := by
  rw [fields, le_div_iff₀ (by norm_num), zero_mul, Int.cast_nonneg_iff, sub_nonneg]

/-- A result, which has an exit code unless there was a timeout, is valid unless the clock has gone
back. -/
theorem escapes_result_iff (hcommand : request.command ≠ []) {exitCode : Option ℤ}
    (stdout stderr : Captured) {timedOut : Bool} (hexit : exitCode = none ↔ timedOut = true) :
    Raises RunRaised.Escapes (result rt host request exitCode stdout stderr timedOut) ↔
      ¬ host.before ≤ host.after := by
  have hproblems : (fields host request exitCode stdout stderr timedOut).problems = [] ↔
      host.before ≤ host.after := by
    rw [ResultFields.problems_eq_nil_iff, duration_nonneg_iff]
    exact ⟨fun h => h.2.1, fun h => ⟨hcommand, h, hexit, h⟩⟩
  rw [← hproblems, result]
  by_cases h : (fields host request exitCode stdout stderr timedOut).problems = []
  · obtain ⟨r, hr⟩ := CommandResult.ofFields_eq_ok rt h
    simp [hr, h, Except.mapError]
  · simp [CommandResult.ofFields_eq_error rt h, h, Except.mapError, RunRaised.Escapes]

/-- An exception that is not of the platform layer leaves a call exactly when the runner meets
something irregular. -/
theorem escapes_run_iff (rt : ModelRuntime) (hcommand : request.command ≠ []) :
    Raises RunRaised.Escapes (run rt host request) ↔ ¬ host.Regular request := by
  obtain ⟨executable, args, hrequest⟩ := List.exists_cons_of_ne_nil hcommand
  unfold run ProcessHost.Regular
  rw [hrequest]
  dsimp only
  cases host.spawn request with
  | osError e =>
    dsimp only
    rw [← Bool.or_eq_true]
    split_ifs with h <;> simp [h, RunRaised.Escapes]
  | timeoutExpired stdout stderr =>
    dsimp only
    rw [raises_bind_iff_left]
    · exact escapes_result_iff hcommand stdout stderr (by simp)
    · simp [RunRaised.Escapes]
  | completed returncode stdout stderr =>
    dsimp only
    rw [raises_bind_iff_left]
    · exact escapes_result_iff hcommand stdout stderr (by simp)
    · intro r
      split_ifs <;> simp [RunRaised.Escapes]

/-- A call with a nonempty command returns a result, whose fields agree, or raises an exception of
the platform layer, exactly when the runner meets nothing irregular. -/
theorem closed_iff (rt : ModelRuntime) (host : ProcessHost) (request : RunRequest)
    (hcommand : request.command ≠ []) :
    RunClosed (run rt host request) ↔ host.Regular request := by
  rw [← not_iff_not, ← escapes_run_iff rt hcommand, runClosed_iff, not_not]

/-- A request for one command without arguments. -/
def bareRequest (executable : String) : RunRequest where
  command := [executable]
  env := []

/-- A host on which every child succeeds silently. -/
def silentHost (before after : ℤ) : ProcessHost where
  spawn _ := .completed 0 (.text "") (.text "")
  before := before
  after := after

/-- A host that cannot spawn a child. -/
def failingHost (e : OSError) : ProcessHost where
  spawn _ := .osError e
  before := 0
  after := 0

/-- `closed_iff` for a command that succeeds in a second. -/
theorem closed_silent :
    RunClosed (run (.reading "" .null) (silentHost 0 1000000) (bareRequest "true")) := by
  refine (closed_iff _ _ _ (List.cons_ne_nil _ _)).mpr ?_
  change (0 : ℤ) ≤ 1000000
  norm_num

/-- A call leaks a failed validation when the clock has been set back by a second, and the error of
the operating system when the file has no format that can be executed. -/
theorem run_leaks :
    ¬ RunClosed (run (.reading "" .null) (silentHost 1000000 0) (bareRequest "true")) ∧
      ¬ RunClosed (run (.reading "" .null) (failingHost ⟨.enoexec, some "script"⟩)
        (bareRequest "script")) := by
  constructor
  · rw [runClosed_iff, not_not, escapes_run_iff _ (List.cons_ne_nil _ _)]
    change ¬ (1000000 : ℤ) ≤ 0
    norm_num
  · rw [runClosed_iff, not_not]
    exact ⟨_, rfl, trivial⟩

/-- Where no call meets anything irregular, the calls are those of a runner as the adapters take
it. -/
theorem exists_commandRunner (rt : ModelRuntime) (hosts : RunRequest → ProcessHost)
    (hregular : ∀ request, (hosts request).Regular request) :
    ∃ runner : CommandRunner, ∀ request, request.command ≠ [] →
      run rt (hosts request) request = (runner request).mapError .platform := by
  have houtcome : ∀ request, ∃ outcome : Except PlatformError CommandResult,
      request.command ≠ [] → run rt (hosts request) request = outcome.mapError .platform := by
    intro request
    by_cases hcommand : request.command = []
    · exact ⟨.error (.commandNotFound "" ""), fun h => absurd hcommand h⟩
    · rcases (closed_iff rt _ request hcommand).mpr (hregular request) with ⟨r, hr, -⟩ | ⟨e, he⟩
      · exact ⟨.ok r, fun _ => hr⟩
      · exact ⟨.error e, fun _ => he⟩
  choose runner hrunner using houtcome
  exact ⟨runner, hrunner⟩


end SubprocessCommandRunner

end ClassroomSuite.Platform
