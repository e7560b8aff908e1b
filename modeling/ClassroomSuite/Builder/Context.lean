import Mathlib.Algebra.Order.Field.Rat
import ClassroomSuite.Builder.Models
import ClassroomSuite.Library.Region

/-!
# The state of a build

A build runs on a mutable context and on the disk. What it asks of its surroundings (the clocks,
the current directory, the version control, the digest, the rendering of texts) are the fields of
`BuildEnv`; a clock is given by its successive readings, counted in the state.

Source: `cli/src/bcs/builder/context.py`, `cli/src/bcs/builder/execution.py`,
`cli/src/bcs/builder/errors.py`.

## Main definitions

* `BuildContext`, `BuildState`, `BuildEnv`, `BuildEnv.still`, `BuildException`, `BuildM`.
* `consult`, `onDisk`, `catchOSError`.
* `ensureDirectory`, `computeFileChecksum`, `writeJson`.

## Main results

* `keeps_consult`, `keeps_onDisk`, `keeps_catchOSError`: what keeps an invariant of the state.
-/

namespace ClassroomSuite.Builder

open Python Library

/-- What the stages of a build share. -/
structure BuildContext where
  plan : BuildPlan
  workspace : Option BuildWorkspace := none
  metadata : Option BuildMetadata := none
  stageResults : List BuildStageResult := []
  artifacts : List BuildArtifact := []

/-- What a stage may raise. -/
inductive BuildException where
  | osError (e : OSError)
  /-- `WorkspaceError`, with its details. -/
  | workspaceError (message : String) (details : List (String × String))
  /-- Any other exception, by its text. -/
  | other (message : String)

/-- A point in time: as the name of a default workspace has it, and its ISO text. -/
structure Timestamp where
  compact : String
  iso : String

/-- The surroundings of a build. The current directory is an absolute path without `..`, and the
monotonic clock never goes back. The version control looks for its repository in a region of the
tree: the current directory, those above it, and what they and its configuration lead it to. -/
structure BuildEnv where
  cwd : AbsPath
  cwd_canonical : ".." ∉ cwd
  monotonic : ℕ → ℚ≥0
  monotonic_mono : Monotone monotonic
  utcNow : ℕ → Timestamp
  gitCommit : Node FileData → ℕ → Option String
  gitRegion : Region
  gitCommit_congr : ∀ t t', gitRegion.Agree t t' → gitCommit t = gitCommit t'
  sha256 : List UInt8 → String
  dumps : Json → String
  formatSeconds : ℚ≥0 → String
  text : TextRuntime

/-- Surroundings in which nothing happens: the clocks stand still, every file is empty and every
record is the empty one. The version control finds a commit in the repository `/work/.git`, if there
is a directory of this name. -/
def BuildEnv.still : BuildEnv where
  cwd := ["work"]
  cwd_canonical := by decide
  monotonic _ := 0
  monotonic_mono := monotone_const
  utcNow _ := ⟨"20260101T000000", "2026-01-01T00:00:00Z"⟩
  gitCommit t _ := if t.stat ["work", ".git"] = some .dir then some "0a1b2c3" else none
  gitRegion := ⟨{["work", ".git"]}, ∅⟩
  gitCommit_congr t t' h := by rw [h.stat (Region.covers_root rfl)]
  sha256 _ := "e3b0c44298fc1c149afbf4c8996fb92427ae41e4649b934ca495991b7852b855"
  dumps _ := "\x7b\x7d"
  formatSeconds _ := "0.00"
  text := asciiText

/-- The context, the disk, and how often the surroundings have been consulted. -/
structure BuildState where
  context : BuildContext
  disk : Disk
  readings : ℕ := 0

/-- Computations of a build. -/
abbrev BuildM := EStateM BuildException BuildState

/-- The state in which a plan is first run. -/
def BuildState.fresh (plan : BuildPlan) (disk : Disk) : BuildState where
  context := { plan }
  disk := disk

/-- The text of an exception. -/
def BuildException.str (env : BuildEnv) : BuildException → String
  | .osError e => e.str env.text.repr
  | .workspaceError message _ => message
  | .other message => message

/-- Take the next reading of a quantity of the surroundings. -/
def consult {α : Type} (reading : ℕ → α) : BuildM α := fun s =>
  .ok (reading s.readings) { s with readings := s.readings + 1 }

/-- The time since `start`. -/
def elapsed (env : BuildEnv) (start : ℚ≥0) : BuildM ℚ≥0 := do
  return (← consult env.monotonic) - start

/-- A computation on the disk of the build. -/
def onDisk {α : Type} (m : DiskIO α) : BuildM α :=
  onPart BuildState.disk (fun s d => { s with disk := d }) .osError m

/-- Handle the errors of the operating system that `m` raises, and no others. -/
def catchOSError {α : Type} (m : BuildM α) (handler : OSError → BuildM α) : BuildM α :=
  tryCatch m fun
    | .osError e => handler e
    | e => throw e

/-- The bytes of a text. -/
def encodeUtf8 (s : String) : List UInt8 := s.toUTF8.data.toList

/-- `ensure_directory`. -/
def ensureDirectory (p : AbsPath) : BuildM Unit := onDisk (Disk.mkdirParents p)

/-- `compute_file_checksum`. -/
def computeFileChecksum (env : BuildEnv) (p : AbsPath) : BuildM String := do
  return env.sha256 (← onDisk (Disk.readFile p))

/-- Write a text file, creating its directory if necessary. -/
def writeText (p : AbsPath) (text : String) : BuildM Unit := do
  ensureDirectory p.dropLast
  onDisk (Disk.writeFile p (encodeUtf8 text))

/-- `write_json`. -/
def writeJson (env : BuildEnv) (p : AbsPath) (data : Json) : BuildM Unit :=
  writeText p (env.dumps data)

theorem onDisk_apply {α : Type} (m : DiskIO α) (s : BuildState) :
    onDisk m s = match m s.disk with
      | .ok a d => .ok a { s with disk := d }
      | .error e d => .error (.osError e) { s with disk := d } := by
  unfold onDisk onPart
  cases m s.disk <;> rfl

/-! ### Invariants of the primitive computations -/

variable {I : BuildState → Prop} {α : Type}

@[simp] theorem consult_apply (reading : ℕ → α) (s : BuildState) :
    consult reading s = .ok (reading s.readings) { s with readings := s.readings + 1 } := rfl

theorem keeps_consult (h : ∀ s n, I s → I { s with readings := n }) (reading : ℕ → α) :
    Keeps I (consult reading) := fun s hs => h s (s.readings + 1) hs

/-- A computation on the disk keeps what it keeps of the disk, and everything that does not depend
on the disk. -/
theorem keeps_onDisk {J : Disk → Prop} {m : DiskIO α} (hm : Keeps J m) (hJ : ∀ s, I s → J s.disk)
    (hI : ∀ s d, I s → J d → I { s with disk := d }) : Keeps I (onDisk m) :=
  Hoare.onPart hm hJ (fun s _ d => hI s d) (fun s _ d => hI s d)

theorem keeps_catchOSError {m : BuildM α} {handler : OSError → BuildM α} (hm : Keeps I m)
    (hhandler : ∀ e, Keeps I (handler e)) : Keeps I (catchOSError m handler) := by
  refine hm.tryCatch fun e => ?_
  cases e with
  | osError e => exact hhandler e
  | workspaceError message details => exact Keeps.throw _
  | other message => exact Keeps.throw _

/-- Continuing with the present state, of which the invariant holds. -/
theorem keeps_get_bind {k : BuildState → BuildM α} (h : ∀ s, I s → Keeps I (k s)) :
    Keeps I (get >>= k) := fun s hs => h s hs s hs

end ClassroomSuite.Builder
