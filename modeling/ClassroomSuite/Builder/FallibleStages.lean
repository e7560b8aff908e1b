import ClassroomSuite.Builder.StageInvariants

/-!
# The built-in stages where tests of paths may fail

In the stages as they are modelled first, asking whether a path exists and what a directory lists
reads the tree of the disk. An operating system may refuse to answer these as well. Here each such
test, the resolution of a path and the look-up of the current directory are operations that may
fail, and everything else is as before: a stage that does not expect the error leaves it to the
pipeline, and the creation of a workspace returns it.

Source: `cli/src/bcs/builder/stages.py`, `cli/src/bcs/builder/workspace.py`.

## Main definitions

* `ask`.
* `BuiltinStage.fallible`.

## Main results

* `BuiltinStage.fallible_false`: where no test fails, the stages are the ones modelled first.
-/

namespace ClassroomSuite.Builder

open Python Library

/-- Ask the operating system about a path. If tests may fail, this is an operation on the disk. -/
def ask (fallible : Bool) (filename : String) : BuildM Unit :=
  if fallible then onDisk do
    match ← Disk.nextFault with
    | some f => throw ⟨f.errno, some filename⟩
    | none => return ()
  else return ()

/-- A test of a path leaves the tree as it is. -/
theorem TreeInvariant.ask {I : BuildState → Prop} (hI : TreeInvariant I) (fallible : Bool)
    (filename : String) : Keeps I (ask fallible filename) := by
  unfold Builder.ask
  split
  · refine hI.onDisk fun t => ?_
    rintro d rfl
    cases hf : d.faults d.tick <;> simp [bind_apply, hf]
  · exact Keeps.pure _

namespace Fallible

variable (env : BuildEnv) (fallible : Bool)

/-- The file is looked for, and if there is something, asked for its type. -/
def validateConfigStage : BuildStage where
  name := "validate-config"
  run := do
    let start ← consult env.monotonic
    let s ← get
    let path := s.context.plan.configPath
    ask fallible path.str
    ask (fallible && (path.lookup s.disk.tree env.cwd).isSome) path.str
    match configProblem env s.disk.tree path with
    | some problem => makeResult env "validate-config" start false 1 problem []
    | none =>
      makeResult env "validate-config" start true 0 ("Config file validated: " ++ path.str) []

/-- The default root is named after the current directory, which may be gone. -/
def workspaceRoot : BuildM PurePath := do
  match (← get).context.plan.workspaceRoot with
  | some root => return root
  | none => do
    ask fallible "."
    let now ← consult env.utcNow
    return (PurePath.ofAbs env.cwd).join (.ofString (".bcs-build-" ++ now.compact))

/-- The root is resolved, looked for and listed before the directories are created. -/
def createWorkspace (root : PurePath) : BuildM (Except String BuildWorkspace) :=
  tryCatch (do
    let manager := BuildWorkspaceManager.ofPath env root
    ask fallible root.str
    ask fallible (AbsPath.str manager.root)
    let s ← get
    ask (fallible && (s.disk.tree.stat manager.root).isSome) (AbsPath.str manager.root)
    return .ok (← manager.create env)) fun
    | .workspaceError message _ => return .error message
    | .osError e => return .error (e.str env.text.repr)
    | e => throw e

/-- Prepare the workspace at a root, if that is vacant. -/
def prepareAt (start : ℚ≥0) (root : PurePath) : BuildM BuildStageResult := do
  match ← createWorkspace env fallible root with
  | .error message => makeResult env "prepare-workspace" start false 10 message []
  | .ok ws => do
    modify fun s => { s with context.workspace := some ws }
    makeResult env "prepare-workspace" start true 0
      ("Workspace created at " ++ AbsPath.str ws.root) []

/-- `PrepareWorkspaceStage`. -/
def prepareWorkspaceStage : BuildStage where
  name := "prepare-workspace"
  run := do
    let start ← consult env.monotonic
    let root ← workspaceRoot env fallible
    prepareAt env fallible start root

/-- The file of an artifact without a checksum is looked for. -/
def computeArtifact (ws : BuildWorkspace) (artifact : BuildArtifact) : BuildM BuildArtifact := do
  ask (fallible && artifact.checksumSha256.isNone) artifact.path
  Builder.computeArtifact env ws artifact

/-- The artifacts, of which those without a checksum are looked up. -/
def computeArtifacts (ws : BuildWorkspace) : BuildM (List BuildArtifact) := do
  (← get).context.artifacts.mapM (computeArtifact env fallible ws)

/-- Write the records of a build. -/
def finalizeRecords (ws : BuildWorkspace) : BuildM (Option OSError) := do
  let _computedArtifacts ← computeArtifacts env fallible ws
  match ← writeProvenance env ws with
  | some e => return some e
  | none => do
    writeBuildLog env (ws.logsDir ++ ["build.log"])
    return none

/-- The root is resolved and looked for before it is removed. -/
def cleanup (ws : BuildWorkspace) : BuildM (Option String) := do
  if (← get).context.plan.keepWorkspace then return none
  else
    ask fallible (AbsPath.str ws.root)
    ask fallible (AbsPath.str ws.root)
    removeWorkspace env ws

/-- Write the records and remove the workspace, unless it is kept. -/
def finalizeWorkspace (start : ℚ≥0) (ws : BuildWorkspace) : BuildM BuildStageResult := do
  match ← finalizeRecords env fallible ws with
  | some e =>
    makeResult env "finalize" start false 70
      ("Failed to write provenance: " ++ e.str env.text.repr) []
  | none => do
    match ← cleanup env fallible ws with
    | some message =>
      makeResult env "finalize" start false 70 ("Cleanup failed: " ++ message) []
    | none => makeResult env "finalize" start true 0 "Build finalized" []

/-- `FinalizeStage`. -/
def finalizeStage : BuildStage where
  name := "finalize"
  run := do
    let start ← consult env.monotonic
    match (← get).context.workspace with
    | none =>
      makeResult env "finalize" start false 70
        "Cannot finalize: workspace has not been prepared" []
    | some ws => finalizeWorkspace env fallible start ws

end Fallible

/-- A built-in stage, where tests of paths may fail. The manifest is written without a test. -/
def BuiltinStage.fallible (env : BuildEnv) (fallible : Bool) : BuiltinStage → BuildStage
  | .validateConfig => Fallible.validateConfigStage env fallible
  | .prepareWorkspace => Fallible.prepareWorkspaceStage env fallible
  | .generateManifest => generateManifestStage env
  | .finalize => Fallible.finalizeStage env fallible

/-- Where no test fails, the stages are those without such tests. -/
theorem BuiltinStage.fallible_false (env : BuildEnv) (stage : BuiltinStage) :
    stage.fallible env false = stage.stage env := by
  -- A test that cannot fail does nothing, so that the two are the same by definition.
  cases stage with
  | validateConfig => rfl
  | prepareWorkspace => rfl
  | generateManifest => rfl
  | finalize => rfl

end ClassroomSuite.Builder
