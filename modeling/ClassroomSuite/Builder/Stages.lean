import ClassroomSuite.Builder.Context

/-!
# The built-in stages

Four stages: the configuration file is looked at, the workspace is created, a manifest is written
into it, and the build is finalized, which writes the provenance record and the build log and then
removes the workspace unless the plan keeps it. Each returns a result; an error of the operating
system becomes a failed result where the stage handles it, and otherwise leaves the stage as an
exception.

Source: `cli/src/bcs/builder/stages.py`, `cli/src/bcs/builder/workspace.py`,
`save_manifest` of `cli/src/bcs/builder/manifest.py`, `cli/src/bcs/builder/protocols.py`.

## Main definitions

* `BuildStage`, `BuildWorkspaceManager`.
* `validateConfigStage`, `prepareWorkspaceStage`, `generateManifestStage`, `finalizeStage`.
* `BuiltinStage`: their enumeration.
-/

namespace ClassroomSuite.Builder

open Python Library

/-- A stage: a name and what running it does. -/
structure BuildStage where
  name : String
  run : BuildM BuildStageResult

/-- The result of a stage that began at `start`. -/
def makeResult (env : BuildEnv) (stageName : String) (start : ℚ≥0) (success : Bool)
    (exitCode : ℕ) (message : String) (artifacts : List BuildArtifact) :
    BuildM BuildStageResult := do
  return {
    stageName, success, exitCode, message, artifacts
    elapsedSeconds := some (← elapsed env start) }

/-! ### Workspaces -/

/-- The manager of the workspace at a root. -/
structure BuildWorkspaceManager where
  root : AbsPath

namespace BuildWorkspaceManager

/-- The manager of the workspace at a written path. -/
def ofPath (env : BuildEnv) (root : PurePath) : BuildWorkspaceManager := ⟨root.resolve env.cwd⟩

/-- Whether the root exists and is not empty; listing a regular file is an error. -/
def isOccupied (manager : BuildWorkspaceManager) : BuildM Bool := do
  let t := (← get).disk.tree
  match t.stat manager.root with
  | none => return false
  | some .dir => return t.names manager.root ≠ []
  | some (.file _) => throw (.osError (.at .enotdir manager.root))

/-- Create the directories of a workspace. -/
def createDirectories (ws : BuildWorkspace) : BuildM BuildWorkspace := do
  ensureDirectory ws.artifactsDir
  ensureDirectory ws.logsDir
  ensureDirectory ws.metadataDir
  ensureDirectory ws.cacheDir
  return ws

/-- The error of an operation on the workspace that the operating system refused. -/
def failure (env : BuildEnv) (manager : BuildWorkspaceManager) (what : String) (e : OSError) :
    BuildException :=
  .workspaceError (what ++ e.str env.text.repr)
    [("path", AbsPath.str manager.root), ("error", e.str env.text.repr)]

/-- Create the workspace in an absent or empty directory. -/
def create (env : BuildEnv) (manager : BuildWorkspaceManager) : BuildM BuildWorkspace := do
  if ← manager.isOccupied then
    let path := AbsPath.str manager.root
    throw (.workspaceError ("Workspace root already exists and is not empty: " ++ path)
      [("path", path)])
  else
    catchOSError (createDirectories (.ofRoot manager.root)) fun e =>
      throw (manager.failure env "Failed to create workspace directory: " e)

/-- Remove the workspace, if it exists. -/
def clean (env : BuildEnv) (manager : BuildWorkspaceManager) : BuildM Unit := do
  if ((← get).disk.tree.stat manager.root).isSome then
    catchOSError (onDisk (Disk.rmtree manager.root)) fun e =>
      throw (manager.failure env "Failed to clean workspace: " e)

end BuildWorkspaceManager

/-! ### The configuration file -/

/-- What is wrong with the configuration file, if anything. -/
def configProblem (env : BuildEnv) (t : Node FileData) (path : PurePath) : Option String :=
  match path.lookup t env.cwd with
  | none => some ("Config file does not exist: " ++ path.str)
  | some .dir => some ("Config path is not a regular file: " ++ path.str)
  | some (.file data) =>
    let ext := env.text.lower path.suffix
    if !data.readable then some ("Config file is not readable: " ++ path.str)
    else if ext ≠ ".yaml" ∧ ext ≠ ".yml" then
      some ("Config file should have a .yaml or .yml extension, got '" ++ ext ++ "'")
    else none

/-- `ValidateConfigStage`. -/
def validateConfigStage (env : BuildEnv) : BuildStage where
  name := "validate-config"
  run := do
    let start ← consult env.monotonic
    let s ← get
    let path := s.context.plan.configPath
    match configProblem env s.disk.tree path with
    | some problem => makeResult env "validate-config" start false 1 problem []
    | none =>
      makeResult env "validate-config" start true 0 ("Config file validated: " ++ path.str) []

/-! ### The workspace -/

/-- The workspace root of the plan, or one named after the present time. -/
def workspaceRoot (env : BuildEnv) : BuildM PurePath := do
  match (← get).context.plan.workspaceRoot with
  | some root => return root
  | none => do
    let now ← consult env.utcNow
    return (PurePath.ofAbs env.cwd).join (.ofString (".bcs-build-" ++ now.compact))

/-- Create the workspace; an error is returned as its text. -/
def createWorkspace (env : BuildEnv) (root : PurePath) : BuildM (Except String BuildWorkspace) :=
  tryCatch (do return .ok (← (BuildWorkspaceManager.ofPath env root).create env)) fun
    | .workspaceError message _ => return .error message
    | .osError e => return .error (e.str env.text.repr)
    | e => throw e

/-- Create the workspace at a root and enter it in the context. -/
def prepareAt (env : BuildEnv) (start : ℚ≥0) (root : PurePath) : BuildM BuildStageResult := do
  match ← createWorkspace env root with
  | .error message => makeResult env "prepare-workspace" start false 10 message []
  | .ok ws => do
    modify fun s => { s with context.workspace := some ws }
    makeResult env "prepare-workspace" start true 0
      ("Workspace created at " ++ AbsPath.str ws.root) []

/-- `PrepareWorkspaceStage`. -/
def prepareWorkspaceStage (env : BuildEnv) : BuildStage where
  name := "prepare-workspace"
  run := do
    let start ← consult env.monotonic
    let root ← workspaceRoot env
    prepareAt env start root

/-! ### The manifest -/

/-- `save_manifest`. -/
def saveManifest (env : BuildEnv) (manifest : BuildManifest) (p : AbsPath) : BuildM Unit :=
  writeJson env p manifest.toJson

/-- The path `p` seen from the directory `base` that leads to it. -/
def relativeTo (env : BuildEnv) (base p : AbsPath) : BuildM AbsPath :=
  if base <+: p then pure (p.drop base.length)
  else throw (.other (env.text.repr (AbsPath.str p) ++ " is not in the subpath of " ++
    env.text.repr (AbsPath.str base)))

/-- `GenerateManifestStage`. -/
def generateManifestStage (env : BuildEnv) : BuildStage where
  name := "generate-manifest"
  run := do
    let start ← consult env.monotonic
    let s ← get
    match s.context.workspace with
    | none =>
      makeResult env "generate-manifest" start false 30
        "Cannot generate manifest: workspace has not been prepared" []
    | some ws => do
      let path := ws.metadataDir ++ ["manifest.json"]
      let manifest : BuildManifest := {
        manifestVersion := "bcs-build-manifest/v1alpha1"
        plan := s.context.plan
        artifacts := s.context.artifacts
        stageResults := s.context.stageResults }
      match ← catchOSError (do saveManifest env manifest path; return none) (return some ·) with
      | some e =>
        makeResult env "generate-manifest" start false 30
          ("Failed to write manifest: " ++ e.str env.text.repr) []
      | none => do
        let relative ← relativeTo env ws.root path
        let artifact : BuildArtifact := {
          path := (PurePath.mk .relative relative).str
          artifactType := "manifest" }
        modify fun s => { s with context.artifacts := s.context.artifacts ++ [artifact] }
        makeResult env "generate-manifest" start true 0
          ("Manifest written to " ++ AbsPath.str path) [artifact]

/-! ### Finalization -/

/-- Where the file of an artifact is. -/
def artifactLocation (env : BuildEnv) (ws : BuildWorkspace) (t : Node FileData)
    (artifact : BuildArtifact) : Option AbsPath :=
  ((PurePath.ofAbs ws.root).join (.ofString artifact.path)).locate t env.cwd

/-- The artifact with the checksum and the size of its file. -/
def checksummedArtifact (env : BuildEnv) (artifact : BuildArtifact) (path : AbsPath) :
    BuildM BuildArtifact := do
  let checksum ← computeFileChecksum env path
  let size ← onDisk (Disk.fileSize path)
  return {
    path := artifact.path
    artifactType := artifact.artifactType
    checksumSha256 := some checksum
    sizeBytes := some size }

/-- The artifact with its checksum, computed if it has none and its file can be read. -/
def computeArtifact (env : BuildEnv) (ws : BuildWorkspace) (artifact : BuildArtifact) :
    BuildM BuildArtifact := do
  if artifact.checksumSha256.isSome then return artifact
  else
    let t := (← get).disk.tree
    match artifactLocation env ws t artifact with
    | none => return artifact
    | some path =>
      if (t.stat path).isNone then return artifact
      else catchOSError (checksummedArtifact env artifact path) fun _ => return artifact

/-- The list of artifacts with their checksums. -/
def computeArtifacts (env : BuildEnv) (ws : BuildWorkspace) : BuildM (List BuildArtifact) := do
  (← get).context.artifacts.mapM (computeArtifact env ws)

/-- The version of the tool. The package defines none, which leaves the fallback. -/
def toolVersion : String := "0.0.0"

/-- The commit that the version control finds, if it does. -/
def getGitCommit (env : BuildEnv) : BuildM (Option String) := do
  consult (env.gitCommit (← get).disk.tree)

/-- The provenance of the build, at the present time. -/
def recordMetadata (env : BuildEnv) : BuildM BuildMetadata := do
  let now ← consult env.utcNow
  let gitCommit ← getGitCommit env
  let metadata : BuildMetadata := {
    buildTimestamp := now.iso
    toolVersion := toolVersion
    gitCommit
    recipePath := (← get).context.plan.configPath.str }
  modify fun s => { s with context.metadata := some metadata }
  return metadata

/-- Write the provenance record; an error of the operating system is returned. -/
def writeProvenance (env : BuildEnv) (ws : BuildWorkspace) : BuildM (Option OSError) := do
  let metadata ← recordMetadata env
  let path := ws.metadataDir ++ ["provenance.json"]
  catchOSError (do writeJson env path metadata.toJson; return none) (return some ·)

/-- The lines of the build log about one result. -/
def resultLines (env : BuildEnv) (result : BuildStageResult) : List String :=
  let status := if result.success then "OK" else "FAIL"
  ("  [" ++ status ++ "] " ++ result.stageName ++ ": " ++ result.message) ::
    match result.elapsedSeconds with
    | some seconds => ["         (" ++ env.formatSeconds seconds ++ "s)"]
    | none => []

/-- The lines of the build log. -/
def buildLogLines (env : BuildEnv) (context : BuildContext) : List String :=
  let results := context.stageResults
  ["BCS Build Log", "=============",
    "Config:       " ++ context.plan.configPath.str,
    "Stages:       " ++ ", ".intercalate (results.map BuildStageResult.stageName),
    "", "Stage Results:"] ++ results.flatMap (resultLines env) ++
  ["", "Total artifacts: " ++ toString context.artifacts.length,
    "Build success:   " ++ if results.all BuildStageResult.success then "True" else "False"]

/-- `_write_build_log`. -/
def writeBuildLog (env : BuildEnv) (p : AbsPath) : BuildM Unit := do
  writeText p ("\n".intercalate (buildLogLines env (← get).context) ++ "\n")

/-- Compute the checksums and write the records of the build. A failure to write the provenance is
returned, a failure to write the log is raised. -/
def finalizeRecords (env : BuildEnv) (ws : BuildWorkspace) : BuildM (Option OSError) := do
  let _computedArtifacts ← computeArtifacts env ws
  match ← writeProvenance env ws with
  | some e => return some e
  | none => do
    writeBuildLog env (ws.logsDir ++ ["build.log"])
    return none

/-- Remove the workspace; an error is returned as its text. -/
def removeWorkspace (env : BuildEnv) (ws : BuildWorkspace) : BuildM (Option String) :=
  tryCatch (do (BuildWorkspaceManager.ofPath env (.ofAbs ws.root)).clean env; return none) fun
    | .workspaceError message _ => return some message
    | e => throw e

/-- Remove the workspace unless the plan keeps it. -/
def cleanup (env : BuildEnv) (ws : BuildWorkspace) : BuildM (Option String) := do
  if (← get).context.plan.keepWorkspace then return none else removeWorkspace env ws

/-- Finalize a build in its workspace. -/
def finalizeWorkspace (env : BuildEnv) (start : ℚ≥0) (ws : BuildWorkspace) :
    BuildM BuildStageResult := do
  match ← finalizeRecords env ws with
  | some e =>
    makeResult env "finalize" start false 70
      ("Failed to write provenance: " ++ e.str env.text.repr) []
  | none => do
    match ← cleanup env ws with
    | some message =>
      makeResult env "finalize" start false 70 ("Cleanup failed: " ++ message) []
    | none => makeResult env "finalize" start true 0 "Build finalized" []

/-- `FinalizeStage`. -/
def finalizeStage (env : BuildEnv) : BuildStage where
  name := "finalize"
  run := do
    let start ← consult env.monotonic
    match (← get).context.workspace with
    | none =>
      makeResult env "finalize" start false 70
        "Cannot finalize: workspace has not been prepared" []
    | some ws => finalizeWorkspace env start ws

/-- The built-in stages. -/
inductive BuiltinStage where
  | validateConfig
  | prepareWorkspace
  | generateManifest
  | finalize
  deriving DecidableEq, Repr

/-- The stage of a name. -/
def BuiltinStage.stage (env : BuildEnv) : BuiltinStage → BuildStage
  | .validateConfig => validateConfigStage env
  | .prepareWorkspace => prepareWorkspaceStage env
  | .generateManifest => generateManifestStage env
  | .finalize => finalizeStage env

end ClassroomSuite.Builder
