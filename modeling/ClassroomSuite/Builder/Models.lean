import Mathlib.Data.NNRat.Defs
import ClassroomSuite.Library.PurePath
import ClassroomSuite.Python.Json

/-!
# The records of a build

The immutable records a build passes around: its plan, the layout of its workspace, the artifacts
and stage results it accumulates, and the manifest, provenance and summary made of them. Bounds
the models put on a field are in its type: exit codes and sizes are natural numbers and elapsed
times are nonnegative. `toJson` is what a record is written to disk as.

Source: `cli/src/bcs/builder/models.py`.

## Main definitions

* `BuildPlan`, `BuildArtifact`, `BuildStageResult`, `BuildWorkspace`, `BuildManifest`,
  `BuildMetadata`, `BuildSummary`.
-/

namespace ClassroomSuite.Builder

open Python Library

/-- What to build and how. No stage names mean all stages. -/
structure BuildPlan where
  configPath : PurePath
  workspaceRoot : Option PurePath := none
  stages : List String := []
  keepWorkspace : Bool := false
  verbose : Bool := false
  deriving DecidableEq, Repr

/-- A file produced by the build, its path relative to the workspace. -/
structure BuildArtifact where
  path : String
  artifactType : String
  checksumSha256 : Option String := none
  sizeBytes : Option ℕ := none
  deriving DecidableEq, Repr

/-- The outcome of one stage. -/
structure BuildStageResult where
  stageName : String
  success : Bool
  exitCode : ℕ
  message : String := ""
  elapsedSeconds : Option ℚ≥0 := none
  artifacts : List BuildArtifact := []
  deriving DecidableEq

/-- The directories of a prepared workspace. -/
structure BuildWorkspace where
  root : AbsPath
  artifactsDir : AbsPath
  logsDir : AbsPath
  metadataDir : AbsPath
  cacheDir : AbsPath
  deriving DecidableEq, Repr

/-- The layout of the workspace at a root. -/
def BuildWorkspace.ofRoot (root : AbsPath) : BuildWorkspace where
  root := root
  artifactsDir := root ++ ["artifacts"]
  logsDir := root ++ ["logs"]
  metadataDir := root ++ ["metadata"]
  cacheDir := root ++ ["cache"]

/-- A description of everything a build produced. -/
structure BuildManifest where
  manifestVersion : String
  plan : BuildPlan
  artifacts : List BuildArtifact := []
  stageResults : List BuildStageResult := []

/-- The provenance of a build; its time stamp is given by its ISO text. -/
structure BuildMetadata where
  buildTimestamp : String
  toolVersion : String
  gitCommit : Option String := none
  recipePath : String
  recipeChecksum : Option String := none
  deriving DecidableEq, Repr

/-- The outcome of a whole build. -/
structure BuildSummary where
  plan : BuildPlan
  stageResults : List BuildStageResult
  success : Bool
  elapsedSeconds : Option ℚ≥0 := none

/-! ### The records as written to disk -/

/-- An optional value, absent as null. -/
def optionalJson {α : Type} (f : α → Json) : Option α → Json
  | none => .null
  | some a => f a

/-- The fields of a plan. -/
def BuildPlan.toJson (plan : BuildPlan) : Json := .obj [
  ("config_path", .str plan.configPath.str),
  ("workspaceRoot", optionalJson (fun p => .str p.str) plan.workspaceRoot),
  ("stages", .arr (plan.stages.map .str)),
  ("keepWorkspace", .bool plan.keepWorkspace),
  ("verbose", .bool plan.verbose)]

/-- The fields of an artifact. -/
def BuildArtifact.toJson (artifact : BuildArtifact) : Json := .obj [
  ("path", .str artifact.path),
  ("artifactType", .str artifact.artifactType),
  ("checksumSha256", optionalJson .str artifact.checksumSha256),
  ("sizeBytes", optionalJson (fun n => .int n) artifact.sizeBytes)]

/-- The fields of the result of a stage. -/
def BuildStageResult.toJson (result : BuildStageResult) : Json := .obj [
  ("stageName", .str result.stageName),
  ("success", .bool result.success),
  ("exitCode", .int result.exitCode),
  ("message", .str result.message),
  ("elapsedSeconds", optionalJson (fun q => .float (.finite q)) result.elapsedSeconds),
  ("artifacts", .arr (result.artifacts.map BuildArtifact.toJson))]

/-- The fields of a manifest. -/
def BuildManifest.toJson (manifest : BuildManifest) : Json := .obj [
  ("manifestVersion", .str manifest.manifestVersion),
  ("plan", manifest.plan.toJson),
  ("artifacts", .arr (manifest.artifacts.map BuildArtifact.toJson)),
  ("stageResults", .arr (manifest.stageResults.map BuildStageResult.toJson))]

/-- The fields of the metadata. -/
def BuildMetadata.toJson (metadata : BuildMetadata) : Json := .obj [
  ("buildTimestamp", .str metadata.buildTimestamp),
  ("toolVersion", .str metadata.toolVersion),
  ("gitCommit", optionalJson .str metadata.gitCommit),
  ("recipePath", .str metadata.recipePath),
  ("recipeChecksum", optionalJson .str metadata.recipeChecksum)]

end ClassroomSuite.Builder
