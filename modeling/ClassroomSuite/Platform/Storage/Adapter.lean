import ClassroomSuite.Platform.Execution
import ClassroomSuite.Platform.Storage.Parser

/-!
# Reading the storage topology

The adapter runs the three tools, one after the other, and parses their outputs together.

Source: `cli/src/bcs/platform/adapters/storage/adapter.py`.

## Main definitions

* `readStorageTopology`.
* `Prints`: what the three tools print, where they succeed.

## Main results

* `exists_prints`, `escapes_parse_of_escapes_read`.
-/

namespace ClassroomSuite.Platform.Storage

open Python Library

/-- What the error output of a tool has when the environment has no storage data. -/
def unavailablePatterns : List String :=
  ["permission denied", "operation not permitted", "no such file or directory", "no such device",
    "no medium found", "cannot open", "not authorized"]

/-- The text that a failure to parse reports. -/
def outputsText (lsblkOutput blkidOutput findmntOutput : String) : String :=
  "lsblk:\n" ++ lsblkOutput ++ "\n---\nblkid:\n" ++ blkidOutput ++ "\n---\nfindmnt:\n" ++
    findmntOutput

variable (rt : ModelRuntime) (runner : CommandRunner)

/-- Run one of the tools and take its output. -/
def runTool (tool : String) (args : List String) (timeoutSeconds : Option ℚ)
    (env : List (String × String)) : Except Raised String :=
  runForOutput rt.text .storage unavailablePatterns
    (tool ++ " could not provide storage data in this environment.") runner tool args
    timeoutSeconds env

/-- Run the three tools, one after the other, and read the topology from their outputs. -/
def readStorageTopology (environ : List (String × String)) (timeoutSeconds : Option ℚ := some 10) :
    Except Raised StorageConfiguration := do
  let env := plainLocale environ
  let lsblkOutput ← runTool rt runner "lsblk" ["-J", "-b"] timeoutSeconds env
  let blkidOutput ← runTool rt runner "blkid" ["-p", "-o", "json"] timeoutSeconds env
  let findmntOutput ← runTool rt runner "findmnt" ["-J"] timeoutSeconds env
  parsedOutput .storage "Failed to parse storage topology: "
    (outputsText lsblkOutput blkidOutput findmntOutput)
    (parseStorageTopology rt lsblkOutput blkidOutput findmntOutput)

/-- The runner prints these outputs of the three tools. -/
structure Prints (environ : List (String × String)) (timeoutSeconds : Option ℚ)
    (lsblkOutput blkidOutput findmntOutput : String) : Prop where
  lsblk : PrintsOn runner ["lsblk", "-J", "-b"] environ timeoutSeconds lsblkOutput
  blkid : PrintsOn runner ["blkid", "-p", "-o", "json"] environ timeoutSeconds blkidOutput
  findmnt : PrintsOn runner ["findmnt", "-J"] environ timeoutSeconds findmntOutput

/-- Every runner prints some outputs of the three tools. -/
theorem exists_prints (environ : List (String × String)) (timeoutSeconds : Option ℚ) :
    ∃ lsblkOutput blkidOutput findmntOutput,
      Prints runner environ timeoutSeconds lsblkOutput blkidOutput findmntOutput := by
  obtain ⟨lsblkOutput, hlsblk⟩ :=
    exists_printsOn runner ["lsblk", "-J", "-b"] environ timeoutSeconds
  obtain ⟨blkidOutput, hblkid⟩ :=
    exists_printsOn runner ["blkid", "-p", "-o", "json"] environ timeoutSeconds
  obtain ⟨findmntOutput, hfindmnt⟩ :=
    exists_printsOn runner ["findmnt", "-J"] environ timeoutSeconds
  exact ⟨lsblkOutput, blkidOutput, findmntOutput, hlsblk, hblkid, hfindmnt⟩

variable {rt runner}

/-- What passes through the adapter passed through the parser. -/
theorem escapes_parse_of_escapes_read {environ : List (String × String)}
    {timeoutSeconds : Option ℚ} {lsblkOutput blkidOutput findmntOutput : String}
    (hprints : Prints runner environ timeoutSeconds lsblkOutput blkidOutput findmntOutput)
    (h : Raises Raised.Escapes (readStorageTopology rt runner environ timeoutSeconds)) :
    Raises PyError.Unhandled
      (parseStorageTopology rt lsblkOutput blkidOutput findmntOutput) := by
  have hrun (tool : String) (args : List String) :
      ¬ Raises Raised.Escapes
        (runTool rt runner tool args timeoutSeconds (plainLocale environ)) :=
    not_escapes_runForOutput _ _ _ _ _ _
  obtain ⟨lsblk, hlsblk, h⟩ := (raises_bind_iff_of_not _ (hrun _ _) _).mp h
  obtain ⟨blkid, hblkid, h⟩ := (raises_bind_iff_of_not _ (hrun _ _) _).mp h
  obtain ⟨findmnt, hfindmnt, h⟩ := (raises_bind_iff_of_not _ (hrun _ _) _).mp h
  obtain rfl := eq_of_printsOn hprints.lsblk hlsblk
  obtain rfl := eq_of_printsOn hprints.blkid hblkid
  obtain rfl := eq_of_printsOn hprints.findmnt hfindmnt
  exact (escapes_parsedOutput_iff _ _ _).mp h

end ClassroomSuite.Platform.Storage
