import ClassroomSuite.Platform.Execution
import ClassroomSuite.Platform.Filesystem.Parser

/-!
# Reading the filesystem usage

The adapter runs one tool and parses its output. The tool fails where it could not query one of the
filesystems, having written the others: its exit code counts only if there is no record in its
output.

Source: `cli/src/bcs/platform/adapters/filesystem/adapter.py`.

## Main definitions

* `usageOfResult`, `readFilesystemUsage`.
-/

namespace ClassroomSuite.Platform.Filesystem

open Python

/-- What the error output of the tool has when the environment has no filesystem data. -/
def unavailablePatterns : List String :=
  ["permission denied", "operation not permitted", "no such file or directory",
    "no file systems processed", "cannot read table of mounted file systems"]

/-- The command of the adapter, with all columns that are read. -/
def dfCommand : List String :=
  ["df", "--output=source,fstype,itotal,iused,iavail,size,used,avail,target", "-B1", "-a"]

variable (rt : TextRuntime) (numerals : Numerals)

/-- What is made of the outcome of the command. -/
def usageOfResult (result : CommandResult) : Except Raised FilesystemUsageReport := do
  let report ← parsedOutput .filesystem "Failed to parse df output: " result.stdout
    (parseFilesystemUsage rt numerals result.stdout)
  if report.filesystems ≠ [] then return { report with rawStderr := result.stderr }
  else if result.exitCode ≠ some 0 then
    if isUnavailable rt unavailablePatterns result.stderr then
      throw (.platform (.adapterUnavailable .filesystem
        "Filesystem usage data is not available in this environment." (some result)))
    else
      throw (.platform (.adapterError .filesystem
        ("df exited with code " ++ exitCodeStr result.exitCode ++ ".") (some result)))
  else
    throw (.platform (.adapterParse .filesystem
      "df output contained no recognizable filesystem usage data." result.stdout))

/-- Run the tool and read its report. A report is kept if some of the filesystems could not be read.
-/
def readFilesystemUsage (runner : CommandRunner) (environ : List (String × String))
    (timeoutSeconds : Option ℚ := some 10) : Except Raised FilesystemUsageReport :=
  match runner { command := dfCommand, timeoutSeconds, env := plainLocale environ } with
  | .error e => .error (.platform e)
  | .ok result => usageOfResult rt numerals result

end ClassroomSuite.Platform.Filesystem
