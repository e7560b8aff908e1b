import ClassroomSuite.Library.RequestLog
import ClassroomSuite.Platform.Efi.Adapter
import ClassroomSuite.Platform.Filesystem.Adapter
import ClassroomSuite.Platform.Network.Adapter
import ClassroomSuite.Platform.SecureBoot.Adapter
import ClassroomSuite.Platform.Storage.Adapter

/-!
# What the adapters run

The adapters again, with a log of what they request of the runner. They return what they return
without the log, and request nothing but their own commands, in the plain locale: that of storage
runs three tools, as long as they succeed, and each of the others one.

Source: `adapter.py` of the five adapters in `cli/src/bcs/platform/adapters`.

## Main definitions

* `runLogged`, `runForOutputLogged`, and the adapters with a log.
* `toolRequest`: what an adapter requests.

## Main results

* `Storage.answers_readStorageTopology` and its siblings.
-/

namespace ClassroomSuite.Platform

open Python Library

variable {σ : Type} {runner : CommandRunner}

/-- Run a command, whose request is logged. -/
def runLogged {α : Type} (runner : CommandRunner) (request : RunRequest)
    (use : Except PlatformError CommandResult → Except Raised α) :
    Logged Raised σ RunRequest α := do
  logRequest request
  answered (use (runner request))

/-- A command is requested once. -/
theorem answers_runLogged {α : Type} (request : RunRequest)
    (use : Except PlatformError CommandResult → Except Raised α) :
    Answers σ [request] (runLogged runner request use) (use (runner request)) := by
  have hlog : Answers σ [request] (logRequest request : Logged Raised σ RunRequest Unit) (.ok ()) :=
    fun s log => ⟨[request], List.Sublist.refl _, rfl⟩
  exact hlog.bind fun _ => answers_answered (use (runner request))

/-- The request for a tool, in the plain locale. -/
def toolRequest (environ : List (String × String)) (command : List String) (timeoutSeconds : ℚ) :
    RunRequest where
  command := command
  timeoutSeconds := some timeoutSeconds
  env := plainLocale environ

/-- `runForOutput`, with a log. -/
def runForOutputLogged (rt : TextRuntime) (domain : AdapterDomain) (patterns : List String)
    (unavailable : String) (runner : CommandRunner) (tool : String) (args : List String)
    (timeoutSeconds : Option ℚ) (env : List (String × String)) :
    Logged Raised σ RunRequest String :=
  runLogged runner { command := tool :: args, timeoutSeconds, env } fun
    | .error e => .error (.platform e)
    | .ok result => successOutput rt domain patterns tool unavailable result

theorem answers_runForOutput {rt : TextRuntime} {domain : AdapterDomain} {patterns : List String}
    {unavailable tool : String} {args : List String} {timeoutSeconds : ℚ}
    {environ : List (String × String)} :
    Answers σ [toolRequest environ (tool :: args) timeoutSeconds]
      (runForOutputLogged rt domain patterns unavailable runner tool args (some timeoutSeconds)
        (plainLocale environ))
      (runForOutput rt domain patterns unavailable runner tool args (some timeoutSeconds)
        (plainLocale environ)) :=
  answers_runLogged _ _

/-- An adapter that runs one tool and parses its output. -/
theorem answers_parsed {α : Type} {request : RunRequest}
    {output : Logged Raised σ RunRequest String} {r : Except Raised String}
    (h : Answers σ [request] output r) (parse : String → Except Raised α) :
    Answers σ [request] (output >>= fun text => answered (parse text)) (r >>= parse) :=
  h.bind fun text => answers_answered (parse text)

/-! ### The adapters -/

variable (rt : ModelRuntime) (numerals : Numerals) (environ : List (String × String))

namespace Storage

/-- `readStorageTopology`, with a log. -/
def readStorageTopologyLogged (runner : CommandRunner) :
    Logged Raised σ RunRequest StorageConfiguration := do
  let runTool (tool : String) (args : List String) : Logged Raised σ RunRequest String :=
    runForOutputLogged rt.text .storage unavailablePatterns
      (tool ++ " could not provide storage data in this environment.") runner tool args (some 10)
      (plainLocale environ)
  let lsblkOutput ← runTool "lsblk" ["-J", "-b"]
  let blkidOutput ← runTool "blkid" ["-p", "-o", "json"]
  let findmntOutput ← runTool "findmnt" ["-J"]
  answered (parsedOutput .storage "Failed to parse storage topology: "
    (outputsText lsblkOutput blkidOutput findmntOutput)
    (parseStorageTopology rt lsblkOutput blkidOutput findmntOutput))

/-- What is requested for the topology of the storage. -/
def requests : List RunRequest :=
  [toolRequest environ ["lsblk", "-J", "-b"] 10,
    toolRequest environ ["blkid", "-p", "-o", "json"] 10, toolRequest environ ["findmnt", "-J"] 10]

theorem answers_readStorageTopology :
    Answers σ (requests environ) (readStorageTopologyLogged rt environ runner)
      (readStorageTopology rt runner environ) :=
  answers_runForOutput.bind fun _ => answers_runForOutput.bind fun _ =>
    answers_parsed answers_runForOutput _

end Storage

namespace Network

/-- `readNetworkInterfaces`, with a log. -/
def readNetworkInterfacesLogged (runner : CommandRunner) :
    Logged Raised σ RunRequest NetworkInterfaceStatus := do
  let output ← runForOutputLogged rt.text .network unavailablePatterns
    "Network interface data is not available in this environment." runner
    "ip" ["-json", "addr", "show"] (some 5) (plainLocale environ)
  answered (parsedOutput .network "Failed to parse ip output: " output
    (parseNetworkInterfaces rt output))

theorem answers_readNetworkInterfaces :
    Answers σ [toolRequest environ ["ip", "-json", "addr", "show"] 5]
      (readNetworkInterfacesLogged rt environ runner) (readNetworkInterfaces rt runner environ) :=
  answers_parsed answers_runForOutput _

end Network

namespace SecureBoot

/-- `readSecureBootStatus`, with a log. -/
def readSecureBootStatusLogged (rt : TextRuntime) (runner : CommandRunner) :
    Logged Raised σ RunRequest SecureBootStatus := do
  let output ← runForOutputLogged rt .secureBoot unavailablePatterns
    "Secure Boot state is not available in this environment." runner
    "mokutil" ["--sb-state"] (some 5) (plainLocale environ)
  let status ← answered (parsedOutput .secureBoot "Failed to parse mokutil output: " output
    (parseSecureBootStatus rt output))
  if status.state = .unknown ∧ status.setupMode = none then
    throw (.platform (.adapterParse .secureBoot
      "mokutil output contained no recognized Secure Boot state line." output))
  else return status

theorem answers_readSecureBootStatus (rt : TextRuntime) :
    Answers σ [toolRequest environ mokutilCommand 5]
      (readSecureBootStatusLogged environ rt runner) (readSecureBootStatus rt runner environ) := by
  refine answers_runForOutput.bind fun output => ?_
  refine (answers_answered _).bind fun status => ?_
  split_ifs
  · exact answers_answered (.error _)
  · exact answers_answered (.ok status)

end SecureBoot

namespace Efi

/-- `readFirmwareBootConfiguration`, with a log. -/
def readFirmwareBootConfigurationLogged (runner : CommandRunner) :
    Logged Raised σ RunRequest FirmwareBootConfiguration := do
  let output ← runForOutputLogged rt.text .firmwareBoot unavailablePatterns
    "EFI boot variables are not available in this environment." runner
    "efibootmgr" ["-v"] (some 30) (plainLocale environ)
  answered (parsedOutput .firmwareBoot "Failed to parse efibootmgr output: " output
    (parseFirmwareBootConfiguration rt numerals output))

theorem answers_readFirmwareBootConfiguration :
    Answers σ [toolRequest environ efibootmgrCommand 30]
      (readFirmwareBootConfigurationLogged rt numerals environ runner)
      (readFirmwareBootConfiguration rt numerals runner environ) :=
  answers_parsed answers_runForOutput _

end Efi

namespace Filesystem

/-- `readFilesystemUsage`, with a log. -/
def readFilesystemUsageLogged (rt : TextRuntime) (runner : CommandRunner) :
    Logged Raised σ RunRequest FilesystemUsageReport :=
  runLogged runner (toolRequest environ dfCommand 10) fun
    | .error e => .error (.platform e)
    | .ok result => usageOfResult rt numerals result

theorem answers_readFilesystemUsage (rt : TextRuntime) :
    Answers σ [toolRequest environ dfCommand 10]
      (readFilesystemUsageLogged numerals environ rt runner)
      (readFilesystemUsage rt numerals runner environ) :=
  answers_runLogged _ _

end Filesystem

end ClassroomSuite.Platform
