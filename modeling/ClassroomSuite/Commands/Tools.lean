import ClassroomSuite.Commands.Main
import ClassroomSuite.Platform.Requests

/-!
# The tools that the program runs

The commands again, with a log of what they request of the runner. `bcs doctor` requests the tools
of the checks that are asked for, in the order of the checks, `bcs inventory` those of the adapters
of the orchestrator, and the other commands none. What is requested is a report, with fixed
arguments. A plugin is a program of its own, which no runner is asked to run.

Source: `cli/src/bcs/app.py`, `cli/src/bcs/commands/doctor.py`, `cli/src/bcs/commands/inventory.py`,
`cli/src/bcs/inventory/discovery/orchestrator.py`.

## Main definitions

* `checkRequests`, `inventoryRequests`, `Process.toolRequests`: what may be requested.
* The checks, the orchestrator and the commands with a log; `Process.mainLogged`.

## Main results

* `answers_mainInventory`, `logs_runDoctor`: what the commands that run tools request.
* `main_requests`.
-/

namespace ClassroomSuite.Commands

open Python Library Platform Config Inventory

/-- A computation that logs what it requests of the runner. -/
abbrev Requesting (ε α : Type) := Logged ε (List String) RunRequest α

/-! ### The requests -/

section Requests

variable (environ : List (String × String))

/-- What is requested for a check. -/
def checkRequests (name : String) : List RunRequest :=
  if name = "storage" then Storage.requests environ
  else if name = "network" then [toolRequest environ ["ip", "-json", "addr", "show"] 5]
  else if name = "secure-boot" then [toolRequest environ ["mokutil", "--sb-state"] 5]
  else []

/-- What is requested for an inventory. -/
def inventoryRequests : List RunRequest :=
  [toolRequest environ ["efibootmgr", "-v"] 30] ++ (Storage.requests environ ++
    [toolRequest environ ["mokutil", "--sb-state"] 5,
      toolRequest environ ["df",
        "--output=source,fstype,itotal,iused,iavail,size,used,avail,target", "-B1", "-a"] 10,
      toolRequest environ ["ip", "-json", "addr", "show"] 5])

/-- What is requested for a command. -/
def Subcommand.toolRequests : Subcommand → List RunRequest
  | .doctor checks _ => (selectedChecks checks).flatMap (checkRequests environ)
  | .inventory => inventoryRequests environ
  | .validate _ _ | .version | .stub _ => []

end Requests

/-! ### The inventory -/

section Inventory

variable (m : Machine) (rt : CollectorRuntime) (models : ModelRuntime) (runner : CommandRunner)
  (environ : List (String × String))

/-- `callAdapter`, with a log. -/
def callAdapterLogged {α : Type} (domain : String) (adapter : Requesting Raised α) :
    StateT (List String) (Requesting Raised) (Option α) := fun caveats =>
  onOutcome adapter fun outcome => callAdapter domain (some outcome) caveats

/-- `callAdapters` on the adapters of the program, with a log. There is none for the TPM. -/
def callAdaptersLogged : StateT (List String) (Requesting Raised)
    (HostDiscoverySnapshot machineTypes.discovery) := do
  let firmwareBootConfiguration ← callAdapterLogged "efi"
    (Efi.readFirmwareBootConfigurationLogged models rt.numerals environ runner)
  let storageTopology ← callAdapterLogged "storage"
    (Storage.readStorageTopologyLogged models environ runner)
  let secureBoot ← callAdapterLogged "secure_boot"
    (SecureBoot.readSecureBootStatusLogged environ models.text runner)
  let filesystem ← callAdapterLogged "filesystem"
    (Filesystem.readFilesystemUsageLogged rt.numerals environ models.text runner)
  let network ← callAdapterLogged "network"
    (Network.readNetworkInterfacesLogged models environ runner)
  let cpu ← callAdapterLogged "cpu" (answered ((m.collectCpu rt).mapError .python))
  let memory ← callAdapterLogged "memory" (answered ((m.collectMemory rt).mapError .python))
  return {
    firmwareBootConfiguration, storageTopology, secureBoot, filesystem, network, cpu, memory }

/-- `discover` on the adapters of the program, with a log. -/
def discoverLogged : Requesting Raised (HostDiscoverySnapshot machineTypes.discovery) := do
  let (snapshot, caveats) ← callAdaptersLogged m rt models runner environ []
  return { snapshot with caveats }

/-- The inventory of what was observed and the other sections. -/
def inventoryOf (observed : Machine.Observed) (sections : Sections) :
    HostInventory machineTypes where
  firmware := observed.firmware
  cpu := observed.cpu
  memory := observed.memory
  storage := observed.storage
  network := observed.network
  sections := sections

/-- `mainInventory`, with a log. -/
def mainInventoryLogged : Requesting InventoryError (HostInventory machineTypes) := do
  let firmware ← answered m.collectFirmware
  let observed ← onOutcome (discoverLogged m rt models runner environ) fun snapshot =>
    liftRaised snapshot >>= m.discovered rt firmware
  let sections ← answered (m.collectSections rt)
  return inventoryOf observed sections

/-- The computation answers as the one without a log, whatever the caveats before it. -/
def AnswersFrom {α : Type} (requests : List RunRequest)
    (logged : StateT (List String) (Requesting Raised) α)
    (plain : StateT (List String) (Except Raised) α) : Prop :=
  ∀ caveats, Answers (List String) requests (logged caveats) (plain caveats)

theorem AnswersFrom.bind {α β : Type} {requests requests' : List RunRequest}
    {logged : StateT (List String) (Requesting Raised) α}
    {plain : StateT (List String) (Except Raised) α}
    {k : α → StateT (List String) (Requesting Raised) β}
    {f : α → StateT (List String) (Except Raised) β} (h : AnswersFrom requests logged plain)
    (hk : ∀ a, AnswersFrom requests' (k a) (f a)) :
    AnswersFrom (requests ++ requests') (logged >>= k) (plain >>= f) := fun caveats =>
  (h caveats).bind fun a => hk a.1 a.2

/-- The call of an adapter requests what the adapter does. -/
theorem answers_callAdapter {α : Type} {requests : List RunRequest} {domain : String}
    {logged : Requesting Raised α} {adapter : Except Raised α}
    (h : Answers (List String) requests logged adapter) :
    AnswersFrom requests (callAdapterLogged domain logged) (callAdapter domain (some adapter)) :=
  fun _ => h.onOutcome _

/-- The adapters are called in their order. -/
theorem answers_callAdapters : AnswersFrom (inventoryRequests environ)
    (callAdaptersLogged m rt models runner environ)
    (callAdapters (mainAdapters models runner environ (m.slots rt models runner environ))) := by
  refine (answers_callAdapter
    (Efi.answers_readFirmwareBootConfiguration models rt.numerals environ)).bind fun _ => ?_
  refine (answers_callAdapter (Storage.answers_readStorageTopology models environ)).bind fun _ => ?_
  refine (answers_callAdapter
    (SecureBoot.answers_readSecureBootStatus environ models.text)).bind fun _ => ?_
  refine (answers_callAdapter
    (Filesystem.answers_readFilesystemUsage rt.numerals environ models.text)).bind fun _ => ?_
  refine (answers_callAdapter
    (Network.answers_readNetworkInterfaces models environ)).bind fun _ => ?_
  refine (answers_callAdapter (answers_answered _)).bind fun _ => ?_
  refine (answers_callAdapter (answers_answered _)).bind fun _ => ?_
  exact fun caveats => answers_answered (.ok (_, caveats))

theorem answers_discover : Answers (List String) (inventoryRequests environ)
    (discoverLogged m rt models runner environ)
    (discover (mainAdapters models runner environ (m.slots rt models runner environ))) := by
  have h := (answers_callAdapters m rt models runner environ []).bind fun found =>
    answers_answered (.ok { found.1 with caveats := found.2 })
  rwa [List.append_nil] at h

/-- The inventory is the one without a log. -/
theorem answers_mainInventory : Answers (List String) (inventoryRequests environ)
    (mainInventoryLogged m rt models runner environ)
    (m.mainInventory rt models runner environ) := by
  refine (answers_answered m.collectFirmware).bind fun firmware => ?_
  have hobserved := (answers_discover m rt models runner environ).onOutcome fun snapshot =>
    liftRaised snapshot >>= m.discovered rt firmware
  have h := hobserved.bind fun observed => (answers_answered (m.collectSections rt)).bind
    fun sections => answers_answered (.ok (inventoryOf observed sections))
  rwa [List.append_nil] at h

end Inventory

/-! ### The diagnosis -/

section Diagnosis

variable (d : Diagnosis)

/-- `checkStorage`, with a log. -/
def Diagnosis.checkStorageLogged : Requesting InventoryError CheckResult :=
  onOutcome (Storage.readStorageTopologyLogged d.models d.environ d.runner) fun outcome =>
    (adapterOrCollect outcome
      (fun topology => (topology.devices.filter fun device => device.deviceType = "disk").map
        Storage.BlockDevice.name)
      (d.machine.collectStorage.map fun devices => devices.map StorageDevice.name)).map storageCheck

/-- `checkNetwork`, with a log. -/
def Diagnosis.checkNetworkLogged : Requesting InventoryError CheckResult :=
  onOutcome (Network.readNetworkInterfacesLogged d.models d.environ d.runner) fun outcome =>
    (adapterOrCollect outcome
      (fun status => status.interfaces.map fun iface =>
        ⟨iface.name, iface.isUp, iface.isLoopback⟩)
      (d.machine.collectNetwork.map fun interfaces =>
        interfaces.map NetworkInterface.like)).map networkCheck

/-- `checkSecureBoot`, with a log. -/
def Diagnosis.checkSecureBootLogged : Requesting InventoryError CheckResult := do
  let firmware ← answered d.machine.collectFirmware
  if firmware.uefi then
    onOutcome (SecureBoot.readSecureBootStatusLogged d.environ d.models.text d.runner)
      secureBootOutcome
  else return ⟨"secure-boot", .skip, "not applicable: not running under UEFI"⟩

/-- `allChecks`, with a log. The other checks request nothing. -/
def Diagnosis.allChecksLogged : List (String × Requesting CommandError CheckResult) :=
  [("firmware", answered (d.onMachine d.checkFirmware)),
    ("secure-boot", onOutcome d.checkSecureBootLogged d.onMachine),
    ("esp", answered (d.onMachine d.checkEsp)),
    ("storage", onOutcome d.checkStorageLogged d.onMachine),
    ("usb-storage", answered (d.onMachine d.checkUsbStorage)),
    ("network", onOutcome d.checkNetworkLogged d.onMachine),
    ("tooling", answered (d.onMachine d.checkTooling)),
    ("permissions", answered (d.onMachine d.checkPermissions)),
    ("config", answered ((checkConfig d.config d.host d.loader).mapError (ofConfig d.describe)))]

/-- `runCheck`, with a log. -/
def Diagnosis.runCheckLogged (name : String) : Requesting CommandError CheckResult :=
  (d.allChecksLogged.lookup name).getD (throw (.unexpected ("'" ++ name ++ "'")))

/-- `runDoctor`, with a log. -/
def runDoctorLogged (format : OutputFormat) (checks : List String) (strict : Bool) :
    Requesting CommandError ℕ := do
  let selected := if checks = [] then checkNames else checks
  let unknown := selected.filter fun name => name ∉ checkNames
  if unknown = [] then
    let results ← selected.mapM d.runCheckLogged
    unlogged (printResults d.console format results)
    if notPassed strict results then throw failedChecks else return 0
  else throw (.bcs ⟨.usage, "unknown check(s): " ++ ", ".intercalate unknown ++
    "; known checks: " ++ ", ".intercalate checkNames⟩)

theorem answers_checkSecureBoot : Answers (List String)
    [toolRequest d.environ ["mokutil", "--sb-state"] 5] d.checkSecureBootLogged
    d.checkSecureBoot := by
  refine (answers_answered d.machine.collectFirmware).bind fun firmware => ?_
  rw [Diagnosis.secureBootOf]
  split_ifs
  · exact (SecureBoot.answers_readSecureBootStatus d.environ d.models.text).onOutcome _
  · exact (answers_answered (.ok _)).mono (List.nil_sublist _)

/-- A check requests what it may. -/
theorem answers_runCheck {name : String} (h : name ∈ checkNames) : Answers (List String)
    (checkRequests d.environ name) (d.runCheckLogged name) (d.runCheck name) := by
  have hanswered (r : Except CommandError CheckResult) :
      Answers (List String) [] (answered r : Requesting CommandError CheckResult) r :=
    answers_answered r
  simp only [checkNames, List.mem_cons, List.not_mem_nil, or_false] at h
  rcases h with rfl | rfl | rfl | rfl | rfl | rfl | rfl | rfl | rfl
  · exact hanswered _
  · exact (answers_checkSecureBoot d).onOutcome d.onMachine
  · exact hanswered _
  · exact ((Storage.answers_readStorageTopology d.models d.environ).onOutcome _).onOutcome
      d.onMachine
  · exact hanswered _
  · exact ((Network.answers_readNetworkInterfaces d.models d.environ).onOutcome _).onOutcome
      d.onMachine
  · exact hanswered (d.onMachine d.checkTooling)
  · exact hanswered (d.onMachine d.checkPermissions)
  · exact hanswered _

theorem liftCommand_id {α : Type} (r : Except CommandError α) :
    liftCommand id r = Library.ofExcept r := by
  cases r <;> rfl

/-- **The diagnosis** requests what the checks that are asked for may, in their order. -/
theorem logs_runDoctor (format : OutputFormat) (checks : List String) (strict : Bool) :
    Logs ((selectedChecks checks).flatMap (checkRequests d.environ))
      (runDoctorLogged d format checks strict) (runDoctor d format checks strict) := by
  by_cases hunknown : ((selectedChecks checks).filter fun name => name ∉ checkNames) = []
  · have hknown : ∀ name ∈ selectedChecks checks, name ∈ checkNames := by
      simpa using List.filter_eq_nil_iff.mp hunknown
    have hlogged : runDoctorLogged d format checks strict = (do
        let results ← (selectedChecks checks).mapM d.runCheckLogged
        unlogged (printResults d.console format results)
        if notPassed strict results then throw failedChecks else return 0) := if_pos hunknown
    have hending (results : List CheckResult) : Logs []
        (if notPassed strict results then throw failedChecks else return 0 :
          Requesting CommandError ℕ)
        (if notPassed strict results then throw failedChecks else return 0) := by
      split_ifs
      · exact logs_throw _
      · exact logs_pure _
    have h := Logs.bind (Answers.mapM fun name hname => answers_runCheck d (hknown name hname))
      fun results => (logs_unlogged (printResults d.console format results)).bind
        fun _ => hending results
    rw [hlogged, runDoctor_of_known hknown, liftCommand_id]
    rwa [List.append_nil, List.append_nil] at h
  · have hlogged : runDoctorLogged d format checks strict = throw _ := if_neg hunknown
    have hplain : runDoctor d format checks strict = throw _ := if_neg hunknown
    rw [hlogged, hplain]
    exact (logs_throw _).mono (List.nil_sublist _)

end Diagnosis

/-! ### The invocation -/

/-- `runInventory`, with a log. -/
def runInventoryLogged (d : Diagnosis) (isoformat : Instant → String) (instants : Codec Instant)
    (format : OutputFormat) : Requesting CommandError ℕ := do
  let inventory ← onOutcome
    (mainInventoryLogged d.machine d.collectors d.models d.runner d.environ) fun inventory =>
      inventory.mapError (ofInventory d.osErrorText)
  unlogged (printInventory d.console isoformat instants format inventory)
  return 0

/-- **The inventory** requests what its adapters may, in their order. -/
theorem logs_runInventory (d : Diagnosis) (isoformat : Instant → String) (instants : Codec Instant)
    (format : OutputFormat) : Logs (inventoryRequests d.environ)
      (runInventoryLogged d isoformat instants format)
      (runInventory d isoformat instants format) := by
  have hinventory := (answers_mainInventory d.machine d.collectors d.models d.runner
    d.environ).onOutcome fun inventory => inventory.mapError (ofInventory d.osErrorText)
  have h := Logs.bind hinventory fun inventory =>
    (logs_unlogged (printInventory d.console isoformat instants format inventory)).bind
      fun _ => logs_pure 0
  have hlift (r : Except InventoryError (HostInventory machineTypes)) :
      liftCommand (ofInventory d.osErrorText) r =
        Library.ofExcept (r.mapError (ofInventory d.osErrorText)) := by
    cases r <;> rfl
  rw [List.append_nil, List.append_nil] at h
  rw [runInventory, hlift]
  exact h

namespace Process

variable (p : Process)

/-- `runSubcommand`, with a log. The other commands request nothing. -/
def runSubcommandLogged (d : Diagnosis) (format : OutputFormat) :
    Subcommand → Requesting CommandError ℕ
  | .doctor checks strict => runDoctorLogged d format checks strict
  | .inventory => runInventoryLogged d p.isoformat p.instants format
  | .validate files strict =>
    unlogged (runValidate d.console d.config d.host d.loader d.describe format files strict)
  | .version =>
    unlogged (runVersion d.console d.config d.host d.loader d.describe format p.buildInfo)
  | .stub command => unlogged (runStub command)

/-- A command requests what is given for it. -/
theorem logs_runSubcommand (d : Diagnosis) (format : OutputFormat) (subcommand : Subcommand) :
    Logs (subcommand.toolRequests d.environ) (p.runSubcommandLogged d format subcommand)
      (p.runSubcommand d format subcommand) := by
  cases subcommand with
  | doctor checks strict => exact logs_runDoctor d format checks strict
  | inventory => exact logs_runInventory d p.isoformat p.instants format
  | validate files strict => exact logs_unlogged _
  | version => exact logs_unlogged _
  | stub command => exact logs_unlogged _

end Process

/-- `Command.run`, with the log. -/
def runLoggedCommand (command : Requesting CommandError ℕ) : Ended × List RunRequest :=
  match command ([], []) with
  | .ok code (stdout, log) => (⟨stdout, [], code⟩, log)
  | .error e (stdout, log) => (e.ends stdout, log)

/-- A command that logs what it requests ends as it does without the log. -/
theorem run_of_logs {requests : List RunRequest} {logged : Requesting CommandError ℕ}
    {command : Command ℕ} (h : Logs requests logged command) :
    (runLoggedCommand logged).1 = command.run ∧ (runLoggedCommand logged).2.Sublist requests := by
  obtain ⟨asked, hasked, hlogged⟩ := h [] []
  rw [runLoggedCommand, hlogged, Command.run]
  cases command [] with
  | ok code stdout => exact ⟨rfl, hasked⟩
  | error e stdout => exact ⟨rfl, hasked⟩

namespace Process

variable (p : Process)

/-- `runCommand`, with the log. -/
def runCommandLogged (d : Diagnosis) (format : OutputFormat) (name : String)
    (args : List String) : Ended × List RunRequest :=
  match p.parseCommand name args with
  | .refused text => (⟨[], [text], ExitCode.usageError.value⟩, [])
  | .shown text => (⟨[text], [], ExitCode.success.value⟩, [])
  | .read arguments =>
    runLoggedCommand (p.runSubcommandLogged d format (subcommandOf name arguments))

/-- `invoke`, with the log. -/
def invokeLogged (options : GlobalOptions) (command : Option (String × List String)) :
    Ended × List RunRequest :=
  let ended := match p.callback options with
    | .error problem => ((CommandError.unexpected problem).ends [], [])
    | .ok d =>
      match command with
      | none => (⟨[p.help], [], ExitCode.success.value⟩, [])
      | some (name, args) => p.runCommandLogged d options.output name args
  ({ ended.1 with stderr := p.warnings options ++ ended.1.stderr }, ended.2)

/-- `main`, with the log. -/
def mainLogged (argv : List String) : Ended × List RunRequest :=
  match p.invocation argv with
  | .callback options command => p.invokeLogged options command
  | .refused _ | .shown _ | .runPlugin _ _ | .unknown _ => (p.main argv, [])

/-- What may be requested for an argument vector. -/
def toolRequests (argv : List String) : List RunRequest :=
  match p.invocation argv with
  | .callback _ (some (name, args)) =>
    match p.parseCommand name args with
    | .read arguments => (subcommandOf name arguments).toolRequests p.environ
    | .refused _ | .shown _ => []
  | .callback _ none | .refused _ | .shown _ | .runPlugin _ _ | .unknown _ => []

end Process

/-- **The program runs no other tools.** With a log of its requests, an invocation ends as it does
without one, and what it has requested are some of the requests given for it, in their order. -/
theorem main_requests (p : Process) (argv : List String) :
    (p.mainLogged argv).1 = p.main argv ∧ (p.mainLogged argv).2.Sublist (p.toolRequests argv) := by
  rw [Process.mainLogged, Process.toolRequests]
  cases hinvocation : p.invocation argv with
  | refused text | shown text | runPlugin executable args | unknown message =>
    exact ⟨rfl, List.nil_sublist _⟩
  | callback options command =>
    have hmain : p.main argv = p.invoke options command := by rw [Process.main, hinvocation]
    rw [hmain]
    dsimp only
    rw [Process.invokeLogged, Process.invoke]
    cases hcallback : p.callback options with
    | error problem => exact ⟨rfl, List.nil_sublist _⟩
    | ok d =>
      have henviron : d.environ = p.environ := by
        obtain ⟨preferences, files, rfl⟩ := exists_context hcallback
        rfl
      rcases command with _ | ⟨name, args⟩
      · exact ⟨rfl, List.nil_sublist _⟩
      · dsimp only
        rw [Process.runCommandLogged, Process.runCommand]
        cases hparse : p.parseCommand name args with
        | refused text => exact ⟨rfl, List.nil_sublist _⟩
        | shown text => exact ⟨rfl, List.nil_sublist _⟩
        | read arguments =>
          obtain ⟨hended, hlog⟩ := run_of_logs
            (p.logs_runSubcommand d options.output (subcommandOf name arguments))
          rw [henviron] at hlog
          exact ⟨by rw [hended], hlog⟩

end ClassroomSuite.Commands
