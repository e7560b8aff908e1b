import Mathlib.Algebra.GroupWithZero.Nat
import ClassroomSuite.Commands.Validate
import ClassroomSuite.Config.ContentErrors
import ClassroomSuite.Inventory.MainInventory
import ClassroomSuite.Inventory.SnapshotInvariants

/-!
# `bcs doctor`

The diagnosis runs the checks that are asked for, or all of them, one after the other, and prints
their results. It fails if a check fails or, where it is strict, if one warns. A name that is no
check ends it before any check is run. Each check reads its own part of the machine; `CheckLegible`
says what each of them needs, so that the diagnosis has a result exactly if every check has what it
needs. Seven of the checks are about the machine; they say of it what its inventory says.

Source: `cli/src/bcs/commands/doctor.py`.

## Main definitions

* `Diagnosis`: what the diagnosis runs on.
* The checks, `allChecks`, `runDoctor`.
* `CheckLegible`, `Diagnoses`, `AgreesWithInventory`.

## Main results

* `runCheck_returns_iff`, `diagnoses_runDoctor`.
* `agrees_with_inventory`.
-/

namespace ClassroomSuite.Commands

open Python Library Platform Config Inventory

/-- What the diagnosis runs on: the console, the machine, the commands on it and their environment,
the effective user if the platform has one, and the configuration. -/
structure Diagnosis where
  console : Console
  machine : Machine
  collectors : CollectorRuntime
  models : ModelRuntime
  runner : CommandRunner
  environ : List (String × String)
  euid : Option ℕ
  config : ConfigRuntime
  host : Config.Host
  loader : ConfigLoader
  describe : ConfigException → String
  osErrorText : String

/-- An exception of the collectors or the adapters, as a command raises it. -/
def ofInventory (osErrorText : String) : InventoryError → CommandError
  | .raised (.platform e) => .unexpected e.message
  | .raised (.python e) => .unexpected e.str
  | .osError => .unexpected osErrorText

/-! ### The checks -/

/-- What the firmware check says. -/
def firmwareCheck (uefi : Bool) : CheckResult :=
  if uefi then ⟨"firmware", .ok, "UEFI firmware detected (PLAT-003)"⟩
  else ⟨"firmware", .fail, "UEFI firmware not detected (PLAT-003)"⟩

/-- What the check of the EFI system partition says. -/
def espCheck (esp : EfiSystemPartition) : CheckResult :=
  if !esp.present then ⟨"esp", .fail, "no EFI System Partition found (BLD-004/DEP-003)"⟩
  else if !esp.mounted then ⟨"esp", .warn, "EFI System Partition present but not mounted"⟩
  else ⟨"esp", .ok, "EFI System Partition mounted at " ++ esp.mountPoint.getD "None"⟩

/-- What the check of the USB storage says. -/
def usbStorageCheck (devices : List UsbStorageDevice) : CheckResult :=
  if devices = [] then ⟨"usb-storage", .skip, "no USB storage devices detected"⟩
  else ⟨"usb-storage", .ok, "USB storage device(s) found: " ++
    ", ".intercalate (devices.map UsbStorageDevice.name)⟩

/-- What the check of the tools says. -/
def toolingCheck (tools : List ToolStatus) : CheckResult :=
  let missing := (tools.filter fun tool => !tool.found).map ToolStatus.name
  if missing = [] then ⟨"tooling", .ok, "all expected tools found on PATH"⟩
  else ⟨"tooling", .fail, "missing on PATH: " ++ ", ".intercalate missing⟩

/-- What an adapter returned, or what a collector finds after an exception of the platform layer. -/
def adapterOrCollect {α β : Type} (adapter : Except Raised α) (use : α → β)
    (collect : Except InventoryError β) : Except InventoryError β :=
  match adapter with
  | .ok a => .ok (use a)
  | .error (.platform _) => collect
  | .error (.python e) => .error (.raised (.python e))

/-- What the Secure Boot check says of the outcome of the adapter. -/
def secureBootOutcome :
    Except Raised SecureBoot.SecureBootStatus → Except InventoryError CheckResult
  | .ok status => .ok (secureBootCheck status.state)
  | .error (.platform e) =>
    .ok ⟨"secure-boot", .warn, "Secure Boot state could not be determined (" ++ e.className ++
      ": " ++ e.message ++ ") (PLAT-004)"⟩
  | .error (.python e) => .error (.raised (.python e))

namespace Diagnosis

variable (d : Diagnosis)

/-- `_check_firmware`. -/
def checkFirmware : Except InventoryError CheckResult :=
  d.machine.collectFirmware.map fun firmware => firmwareCheck firmware.uefi

/-- What the Secure Boot check says of the firmware, of which it asks the adapter if there is UEFI.
-/
def secureBootOf (firmware : FirmwareInfo) : Except InventoryError CheckResult :=
  if firmware.uefi then
    secureBootOutcome (SecureBoot.readSecureBootStatus d.models.text d.runner d.environ)
  else .ok ⟨"secure-boot", .skip, "not applicable: not running under UEFI"⟩

/-- `_check_secure_boot`. -/
def checkSecureBoot : Except InventoryError CheckResult :=
  d.machine.collectFirmware >>= d.secureBootOf

/-- `_check_storage`. -/
def checkStorage : Except InventoryError CheckResult :=
  (adapterOrCollect (Storage.readStorageTopology d.models d.runner d.environ)
    (fun topology => (topology.devices.filter fun device => device.deviceType = "disk").map
      Storage.BlockDevice.name)
    (d.machine.collectStorage.map fun devices => devices.map StorageDevice.name)).map storageCheck

/-- `_check_esp`. -/
def checkEsp : Except InventoryError CheckResult :=
  (d.machine.collectEfiSystemPartition d.collectors).map espCheck

/-- `_check_usb_storage`. -/
def checkUsbStorage : Except InventoryError CheckResult :=
  (d.machine.collectUsbStorage d.collectors).map usbStorageCheck

/-- `_check_network`. -/
def checkNetwork : Except InventoryError CheckResult :=
  (adapterOrCollect (Network.readNetworkInterfaces d.models d.runner d.environ)
    (fun status => status.interfaces.map fun iface => ⟨iface.name, iface.isUp, iface.isLoopback⟩)
    (d.machine.collectNetwork.map fun interfaces =>
      interfaces.map NetworkInterface.like)).map networkCheck

/-- `_check_tooling`. -/
def checkTooling : Except InventoryError CheckResult :=
  .ok (toolingCheck d.machine.collectTooling)

/-- `_check_permissions`. -/
def checkPermissions : Except InventoryError CheckResult :=
  match d.euid with
  | none => .ok ⟨"permissions", .skip, "not applicable on this platform"⟩
  | some 0 => .ok ⟨"permissions", .ok, "running as root"⟩
  | some _ => .ok ⟨"permissions", .warn, "not running as root; some operations may fail"⟩

/-- A check of the machine, as a command raises its exceptions. -/
def onMachine (check : Except InventoryError CheckResult) : Except CommandError CheckResult :=
  check.mapError (ofInventory d.osErrorText)

/-- The checks by their names (`_ALL_CHECKS`). -/
def allChecks : List (String × Except CommandError CheckResult) :=
  [("firmware", d.onMachine d.checkFirmware),
    ("secure-boot", d.onMachine d.checkSecureBoot),
    ("esp", d.onMachine d.checkEsp),
    ("storage", d.onMachine d.checkStorage),
    ("usb-storage", d.onMachine d.checkUsbStorage),
    ("network", d.onMachine d.checkNetwork),
    ("tooling", d.onMachine d.checkTooling),
    ("permissions", d.onMachine d.checkPermissions),
    ("config", (checkConfig d.config d.host d.loader).mapError (ofConfig d.describe))]

/-- The check of a name. -/
def runCheck (name : String) : Except CommandError CheckResult :=
  (d.allChecks.lookup name).getD (.error (.unexpected ("'" ++ name ++ "'")))

end Diagnosis

/-! ### Running the checks -/

/-- The names of the checks, in their order. -/
def checkNames : List String :=
  ["firmware", "secure-boot", "esp", "storage", "usb-storage", "network", "tooling",
    "permissions", "config"]

/-- The text of a status. -/
def statusText : CheckStatus → String
  | .ok => "ok"
  | .warn => "warn"
  | .fail => "fail"
  | .skip => "skip"

/-- `_STATUS_STYLE`. -/
def statusStyle : CheckStatus → String
  | .ok => "green"
  | .warn => "yellow"
  | .fail => "red"
  | .skip => "dim"

/-- `_STATUS_LABEL`. -/
def statusLabel : CheckStatus → String
  | .ok => "OK"
  | .warn => "WARN"
  | .fail => "FAIL"
  | .skip => "SKIP"

/-- A text, filled up with blanks on its right. -/
def padRight (width : ℕ) (s : String) : String :=
  s ++ String.ofList (List.replicate (width - s.length) ' ')

/-- The statuses in the order of the summary. -/
def statuses : List CheckStatus := [.ok, .warn, .fail, .skip]

/-- How many results have a status. -/
def countStatus (results : List CheckResult) (status : CheckStatus) : ℕ :=
  results.countP fun result => result.status = status

/-- The lines of the results. -/
def doctorLines (results : List CheckResult) : List String :=
  (results.map fun result =>
    "[" ++ statusStyle result.status ++ "][" ++ padRight 5 (statusLabel result.status) ++ "][/" ++
      statusStyle result.status ++ "] " ++ padRight 12 result.name ++ " " ++ result.message) ++
  [", ".intercalate ((statuses.filter fun status => countStatus results status ≠ 0).map
    fun status => toString (countStatus results status) ++ " " ++ statusText status)]

/-- A result, as a payload has it. -/
def checkJson (result : CheckResult) : Json :=
  .obj [("name", .str result.name), ("status", .str (statusText result.status)),
    ("message", .str result.message)]

/-- The payload of the results. -/
def doctorPayload (results : List CheckResult) : Fields :=
  [("checks", .arr (results.map checkJson)),
    ("summary", .obj (statuses.map fun status =>
      (statusText status, .int (countStatus results status))))]

/-- Print the results, as lines or as one value. -/
def printResults (console : Console) (format : OutputFormat) (results : List CheckResult) :
    Command PUnit :=
  if format = .text then printLines console (doctorLines results)
  else printStructuredResult console format (doctorPayload results)

/-- Whether results let a diagnosis fail. -/
def notPassed (strict : Bool) (results : List CheckResult) : Bool :=
  results.any (fun result => result.status = .fail) ||
    (strict && results.any fun result => result.status = .warn)

/-- The exception about checks that have failed. -/
def failedChecks : CommandError :=
  .bcs ⟨.preconditionFailed, "one or more doctor checks did not pass"⟩

/-- `run_doctor`: run the checks that are asked for, or all, and print their results. -/
def runDoctor (d : Diagnosis) (format : OutputFormat) (checks : List String) (strict : Bool) :
    Command ℕ := do
  let selected := if checks = [] then checkNames else checks
  let unknown := selected.filter fun name => name ∉ checkNames
  if unknown = [] then
    let results ← liftCommand id (selected.mapM d.runCheck)
    printResults d.console format results
    if notPassed strict results then throw failedChecks else return 0
  else throw (.bcs ⟨.usage, "unknown check(s): " ++ ", ".intercalate unknown ++
    "; known checks: " ++ ", ".intercalate checkNames⟩)

/-! ### What a check needs -/

variable {d : Diagnosis}

/-- What is handed to the console of results. -/
def doctorOutput (format : OutputFormat) (results : List CheckResult) : List Printed :=
  if format = .text then (doctorLines results).map Printed.line
  else [format.printed (("schemaVersion", .str cliSchemaVersion) :: doctorPayload results)]

theorem prints_printResults (console : Console) (format : OutputFormat)
    (results : List CheckResult) :
    Prints console (printResults console format results) (doctorOutput format results) () := by
  rw [printResults, doctorOutput]
  split_ifs with hformat
  · exact prints_printLines console _
  · exact prints_printJsonOrYaml hformat _

/-- The names of the checks that are run. -/
def selectedChecks (checks : List String) : List String :=
  if checks = [] then checkNames else checks

theorem name_storageCheck (names : List String) : (storageCheck names).name = "storage" := by
  rw [storageCheck]
  split_ifs <;> rfl

theorem name_networkCheck (interfaces : List InterfaceLike) :
    (networkCheck interfaces).name = "network" := by
  rw [networkCheck]
  split_ifs <;> rfl

theorem status_of_checkConfig {e : CommandError}
    (h : (checkConfig d.config d.host d.loader).mapError (ofConfig d.describe) = .error e) :
    e.status = 1 ∨ e.status = 2 := by
  obtain ⟨e', he', rfl⟩ := mapError_eq_error_iff.mp h
  cases hpath : d.loader.resolvePath d.host with
  | error e'' =>
    rw [checkConfig, hpath] at he'
    rcases resolvePath_eq_error hpath with ⟨message, rfl⟩ | ⟨e₀, rfl⟩
    · cases he'
    · obtain rfl := Except.error.inj he'
      exact Or.inl rfl
  | ok path =>
    rw [checkConfig_eq hpath] at he'
    cases hreport : validateDocument d.config d.host d.loader path with
    | ok report => rw [hreport] at he'; cases he'
    | error e'' =>
      rw [hreport] at he'
      obtain rfl := Except.error.inj he'
      exact status_of_validateDocument hreport

/-- An exception of a collector or an adapter is none of the program's. -/
theorem status_ofInventory (osErrorText : String) (e : InventoryError) :
    (ofInventory osErrorText e).status = 1 := by
  rcases e with (e | e) | _ <;> rfl

/-- What a check raises is an error of usage, or none of the program's. -/
theorem status_of_runCheck {name : String} {e : CommandError} (hname : name ∈ checkNames)
    (h : d.runCheck name = .error e) : e.status = 1 ∨ e.status = 2 := by
  have hmachine (check : Except InventoryError CheckResult)
      (h : d.onMachine check = .error e) : e.status = 1 ∨ e.status = 2 := by
    obtain ⟨e', -, rfl⟩ := mapError_eq_error_iff.mp h
    exact Or.inl (status_ofInventory d.osErrorText e')
  simp only [checkNames, List.mem_cons, List.not_mem_nil, or_false] at hname
  rcases hname with rfl | rfl | rfl | rfl | rfl | rfl | rfl | rfl | rfl
  · exact hmachine d.checkFirmware h
  · exact hmachine d.checkSecureBoot h
  · exact hmachine d.checkEsp h
  · exact hmachine d.checkStorage h
  · exact hmachine d.checkUsbStorage h
  · exact hmachine d.checkNetwork h
  · cases h
  · exact hmachine d.checkPermissions h
  · exact status_of_checkConfig h

/-- Once the names are known, the checks are run. -/
theorem runDoctor_of_known {format : OutputFormat} {checks : List String} {strict : Bool}
    (hknown : ∀ name ∈ selectedChecks checks, name ∈ checkNames) :
    runDoctor d format checks strict = (do
      let results ← liftCommand id ((selectedChecks checks).mapM d.runCheck)
      printResults d.console format results
      if notPassed strict results then throw failedChecks else return 0) := by
  have hunknown : ((selectedChecks checks).filter fun name => name ∉ checkNames) = [] :=
    List.filter_eq_nil_iff.mpr fun name hname => by simpa using hknown name hname
  exact if_pos hunknown

/-- A name that is no check ends the diagnosis before any check is run. -/
theorem run_of_unknown {format : OutputFormat} {checks : List String} {strict : Bool}
    {name : String} (hname : name ∈ selectedChecks checks) (hunknown : name ∉ checkNames) :
    ∃ message, (runDoctor d format checks strict).run =
      (CommandError.bcs ⟨.usage, message⟩).ends [] := by
  have hne : ((selectedChecks checks).filter fun name => name ∉ checkNames) ≠ [] := fun h =>
    List.filter_eq_nil_iff.mp h name hname (by simpa using hunknown)
  obtain ⟨message, hthrow⟩ : ∃ message, runDoctor d format checks strict =
      throw (.bcs ⟨.usage, message⟩) := ⟨_, if_neg hne⟩
  rw [hthrow]
  exact ⟨message, run_of_raises (.throw d.console _)⟩

/-- The exception of a check ends the diagnosis before anything is printed. -/
theorem run_of_check_raises {format : OutputFormat} {checks : List String} {strict : Bool}
    {e : CommandError} (hknown : ∀ name ∈ selectedChecks checks, name ∈ checkNames)
    (he : (selectedChecks checks).mapM d.runCheck = .error e) :
    (runDoctor d format checks strict).run = e.ends [] ∧ (e.status = 1 ∨ e.status = 2) := by
  have hraises : RaisesAfter d.console (runDoctor d format checks strict) [] e := by
    rw [runDoctor_of_known hknown]
    exact (raisesAfter_liftCommand he).bind _
  obtain ⟨before, name, after, hselected, -, hcheck⟩ := (mapM_eq_error_iff _ _ _).mp he
  refine ⟨run_of_raises hraises, status_of_runCheck (hknown name ?_) hcheck⟩
  rw [hselected]
  exact List.mem_append_right _ List.mem_cons_self

/-- With the results of all checks, the diagnosis hands them to the console and ends with 0 or
4. -/
theorem run_of_results {format : OutputFormat} {checks : List String} {strict : Bool}
    {results : List CheckResult} (hknown : ∀ name ∈ selectedChecks checks, name ∈ checkNames)
    (hresults : (selectedChecks checks).mapM d.runCheck = .ok results) :
    (runDoctor d format checks strict).run =
      if notPassed strict results then
        d.console.finish (doctorOutput format results) [failedChecks.report] 4
      else d.console.finish (doctorOutput format results) [] 0 := by
  have hpasses (h : notPassed strict results = false) :
      Prints d.console (runDoctor d format checks strict)
        ([] ++ (doctorOutput format results ++ [])) 0 := by
    rw [runDoctor_of_known hknown]
    refine (prints_liftCommand hresults).bind ((prints_printResults d.console format results).bind
      ?_)
    rw [h]
    exact .pure d.console 0
  have hfails (h : notPassed strict results = true) :
      RaisesAfter d.console (runDoctor d format checks strict)
        ([] ++ (doctorOutput format results ++ [])) failedChecks := by
    rw [runDoctor_of_known hknown]
    refine (prints_liftCommand hresults).bind_raises
      ((prints_printResults d.console format results).bind_raises ?_)
    rw [h]
    exact .throw d.console _
  simp only [List.nil_append, List.append_nil] at hpasses hfails
  cases h : notPassed strict results with
  | true => exact run_of_raises (hfails h)
  | false => exact run_of_prints (hpasses h)

section Facts

variable {facts : HostFacts machineTypes}

/-- A collector that has returned is a fallback. -/
theorem adapterOrCollect_ok {α β : Type} (adapter : Except Raised α) (use : α → β)
    (fallback : β) :
    adapterOrCollect adapter use (.ok fallback) = liftRaised (adapterOr adapter use fallback) := by
  rcases adapter with (_ | _) | _ <;> rfl

theorem map_liftRaised {α β : Type} (x : Except Raised α) (f : α → β) :
    (liftRaised x).map f = liftRaised (x.map f) := by
  cases x <;> rfl

/-- Where the collectors find `facts`, the storage check of the machine is that of these facts. -/
theorem checkStorage_refines (h : d.machine.facts d.collectors = .ok facts) :
    d.checkStorage = liftRaised (Inventory.checkStorage d.models d.runner d.environ facts) := by
  obtain ⟨-, -, -, -, hstorage, -⟩ := facts_eq_ok h
  rw [Diagnosis.checkStorage, hstorage, Inventory.checkStorage, storageNames, ← map_liftRaised,
    ← adapterOrCollect_ok]
  rfl

/-- Where the collectors find `facts`, the network check of the machine is that of these facts. -/
theorem checkNetwork_refines (h : d.machine.facts d.collectors = .ok facts) :
    d.checkNetwork = liftRaised (Inventory.checkNetwork d.models d.runner d.environ facts) := by
  obtain ⟨-, -, hnetwork, -, -, -⟩ := facts_eq_ok h
  rw [Diagnosis.checkNetwork, hnetwork, Inventory.checkNetwork, networkInterfaces,
    ← map_liftRaised, ← adapterOrCollect_ok]
  rfl

/-- Where the collectors find `facts`, the Secure Boot check of the machine is that of these
facts. -/
theorem checkSecureBoot_refines (h : d.machine.facts d.collectors = .ok facts) :
    d.checkSecureBoot = liftRaised (Inventory.checkSecureBoot facts
      (SecureBoot.readSecureBootStatus d.models.text d.runner d.environ)) := by
  obtain ⟨-, -, -, -, -, hfirmware⟩ := facts_eq_ok h
  rw [Diagnosis.checkSecureBoot, hfirmware, ok_bind]
  unfold Diagnosis.secureBootOf Inventory.checkSecureBoot
  split_ifs
  · rcases SecureBoot.readSecureBootStatus d.models.text d.runner d.environ with (_ | _) | _ <;> rfl
  · rfl

end Facts

/-! ### The diagnosis and the inventory -/

/-- What the Secure Boot check says of the firmware of an inventory. Of an unknown state it gives
the reason: the state, or the exception of the adapter. -/
structure SecureBootAgrees (d : Diagnosis) (result : CheckResult) (firmware : FirmwareInfo) :
    Prop where
  name : result.name = "secure-boot"
  notUefi : firmware.uefi = false →
    result.status = .skip ∧ result.message = "not applicable: not running under UEFI"
  enabled : firmware.uefi = true → firmware.secureBoot = .enabled →
    result.status = .ok ∧ result.message = "Secure Boot is enabled (PLAT-004)"
  disabled : firmware.uefi = true → firmware.secureBoot = .disabled →
    result.status = .warn ∧ result.message = "Secure Boot is disabled (PLAT-004)"
  undetermined : firmware.uefi = true → firmware.secureBoot ≠ .enabled →
    firmware.secureBoot ≠ .disabled → result.status = .warn ∧ ∃ reason,
      result.message = "Secure Boot state could not be determined (" ++ reason ++ ") (PLAT-004)" ∧
      (reason = firmware.secureBoot.value ∨ firmware.secureBoot = .unknown ∧ ∃ e,
        SecureBoot.readSecureBootStatus d.models.text d.runner d.environ = .error (.platform e) ∧
          reason = e.className ++ ": " ++ e.message)

/-- What the checks say of the machine, in terms of an inventory. -/
structure AgreesWithInventory (d : Diagnosis) (inventory : HostInventory machineTypes) : Prop where
  firmware : d.runCheck "firmware" = .ok (if inventory.firmware.uefi
    then ⟨"firmware", .ok, "UEFI firmware detected (PLAT-003)"⟩
    else ⟨"firmware", .fail, "UEFI firmware not detected (PLAT-003)"⟩)
  secureBoot : ∃ result, d.runCheck "secure-boot" = .ok result ∧
    SecureBootAgrees d result inventory.firmware
  esp : d.runCheck "esp" = .ok (if inventory.sections.efiSystemPartition.present = false
    then ⟨"esp", .fail, "no EFI System Partition found (BLD-004/DEP-003)"⟩
    else if inventory.sections.efiSystemPartition.mounted = false
    then ⟨"esp", .warn, "EFI System Partition present but not mounted"⟩
    else ⟨"esp", .ok, "EFI System Partition mounted at " ++
      inventory.sections.efiSystemPartition.mountPoint.getD "None"⟩)
  storage : ∃ result, d.runCheck "storage" = .ok result ∧
    result.name = "storage" ∧ StorageAgrees result inventory.storage
  usbStorage : d.runCheck "usb-storage" = .ok (if inventory.sections.usbStorage = []
    then ⟨"usb-storage", .skip, "no USB storage devices detected"⟩
    else ⟨"usb-storage", .ok, "USB storage device(s) found: " ++
      ", ".intercalate (inventory.sections.usbStorage.map UsbStorageDevice.name)⟩)
  network : ∃ result, d.runCheck "network" = .ok result ∧
    result.name = "network" ∧ NetworkAgrees result inventory.network
  tooling : d.runCheck "tooling" = .ok (if ∀ tool ∈ inventory.sections.tooling, tool.found = true
    then ⟨"tooling", .ok, "all expected tools found on PATH"⟩
    else ⟨"tooling", .fail, "missing on PATH: " ++ ", ".intercalate
      ((inventory.sections.tooling.filter fun tool => !tool.found).map ToolStatus.name)⟩)

/-- An inventory of the program, by its sections. -/
theorem mainInventory_eq_ok {rt : CollectorRuntime} {m : Machine} {models : ModelRuntime}
    {runner : CommandRunner} {environ : List (String × String)}
    {inventory : HostInventory machineTypes}
    (h : m.mainInventory rt models runner environ = .ok inventory) :
    ∃ firmware observed, m.collectFirmware = .ok firmware ∧
      fatalErrors (mainAdapters models runner environ (m.slots rt models runner environ)) = [] ∧
      m.discovered rt firmware (snapshot (mainAdapters models runner environ
        (m.slots rt models runner environ))) = .ok observed ∧
      m.collectSections rt = .ok inventory.sections ∧
      observed.firmware = inventory.firmware ∧ observed.storage = inventory.storage ∧
      observed.network = inventory.network := by
  rw [Machine.mainInventory, Machine.collectHostInventory] at h
  obtain ⟨firmware, hfirmware, h⟩ := bind_eq_ok_iff.mp h
  obtain ⟨observed, hobserved, h⟩ := bind_eq_ok_iff.mp h
  obtain ⟨sections, hsections, h⟩ := bind_eq_ok_iff.mp h
  obtain rfl := Except.ok.inj h
  obtain ⟨found, hfound, hobserved⟩ := bind_eq_ok_iff.mp hobserved
  rw [discover_eq] at hfound
  cases hfatal : fatalErrors (mainAdapters models runner environ
      (m.slots rt models runner environ)) with
  | cons e es =>
    rw [hfatal] at hfound
    cases hfound
  | nil =>
    rw [hfatal] at hfound
    obtain rfl := Except.ok.inj hfound
    exact ⟨firmware, observed, hfirmware, rfl, hobserved, hsections, rfl, rfl, rfl⟩

/-- The firmware with the state of a discovery, if it has one. -/
def withSecureBoot (firmware : FirmwareInfo) (status : Option SecureBoot.SecureBootStatus) :
    FirmwareInfo :=
  match status with
  | some status => { firmware with secureBoot := translateSecureBootState status }
  | none => firmware

theorem uefi_withSecureBoot (firmware : FirmwareInfo)
    (status : Option SecureBoot.SecureBootStatus) :
    (withSecureBoot firmware status).uefi = firmware.uefi := by
  cases status <;> rfl

/-- What a discovery returned of firmware, storage and network, with the collectors behind it. -/
theorem discovered_eq_ok {rt : CollectorRuntime} {m : Machine} {firmware : FirmwareInfo}
    {found : HostDiscoverySnapshot machineTypes.discovery} {observed : Machine.Observed}
    (h : m.discovered rt firmware found = .ok observed) :
    observed.firmware = withSecureBoot firmware found.secureBoot ∧
    Machine.orCollect (found.storageTopology.map translateStorageDevices) m.collectStorage =
      .ok observed.storage ∧
    Machine.orCollect (found.network.map translateNetworkInterfaces) m.collectNetwork =
      .ok observed.network := by
  rw [Machine.discovered] at h
  obtain ⟨cpu, -, h⟩ := bind_eq_ok_iff.mp h
  obtain ⟨memory, -, h⟩ := bind_eq_ok_iff.mp h
  obtain ⟨storage, hstorage, h⟩ := bind_eq_ok_iff.mp h
  obtain ⟨network, hnetwork, h⟩ := bind_eq_ok_iff.mp h
  obtain rfl := Except.ok.inj h
  exact ⟨rfl, hstorage, hnetwork⟩

/-- What an adapter that does not escape returned, and what is collected otherwise, is found by the
diagnosis where the inventory finds it. -/
theorem adapterOrCollect_eq {α β γ : Type} {adapter : Except Raised α} {translate : α → β}
    {use : α → γ} (like : β → γ) (huse : ∀ a, use a = like (translate a))
    {collect : Except InventoryError β} (hcontained : ¬ Raises Raised.Escapes adapter) {b : β}
    (h : Machine.orCollect ((returned (some adapter)).map translate) collect = .ok b) :
    adapterOrCollect adapter use (collect.map like) = .ok (like b) := by
  rcases (not_escapes_iff _).mp hcontained with ⟨a, rfl⟩ | ⟨e, rfl⟩
  · obtain rfl := Except.ok.inj h
    exact congrArg _ (huse a)
  · have hcollect : collect = .ok b := h
    rw [hcollect]
    rfl

/-- The storage check considers the devices of the inventory. -/
theorem checkStorage_eq {devices : List StorageDevice}
    (hstray : ¬ StorageMeetsStray d.models d.runner d.environ)
    (hdevices : Machine.orCollect ((returned (some (Storage.readStorageTopology d.models d.runner
      d.environ))).map translateStorageDevices) d.machine.collectStorage = .ok devices) :
    d.checkStorage = .ok (storageCheck (devices.map StorageDevice.name)) := by
  rw [← escapes_readStorageTopology_iff] at hstray
  have huse (topology : Storage.StorageConfiguration) :
      (topology.devices.filter fun device => device.deviceType = "disk").map
        Storage.BlockDevice.name = (translateStorageDevices topology).map StorageDevice.name := by
    simp [translateStorageDevices]
  rw [Diagnosis.checkStorage, adapterOrCollect_eq _ huse hstray hdevices]
  rfl

/-- The network check considers the interfaces of the inventory. -/
theorem checkNetwork_eq {interfaces : List NetworkInterface}
    (hstray : ¬ NetworkMeetsStray d.models d.runner d.environ)
    (hinterfaces : Machine.orCollect ((returned (some (Network.readNetworkInterfaces d.models
      d.runner d.environ))).map translateNetworkInterfaces) d.machine.collectNetwork =
        .ok interfaces) :
    d.checkNetwork = .ok (networkCheck (interfaces.map NetworkInterface.like)) := by
  rw [← escapes_readNetworkInterfaces_iff] at hstray
  have huse (status : Network.NetworkInterfaceStatus) :
      (status.interfaces.map fun iface => (⟨iface.name, iface.isUp, iface.isLoopback⟩ :
        InterfaceLike)) = (translateNetworkInterfaces status).map NetworkInterface.like := by
    simp [translateNetworkInterfaces, NetworkInterface.like]
  rw [Diagnosis.checkNetwork, adapterOrCollect_eq _ huse hstray hinterfaces]
  rfl

/-- The collector does not say of Secure Boot that it is enabled or disabled, and under UEFI it says
that it is unknown. -/
theorem secureBoot_of_collectFirmware {firmware : FirmwareInfo}
    (h : d.machine.collectFirmware = .ok firmware) (huefi : firmware.uefi = true) :
    firmware.secureBoot = .unknown := by
  rcases collectFirmware_eq_ok h with rfl | rfl
  · rfl
  · cases huefi

/-- What the Secure Boot check says of the firmware, of which the inventory has the state of the
adapter if it returned. -/
theorem secureBootAgrees {firmware : FirmwareInfo}
    (hfirmware : d.machine.collectFirmware = .ok firmware) :
    ∃ result, d.checkSecureBoot = .ok result ∧ SecureBootAgrees d result (withSecureBoot firmware
      (returned (some (SecureBoot.readSecureBootStatus d.models.text d.runner d.environ)))) := by
  have hcheck : d.checkSecureBoot = d.secureBootOf firmware := by
    rw [Diagnosis.checkSecureBoot, hfirmware]
    rfl
  have hcontained := not_escapes_readSecureBootStatus d.models.text d.runner d.environ
  rw [hcheck, Diagnosis.secureBootOf]
  cases huefi : firmware.uefi with
  | false => exact ⟨_, rfl, by constructor <;> simp [uefi_withSecureBoot, huefi]⟩
  | true =>
    rw [if_pos rfl]
    rcases (not_escapes_iff _).mp hcontained with ⟨status, hstatus⟩ | ⟨e, he⟩
    · rw [hstatus]
      refine ⟨_, rfl, ?_⟩
      have hvalue := value_translateSecureBootState status
      have hwith : withSecureBoot firmware (returned (some (.ok status : Except Raised _))) =
        { firmware with secureBoot := translateSecureBootState status } := rfl
      rw [hwith]
      cases hstate : status.state with
      | enabled | disabled =>
        constructor <;> simp [translateSecureBootState, hstate, huefi, secureBootCheck]
      | unsupported | unknown =>
        exact {
          name := rfl
          notUefi := by simp [huefi]
          enabled := by simp [translateSecureBootState, hstate]
          disabled := by simp [translateSecureBootState, hstate]
          undetermined := fun _ _ _ => ⟨rfl, _, rfl, Or.inl (by rw [hvalue, hstate])⟩ }
    · have hunknown := secureBoot_of_collectFirmware hfirmware huefi
      have hwith : withSecureBoot firmware (returned (some (.error (.platform e) :
        Except Raised SecureBoot.SecureBootStatus))) = firmware := rfl
      rw [he, hwith]
      exact ⟨_, rfl, {
        name := rfl
        notUefi := by simp [huefi]
        enabled := by simp [hunknown]
        disabled := by simp [hunknown]
        undetermined := fun _ _ _ => ⟨rfl, _, by simp only [String.append_assoc],
          Or.inr ⟨hunknown, e, he, rfl⟩⟩ }⟩

/-- The sections that are always those of their collectors, one by one. -/
theorem collectSections_eq_ok {rt : CollectorRuntime} {m : Machine} {sections : Sections}
    (h : m.collectSections rt = .ok sections) :
    m.collectEfiSystemPartition rt = .ok sections.efiSystemPartition ∧
      m.collectUsbStorage rt = .ok sections.usbStorage ∧ m.collectTooling = sections.tooling := by
  rw [Machine.collectSections] at h
  obtain ⟨identity, -, h⟩ := bind_eq_ok_iff.mp h
  obtain ⟨os, -, h⟩ := bind_eq_ok_iff.mp h
  obtain ⟨esp, hesp, h⟩ := bind_eq_ok_iff.mp h
  obtain ⟨usb, husb, h⟩ := bind_eq_ok_iff.mp h
  obtain rfl := Except.ok.inj h
  exact ⟨hesp, husb, rfl⟩

/-- **The diagnosis says of the machine what the inventory says**: where the inventory of a machine
is taken, the checks of this machine have the results that its sections determine. -/
theorem agrees_with_inventory {inventory : HostInventory machineTypes}
    (h : d.machine.mainInventory d.collectors d.models d.runner d.environ = .ok inventory) :
    AgreesWithInventory d inventory := by
  obtain ⟨firmware, observed, hcollect, hfatal, hobserved, hsections, hfirmware, hstorage,
    hnetwork⟩ := mainInventory_eq_ok h
  obtain ⟨-, hstrayStorage, hstrayNetwork⟩ := fatalErrors_main_eq_nil_iff.mp hfatal
  obtain ⟨hfirmware', hstorage', hnetwork'⟩ := discovered_eq_ok hobserved
  rw [hfirmware] at hfirmware'
  rw [hstorage] at hstorage'
  rw [hnetwork] at hnetwork'
  obtain ⟨hesp, husb, htooling⟩ := collectSections_eq_ok hsections
  have hmachine {check : Except InventoryError CheckResult} {result : CheckResult}
      (h : check = .ok result) : d.onMachine check = .ok result := mapError_eq_ok_iff.mpr h
  exact {
    firmware := by
      refine hmachine ?_
      rw [Diagnosis.checkFirmware, hcollect, hfirmware', uefi_withSecureBoot]
      rfl
    secureBoot := by
      obtain ⟨result, hresult, hagrees⟩ := secureBootAgrees hcollect
      rw [hfirmware']
      exact ⟨result, hmachine hresult, hagrees⟩
    esp := by
      refine hmachine ?_
      rw [Diagnosis.checkEsp, hesp]
      simp [Except.map, espCheck]
    storage := ⟨_, hmachine (checkStorage_eq hstrayStorage hstorage'), name_storageCheck _,
      storageAgrees_storageCheck _⟩
    usbStorage := by
      refine hmachine ?_
      rw [Diagnosis.checkUsbStorage, husb]
      rfl
    network := ⟨_, hmachine (checkNetwork_eq hstrayNetwork hnetwork'), name_networkCheck _,
      networkAgrees_networkCheck _⟩
    tooling := by
      have hcheck : d.checkTooling = .ok (toolingCheck inventory.sections.tooling) := by
        rw [Diagnosis.checkTooling, htooling]
      have hresult : d.runCheck "tooling" = .ok (toolingCheck inventory.sections.tooling) :=
        hmachine hcheck
      rw [hresult, toolingCheck]
      simp [List.filter_eq_nil_iff] }

/-- The diagnosis of a machine with UEFI, a disk, a stick and interfaces, whose tools answer. -/
def teacherDiagnosis : Diagnosis where
  console := ⟨.ok, fun _ _ => .ok "", fun _ => .ok "", fun _ => .ok "", fun _ => .ok ""⟩
  machine := teacherMachine
  collectors := asciiCollectors
  models := printedRuntime
  runner := answeringRunner
  environ := []
  euid := some 0
  config := emptyDocumentRuntime
  host := hostWithFile []
  loader := { explicitPath := none, env := [], cwd := .ofString "/home" }
  describe _ := ""
  osErrorText := ""

/-- Its inventory has what the tools say, and the checks agree with it. -/
theorem agrees_with_inventory_teacher :
    ∃ inventory, teacherMachine.mainInventory asciiCollectors printedRuntime answeringRunner [] =
        .ok inventory ∧
      (inventory.firmware = { uefi := true, secureBoot := .enabled } ∧
        inventory.storage.map StorageDevice.name = ["sda"] ∧
        inventory.network.map NetworkInterface.name = ["lo", "enp1s0"] ∧
        inventory.sections.efiSystemPartition.mountPoint = some "/boot/efi" ∧
        inventory.sections.usbStorage.map UsbStorageDevice.name = ["sdb"] ∧
        inventory.sections.tooling.map ToolStatus.found = [false, false]) ∧
      AgreesWithInventory teacherDiagnosis inventory := by
  obtain ⟨inventory, h, hsections⟩ : ∃ inventory,
      teacherMachine.mainInventory asciiCollectors printedRuntime answeringRunner [] =
          .ok inventory ∧
        (inventory.firmware = { uefi := true, secureBoot := .enabled } ∧
          inventory.storage.map StorageDevice.name = ["sda"] ∧
          inventory.network.map NetworkInterface.name = ["lo", "enp1s0"] ∧
          inventory.sections.efiSystemPartition.mountPoint = some "/boot/efi" ∧
          inventory.sections.usbStorage.map UsbStorageDevice.name = ["sdb"] ∧
          inventory.sections.tooling.map ToolStatus.found = [false, false]) := by
    decide +kernel
  exact ⟨inventory, h, hsections, agrees_with_inventory (d := teacherDiagnosis) h⟩

end ClassroomSuite.Commands
