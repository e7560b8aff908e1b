import ClassroomSuite.Inventory.Collectors
import ClassroomSuite.Inventory.Doctor
import ClassroomSuite.Library.PurePath
import ClassroomSuite.Platform.Efi.Adapter
import ClassroomSuite.Platform.Filesystem.Adapter
import ClassroomSuite.Platform.SecureBoot.Adapter

/-!
# The collectors on a machine

What the collectors ask of the machine they run on: its directories, its small files, the names that
paths resolve to, and what the interpreter says of the platform. Each collector reads one aspect of
it. A file that cannot be read and a directory that is not there give an unknown value; what is no
UTF-8, a directory that cannot be looked up or listed and digits that are no number raise an
exception.

Source: `cli/src/bcs/inventory/collectors.py`, `cli/src/bcs/inventory/models.py`,
`cli/src/bcs/inventory/service.py`, the adapters of `main` in `cli/src/bcs/app.py`.

## Main definitions

* `Machine`, `Instant`, `CollectorRuntime`, `InventoryError`.
* `MemoryInfo`, `CpuInfo`, `OperatingSystemInfo`, `HostIdentity`, `UsbStorageDevice`, `ToolStatus`.
* The collectors, in the order of the source.
* `Machine.collectHostInventory`, `Machine.mainInventory`.
-/

namespace ClassroomSuite.Inventory

open Python Library Platform

/-! ### The machine -/

/-- A point in time, in microseconds of the epoch, between the years 1 and 9999. -/
structure Instant where
  microseconds : ℤ
  year_one_le : -62135596800000000 ≤ microseconds
  lt_year_ten_thousand : microseconds < 253402300800000000
  deriving DecidableEq, Repr

/-- What the collectors ask of the machine. A file that cannot be read is given by no bytes. -/
structure Machine where
  directory : String → Directory
  readBytes : String → Option (List UInt8)
  realpath : String → Option String
  statvfs : Option (String → Option Statvfs)
  which : String → Option String
  system : String
  version : String
  release : String
  machine : String
  cpuCount : Option ℕ
  now : Instant

/-- What the collectors ask of texts: besides the methods and the numerals, the characters that
`str.isdigit` takes for digits, which are more than those of numbers. -/
structure CollectorRuntime where
  text : TextRuntime
  numerals : Numerals
  isDigit : Char → Bool
  isDigit_of_value : ∀ c, (numerals.value c).isSome = true → isDigit c = true
  isDigit_ascii : ∀ c, c.toNat < 128 → isDigit c = c.isDigit

/-- Texts and digits of plain ASCII. -/
def asciiCollectors : CollectorRuntime where
  text := asciiText
  numerals := asciiNumerals
  isDigit := Char.isDigit
  isDigit_of_value c h := by
    by_contra hdigit
    simp [asciiNumerals, hdigit] at h
  isDigit_ascii _ _ := rfl

/-- What passes through the collectors and the discovery. -/
inductive InventoryError where
  | raised (e : Raised)
  | osError

/-- The exception of a text that is no UTF-8, which is a value error. -/
def undecodable : PyError := .valueError "'utf-8' codec can't decode bytes: invalid start byte"

/-- What passes through a collector, as it passes through the discovery. -/
def ofCollector : CollectorError → InventoryError
  | .unicodeDecodeError => .raised (.python undecodable)
  | .osError => .osError

/-- An exception of the interpreter. -/
def liftPy {α : Type} : Except PyError α → Except InventoryError α
  | .ok a => .ok a
  | .error e => .error (.raised (.python e))

/-- An exception of a discovery. -/
def liftRaised {α : Type} : Except Raised α → Except InventoryError α
  | .ok a => .ok a
  | .error e => .error (.raised e)

namespace Machine

variable (m : Machine)

/-- Whether there is such a directory. -/
def isDir (path : String) : Except InventoryError Bool :=
  (m.directory path).isDir.mapError ofCollector

/-- The text of a small file, without the white space around it (`_read_text`). -/
def readText (path : String) : Except PyError (Option (List Char)) :=
  (Inventory.readText (m.readBytes path)).mapError fun _ => undecodable

/-- The names in a directory, sorted, if there is such a directory. -/
def entries (path : String) : Except InventoryError (Option (List String)) :=
  match m.directory path with
  | .absent => .ok none
  | .unknown | .denied => .error .osError
  | .listed names => .ok (some (sortedTexts names))

/-- What the collector of the EFI system partition asks. -/
def host : Host where
  procMounts := m.readBytes "/proc/mounts"
  byUuid := m.directory "/dev/disk/by-uuid"
  realpath := m.realpath
  statvfs := m.statvfs

end Machine

/-! ### Models -/

/-- A storage device on the USB bus. -/
structure UsbStorageDevice where
  name : String
  path : String
  vendor : Option String := none
  model : Option String := none
  sizeBytes : Option ℕ := none
  mounted : Bool
  mountPoint : Option String := none
  deriving DecidableEq, Repr

/-- The operating system. -/
structure OperatingSystemInfo where
  name : String
  version : Option String := none
  kernel : Option String := none
  architecture : String
  deriving DecidableEq, Repr

/-- The memory, in bytes. -/
structure MemoryInfo where
  totalBytes : Option ℕ := none
  availableBytes : Option ℕ := none
  deriving DecidableEq, Repr

/-- The processor. -/
structure CpuInfo where
  architecture : String
  model : Option String := none
  logicalCores : Option ℕ := none
  deriving DecidableEq, Repr

/-- Whether a tool is found, and where. -/
structure ToolStatus where
  name : String
  found : Bool
  path : Option String := none
  deriving DecidableEq, Repr

/-- What a machine is recognised by. -/
structure HostIdentity where
  primaryMacAddress : Option String := none
  dmiProductUuid : Option String := none
  deriving DecidableEq, Repr

/-- The sections of an inventory that are always those of their collectors, and its time. -/
structure Sections where
  collectedAt : Instant
  identity : HostIdentity
  operatingSystem : OperatingSystemInfo
  efiSystemPartition : EfiSystemPartition
  usbStorage : List UsbStorageDevice := []
  tooling : List ToolStatus := []
  deriving DecidableEq, Repr

/-- The types of a machine. There is no adapter for the TPM. -/
abbrev machineTypes : HostTypes where
  FirmwareBoot := Efi.FirmwareBootConfiguration
  Filesystem := Filesystem.FilesystemUsageReport
  Cpu := CpuInfo
  Memory := MemoryInfo
  Tpm := Unit
  Sections := Sections

/-! ### The collectors -/

/-- External tools that are looked for (`EXPECTED_TOOLS`). -/
def expectedTools : List String := ["clonezilla", "partclone"]

/-- `_NULL_MAC`. -/
def nullMac : String := "00:00:00:00:00:00"

/-- The glob pattern `nvme[0-9]n[0-9]`. -/
def isNvmeName : List Char → Bool
  | ['n', 'v', 'm', 'e', controller, 'n', namespaceId] => controller.isDigit && namespaceId.isDigit
  | _ => false

/-- Whether a text begins with another. -/
def beginsWith (word cs : List Char) : Bool := word.isPrefixOf cs

section Texts

variable (rt : CollectorRuntime)

/-- Whether a text consists of characters that count as digits (`str.isdigit`). -/
def isDigits (cs : List Char) : Bool := !cs.isEmpty && cs.all rt.isDigit

/-- The number that a text of digits is converted to (`int`). -/
def toInt (cs : List Char) : Except PyError ℕ :=
  if rt.numerals.isNumber cs then rt.numerals.int cs
  else .error (.valueError ("invalid literal for int() with base 10: " ++
    rt.text.repr (String.ofList cs)))

/-- The number that a text writes, in units of `unit`, if it consists of digits. -/
def sizeOfText (unit : ℕ) (cs : List Char) : Except PyError (Option ℕ) :=
  if isDigits rt cs then (toInt rt cs).map fun n => some (n * unit) else .ok none

/-- A text, or nothing if it is empty. -/
def orNone (cs : List Char) : Option String := if cs = [] then none else some (String.ofList cs)

/-- What a line says of the name of the system, without white space and quotes around it. -/
def prettyNameIn (line : List Char) : Option (Option String) :=
  (line.dropPrefix? "PRETTY_NAME=".toList).map fun value =>
    orNone (strip (· = '"') (strip isSpace value))

/-- The second word of a line, in kilobytes. -/
def parseMeminfoKbLine (line : List Char) : Except PyError (Option ℕ) :=
  match words isSpace line with
  | _ :: number :: _ => sizeOfText rt 1024 number
  | _ => .ok none

/-- What a line says of the memory. -/
def meminfoLine (info : MemoryInfo) (line : List Char) : Except PyError MemoryInfo :=
  if beginsWith "MemTotal:".toList line then
    (parseMeminfoKbLine rt line).map fun totalBytes => { info with totalBytes }
  else if beginsWith "MemAvailable:".toList line then
    (parseMeminfoKbLine rt line).map fun availableBytes => { info with availableBytes }
  else .ok info

/-- What a line says of the processor: the text behind its first colon. -/
def cpuModelIn (line : List Char) : Option (Option String) :=
  if beginsWith "model name".toList (rt.text.lower (String.ofList line)).toList then
    some (orNone (strip isSpace ((line.dropWhile (· ≠ ':')).drop 1)))
  else none

end Texts

namespace Machine

variable (rt : CollectorRuntime) (m : Machine)

/-- The state of Secure Boot, of which the variables of the firmware only say that there are any
(`_read_secure_boot_state`). -/
def readSecureBootState : Except InventoryError SecureBootState := do
  if ← m.isDir "/sys/firmware/efi/efivars" then return .unknown else return .unknown

/-- `collect_firmware`. -/
def collectFirmware : Except InventoryError FirmwareInfo := do
  if ← m.isDir "/sys/firmware/efi" then
    let secureBoot ← m.readSecureBootState
    return { uefi := true, secureBoot }
  else return { uefi := false, secureBoot := .unsupported }

/-- `collect_storage`. In a directory that cannot be listed no entry matches the pattern. -/
def collectStorage : Except InventoryError (List StorageDevice) :=
  match m.directory "/dev" with
  | .absent | .denied => .ok []
  | .unknown => .error .osError
  | .listed listing =>
    let names := sortedTexts (listing.filter fun name => isNvmeName name.toList)
    .ok (names.map fun name => { name, path := "/dev/" ++ name, isNvme := true })

/-- The collector of the EFI system partition, on the machine. -/
def collectEfiSystemPartition : Except InventoryError EfiSystemPartition :=
  (Inventory.collectEfiSystemPartition rt.numerals m.host).mapError ofCollector

/-- Whether a block device is removable and attached by USB. -/
def isUsbRemovable (name : String) : Except PyError Bool := do
  let removable ← m.readText ("/sys/block/" ++ name ++ "/removable")
  if removable = some ['1'] then
    match m.realpath ("/sys/block/" ++ name) with
    | none => return false
    | some path =>
      return (PurePath.ofString path).parts.any fun part => beginsWith "usb".toList part.toList
  else return false

/-- The mount point of a disk or of one of its partitions. -/
def findMountedPartition (diskName : String) : Except PyError (Option String) :=
  (Inventory.findMountedPartition (m.readBytes "/proc/mounts") diskName).mapError
    fun _ => undecodable

/-- `_read_usb_storage_device`. -/
def readUsbStorageDevice (name : String) : Except PyError UsbStorageDevice := do
  let sizeText ← m.readText ("/sys/block/" ++ name ++ "/size")
  let sizeBytes ← sizeOfText rt 512 (sizeText.getD [])
  let mountPoint ← m.findMountedPartition name
  let vendor ← m.readText ("/sys/block/" ++ name ++ "/device/vendor")
  let model ← m.readText ("/sys/block/" ++ name ++ "/device/model")
  return {
    name
    path := "/dev/" ++ name
    vendor := vendor.map String.ofList
    model := model.map String.ofList
    sizeBytes
    mounted := mountPoint.isSome
    mountPoint }

/-- The device of one entry, if it is removable and attached by USB. -/
def usbEntry (name : String) : Except PyError (Option UsbStorageDevice) := do
  if ← m.isUsbRemovable name then
    let device ← m.readUsbStorageDevice rt name
    return some device
  else return none

/-- `collect_usb_storage`. -/
def collectUsbStorage : Except InventoryError (List UsbStorageDevice) := do
  match ← m.entries "/sys/block" with
  | none => return []
  | some names =>
    let devices ← liftPy (names.mapM (m.usbEntry rt))
    return devices.reduceOption

/-- The interface of one entry. -/
def interfaceEntry (name : String) : Except PyError NetworkInterface := do
  let operstate ← m.readText ("/sys/class/net/" ++ name ++ "/operstate")
  let address ← m.readText ("/sys/class/net/" ++ name ++ "/address")
  return {
    name
    macAddress := address.map String.ofList
    ipAddresses := []
    isUp := decide (operstate = some ['u', 'p'])
    isLoopback := decide (name = "lo") }

/-- `collect_network`. -/
def collectNetwork : Except InventoryError (List NetworkInterface) := do
  match ← m.entries "/sys/class/net" with
  | none => return []
  | some names => liftPy (names.mapM m.interfaceEntry)

/-- The first hardware address of an interface that is not the loopback one. -/
def firstMac : List String → Except PyError (Option String)
  | [] => .ok none
  | name :: names =>
    if name = "lo" then firstMac names
    else do
      match ← m.readText ("/sys/class/net/" ++ name ++ "/address") with
      | some mac =>
        if rt.text.lower (String.ofList mac) ≠ nullMac then return some (String.ofList mac)
        else firstMac names
      | none => firstMac names

/-- `_primary_mac_address`. -/
def primaryMacAddress : Except InventoryError (Option String) := do
  match ← m.entries "/sys/class/net" with
  | none => return none
  | some names => liftPy (m.firstMac rt names)

/-- `collect_identity`. -/
def collectIdentity : Except InventoryError HostIdentity := do
  let primaryMacAddress ← m.primaryMacAddress rt
  let dmiProductUuid ← liftPy (m.readText "/sys/class/dmi/id/product_uuid")
  return { primaryMacAddress, dmiProductUuid := dmiProductUuid.map String.ofList }

/-- `_read_os_release_pretty_name`. -/
def readOsReleasePrettyName : Except PyError (Option String) := do
  match ← m.readText "/etc/os-release" with
  | none => return none
  | some text => return ((splitLines text).findSome? prettyNameIn).join

/-- `collect_operating_system`. -/
def collectOperatingSystem : Except PyError OperatingSystemInfo := do
  let prettyName ← m.readOsReleasePrettyName
  return {
    name := prettyName.getD (if m.system = "" then "unknown" else m.system)
    version := orNone m.version.toList
    kernel := orNone m.release.toList
    architecture := if m.machine = "" then "unknown" else m.machine }

/-- `collect_memory`. -/
def collectMemory : Except PyError MemoryInfo := do
  match ← m.readText "/proc/meminfo" with
  | none => return {}
  | some text => (splitLines text).foldlM (meminfoLine rt) {}

/-- `_read_cpu_model`. -/
def readCpuModel : Except PyError (Option String) := do
  match ← m.readText "/proc/cpuinfo" with
  | none => return none
  | some text => return ((splitLines text).findSome? (cpuModelIn rt)).join

/-- `collect_cpu`. -/
def collectCpu : Except PyError CpuInfo := do
  let model ← m.readCpuModel rt
  return {
    architecture := if m.machine = "" then "unknown" else m.machine
    model
    logicalCores := m.cpuCount }

/-- `collect_tooling`. -/
def collectTooling : List ToolStatus :=
  expectedTools.map fun name =>
    { name, found := (m.which name).isSome, path := m.which name }

/-! ### The service -/

/-- The sections that an orchestrator may supply. -/
structure Observed where
  firmware : FirmwareInfo
  cpu : CpuInfo
  memory : MemoryInfo
  storage : List StorageDevice
  network : List NetworkInterface

/-- A value that was observed, or what a collector finds. -/
def orCollect {α : Type} (observed : Option α) (collect : Except InventoryError α) :
    Except InventoryError α :=
  match observed with
  | some a => .ok a
  | none => collect

/-- The sections without an orchestrator. -/
def collected (firmware : FirmwareInfo) : Except InventoryError Observed := do
  let cpu ← liftPy (m.collectCpu rt)
  let memory ← liftPy (m.collectMemory rt)
  let network ← m.collectNetwork
  let storage ← m.collectStorage
  return { firmware, cpu, memory, storage, network }

/-- The sections with a discovery, from collectors where it has nothing. -/
def discovered (firmware : FirmwareInfo)
    (snapshot : HostDiscoverySnapshot machineTypes.discovery) :
    Except InventoryError Observed := do
  let cpu ← orCollect snapshot.cpu (liftPy (m.collectCpu rt))
  let memory ← orCollect snapshot.memory (liftPy (m.collectMemory rt))
  let storage ← orCollect (snapshot.storageTopology.map translateStorageDevices) m.collectStorage
  let network ← orCollect (snapshot.network.map translateNetworkInterfaces) m.collectNetwork
  let firmware := match snapshot.secureBoot with
    | some status => { firmware with secureBoot := translateSecureBootState status }
    | none => firmware
  return { firmware, cpu, memory, storage, network }

/-- The sections that an orchestrator may supply, with or without one. -/
def observed (firmware : FirmwareInfo)
    (orchestrator : Option (HostDiscoveryAdapters machineTypes.discovery)) :
    Except InventoryError Observed :=
  match orchestrator with
  | none => m.collected rt firmware
  | some adapters => liftRaised (discover adapters) >>= m.discovered rt firmware

/-- The sections that are always those of their collectors. -/
def collectSections : Except InventoryError Sections := do
  let identity ← m.collectIdentity rt
  let operatingSystem ← liftPy m.collectOperatingSystem
  let efiSystemPartition ← m.collectEfiSystemPartition rt
  let usbStorage ← m.collectUsbStorage rt
  return {
    collectedAt := m.now
    identity
    operatingSystem
    efiSystemPartition
    usbStorage
    tooling := m.collectTooling }

/-- `collect_host_inventory`. -/
def collectHostInventory (orchestrator : Option (HostDiscoveryAdapters machineTypes.discovery)) :
    Except InventoryError (HostInventory machineTypes) := do
  let firmware ← m.collectFirmware
  let observed ← m.observed rt firmware orchestrator
  let sections ← m.collectSections rt
  return {
    firmware := observed.firmware
    cpu := observed.cpu
    memory := observed.memory
    storage := observed.storage
    network := observed.network
    sections }

/-- What the slots of the program other than storage and network do. -/
def slots (models : ModelRuntime) (runner : CommandRunner) (environ : List (String × String)) :
    OtherSlots machineTypes where
  efi := Efi.readFirmwareBootConfiguration models rt.numerals runner environ
  secureBoot := SecureBoot.readSecureBootStatus models.text runner environ
  filesystem := Filesystem.readFilesystemUsage models.text rt.numerals runner environ
  cpu := (m.collectCpu rt).mapError .python
  memory := (m.collectMemory rt).mapError .python

/-- The inventory of the program (`run_inventory` with the orchestrator of `main`). -/
def mainInventory (models : ModelRuntime) (runner : CommandRunner)
    (environ : List (String × String)) : Except InventoryError (HostInventory machineTypes) :=
  m.collectHostInventory rt (some (mainAdapters models runner environ (m.slots rt models runner
    environ)))

end Machine

end ClassroomSuite.Inventory
