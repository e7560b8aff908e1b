import ClassroomSuite.Inventory.Discovery
import ClassroomSuite.Platform.SecureBoot.Models

/-!
# The host inventory

The inventory is taken from the collectors of the host. With an orchestrator, what its adapters
returned is translated and takes the place of what the collectors say; where an adapter is missing
or failed, the collector is asked after all.

Source: `cli/src/bcs/inventory/models.py`, `cli/src/bcs/inventory/service.py`,
`collect_firmware` of `cli/src/bcs/inventory/collectors.py`.

## Main definitions

* `HostInventory` and its parts, `HostFacts`: what the collectors find.
* `translateStorageDevices`, `translateNetworkInterfaces`, `translateSecureBootState`.
* `collectFirmware`, `collectHostInventory`.

## Main results

* `collectHostInventory_some_eq_ok_iff`: the inventory in terms of what the adapters returned.
-/

namespace ClassroomSuite.Inventory

open Library Platform

/-! ### Models -/

/-- The state of Secure Boot, as the inventory has it. -/
inductive SecureBootState where
  | enabled
  | disabled
  | unsupported
  | unknown
  deriving DecidableEq, Repr

/-- The text of a state. -/
def SecureBootState.value : SecureBootState → String
  | enabled => "enabled"
  | disabled => "disabled"
  | unsupported => "unsupported"
  | unknown => "unknown"

/-- What is known of the firmware. -/
structure FirmwareInfo where
  uefi : Bool
  secureBoot : SecureBootState
  vendor : Option String := none
  version : Option String := none
  deriving DecidableEq, Repr

/-- A storage device. -/
structure StorageDevice where
  name : String
  path : String
  isNvme : Bool
  sizeBytes : Option ℤ := none
  model : Option String := none
  deriving DecidableEq, Repr

/-- A network interface. -/
structure NetworkInterface where
  name : String
  macAddress : Option String := none
  ipAddresses : List String := []
  isUp : Bool
  isLoopback : Bool
  deriving DecidableEq, Repr

/-- The types of what the program only passes on: what some adapters return, and the sections of
the inventory that are always those of their collectors. -/
structure HostTypes where
  FirmwareBoot : Type
  Filesystem : Type
  Cpu : Type
  Memory : Type
  Tpm : Type
  Sections : Type

/-- The types of what the adapters of a host return. -/
abbrev HostTypes.discovery (H : HostTypes) : DiscoveryTypes where
  FirmwareBoot := H.FirmwareBoot
  SecureBoot := SecureBoot.SecureBootStatus
  Filesystem := H.Filesystem
  Cpu := H.Cpu
  Memory := H.Memory
  Tpm := H.Tpm

variable {H : HostTypes}

/-- The inventory of a host. -/
structure HostInventory (H : HostTypes) where
  firmware : FirmwareInfo
  cpu : H.Cpu
  memory : H.Memory
  storage : List StorageDevice
  network : List NetworkInterface
  sections : H.Sections

/-! ### Collectors -/

/-- What the collectors find on a host; of the firmware, whether the directories of the EFI and of
its variables are there. -/
structure HostFacts (H : HostTypes) where
  efiDirectory : Bool
  efivarsDirectory : Bool
  cpu : H.Cpu
  memory : H.Memory
  storage : List StorageDevice
  network : List NetworkInterface
  sections : H.Sections

/-- The state of Secure Boot on a UEFI system, which the variables do not tell. -/
def readSecureBootState (facts : HostFacts H) : SecureBootState :=
  if facts.efivarsDirectory then .unknown else .unknown

/-- `collect_firmware`, on facts. -/
def collectFirmware (facts : HostFacts H) : FirmwareInfo :=
  if facts.efiDirectory then { uefi := true, secureBoot := readSecureBootState facts }
  else { uefi := false, secureBoot := .unsupported }

/-! ### The service -/

/-- The whole disks, with the fields the inventory has. -/
def translateStorageDevices (config : Storage.StorageConfiguration) : List StorageDevice :=
  (config.devices.filter fun device => device.deviceType = "disk").map fun device => {
    name := device.name
    path := device.path
    isNvme := device.isNvme
    sizeBytes := device.sizeBytes.map Int.ofNat
    model := device.model }

/-- `_translate_network_interfaces`. -/
def translateNetworkInterfaces (status : Network.NetworkInterfaceStatus) : List NetworkInterface :=
  status.interfaces.map fun iface => {
    name := iface.name
    macAddress := iface.macAddress
    ipAddresses := iface.ipAddresses
    isUp := iface.isUp
    isLoopback := iface.isLoopback }

/-- The state with the same text. -/
def translateSecureBootState (status : SecureBoot.SecureBootStatus) : SecureBootState :=
  match status.state with
  | .enabled => .enabled
  | .disabled => .disabled
  | .unsupported => .unsupported
  | .unknown => .unknown

theorem value_translateSecureBootState (status : SecureBoot.SecureBootStatus) :
    (translateSecureBootState status).value = status.state.value := by
  unfold translateSecureBootState
  cases status.state <;> rfl

theorem translateSecureBootState_eq_unsupported_iff (status : SecureBoot.SecureBootStatus) :
    translateSecureBootState status = .unsupported ↔ status.state = .unsupported := by
  unfold translateSecureBootState
  cases status.state <;> simp

/-- The inventory where there is no orchestrator. -/
def collectedInventory (facts : HostFacts H) : HostInventory H where
  firmware := collectFirmware facts
  cpu := facts.cpu
  memory := facts.memory
  storage := facts.storage
  network := facts.network
  sections := facts.sections

/-- The inventory with what a discovery returned. -/
def discoveredInventory (facts : HostFacts H) (snapshot : HostDiscoverySnapshot H.discovery) :
    HostInventory H where
  firmware := match snapshot.secureBoot with
    | some status =>
      { collectFirmware facts with secureBoot := translateSecureBootState status }
    | none => collectFirmware facts
  cpu := snapshot.cpu.getD facts.cpu
  memory := snapshot.memory.getD facts.memory
  storage := match snapshot.storageTopology with
    | some topology => translateStorageDevices topology
    | none => facts.storage
  network := match snapshot.network with
    | some status => translateNetworkInterfaces status
    | none => facts.network
  sections := facts.sections

/-- `collect_host_inventory`, on facts. -/
def collectHostInventory (facts : HostFacts H)
    (orchestrator : Option (HostDiscoveryAdapters H.discovery)) :
    Except Raised (HostInventory H) :=
  match orchestrator with
  | none => .ok (collectedInventory facts)
  | some adapters => (discover adapters).map (discoveredInventory facts)

/-- With an orchestrator, the inventory is collected if no exception ends the discovery. -/
theorem collectHostInventory_some_eq_ok_iff {facts : HostFacts H}
    {adapters : HostDiscoveryAdapters H.discovery} {inventory : HostInventory H} :
    collectHostInventory facts (some adapters) = .ok inventory ↔
      fatalErrors adapters = [] ∧ inventory = discoveredInventory facts (snapshot adapters) := by
  rw [collectHostInventory, discover_eq]
  cases fatalErrors adapters <;> simp [Except.map, eq_comm]

end ClassroomSuite.Inventory
