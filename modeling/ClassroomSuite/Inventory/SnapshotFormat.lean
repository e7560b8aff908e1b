import ClassroomSuite.Inventory.Machine
import ClassroomSuite.Python.Codec

/-!
# The format of an inventory

The models of an inventory, by the declarations of their fields: for each field its name, its alias
if it has one, the codec of its type, and what it is without one. The root model carries the version
of the format and is extensible; all others are closed.

Source: `cli/src/bcs/inventory/models.py`, `cli/src/bcs/model_utils.py`.

## Main definitions

* `SnapshotFormat.hostInventory` and the models of its parts.

## Main results

* `SnapshotFormat.read_of_perm`: an inventory is read from its fields in any order.
-/

namespace ClassroomSuite.Inventory.SnapshotFormat

open Python RecordCodec

/-! ### Fields -/

/-- `str | None`, with the default `None`. -/
def textOrNone (name : String) (aliasName : Option String := none) :
    RecordCodec (Option String) :=
  field (Codec.str.nullable fun _ => rfl) name aliasName (some none)

/-- `int | None`, with the default `None`, of a number that is not negative. -/
def natOrNone (name : String) (aliasName : Option String := none) : RecordCodec (Option ℕ) :=
  field (Codec.nat.nullable fun _ => rfl) name aliasName (some none)

/-- `int | None`, with the default `None`. -/
def intOrNone (name : String) (aliasName : Option String := none) : RecordCodec (Option ℤ) :=
  field (Codec.int.nullable fun _ => rfl) name aliasName (some none)

/-- A list of models, with the empty list as default. -/
def listOf {α : Type} (model : RecordCodec α) (name : String) (aliasName : Option String := none) :
    RecordCodec (List α) :=
  field model.closed.list name aliasName (some [])

/-! ### Models -/

/-- `SecureBootState`. -/
def secureBootState : Codec SecureBootState :=
  .texts SecureBootState.value [.enabled, .disabled, .unsupported, .unknown] fun state => by
    cases state <;> rfl

/-- `FirmwareInfo`. -/
def firmwareInfo : RecordCodec FirmwareInfo :=
  ((field .bool "uefi").and <| (field secureBootState "secure_boot" (some "secureBoot")).and <|
    (textOrNone "vendor").and (textOrNone "version")).map
  { toFun v := ⟨v.1, v.2.1, v.2.2.1, v.2.2.2⟩
    invFun info := (info.uefi, info.secureBoot, info.vendor, info.version)
    left_inv _ := rfl
    right_inv _ := rfl }

/-- `EfiSystemPartition`. -/
def efiSystemPartition : RecordCodec EfiSystemPartition :=
  ((field .bool "present").and <| (textOrNone "device").and <| (textOrNone "partition").and <|
    (textOrNone "uuid").and <| (textOrNone "filesystem").and <|
    (textOrNone "mount_point" (some "mountPoint")).and <|
    (natOrNone "size_bytes" (some "sizeBytes")).and <|
    (natOrNone "free_bytes" (some "freeBytes")).and (field .bool "mounted")).map
  { toFun v := {
      present := v.1
      device := v.2.1
      partition := v.2.2.1
      uuid := v.2.2.2.1
      filesystem := v.2.2.2.2.1
      mountPoint := v.2.2.2.2.2.1
      sizeBytes := v.2.2.2.2.2.2.1
      freeBytes := v.2.2.2.2.2.2.2.1
      mounted := v.2.2.2.2.2.2.2.2 }
    invFun esp := (esp.present, esp.device, esp.partition, esp.uuid, esp.filesystem,
      esp.mountPoint, esp.sizeBytes, esp.freeBytes, esp.mounted)
    left_inv _ := rfl
    right_inv _ := rfl }

/-- `StorageDevice`. -/
def storageDevice : RecordCodec StorageDevice :=
  ((field .str "name").and <| (field .str "path").and <| (field .bool "is_nvme" (some "isNvme")).and
    <| (intOrNone "size_bytes" (some "sizeBytes")).and (textOrNone "model")).map
  { toFun v := ⟨v.1, v.2.1, v.2.2.1, v.2.2.2.1, v.2.2.2.2⟩
    invFun device := (device.name, device.path, device.isNvme, device.sizeBytes, device.model)
    left_inv _ := rfl
    right_inv _ := rfl }

/-- `UsbStorageDevice`. -/
def usbStorageDevice : RecordCodec UsbStorageDevice :=
  ((field .str "name").and <| (field .str "path").and <| (textOrNone "vendor").and <|
    (textOrNone "model").and <| (natOrNone "size_bytes" (some "sizeBytes")).and <|
    (field .bool "mounted").and (textOrNone "mount_point" (some "mountPoint"))).map
  { toFun v := {
      name := v.1
      path := v.2.1
      vendor := v.2.2.1
      model := v.2.2.2.1
      sizeBytes := v.2.2.2.2.1
      mounted := v.2.2.2.2.2.1
      mountPoint := v.2.2.2.2.2.2 }
    invFun device := (device.name, device.path, device.vendor, device.model, device.sizeBytes,
      device.mounted, device.mountPoint)
    left_inv _ := rfl
    right_inv _ := rfl }

/-- `NetworkInterface`. -/
def networkInterface : RecordCodec NetworkInterface :=
  ((field .str "name").and <| (textOrNone "mac_address" (some "macAddress")).and <|
    (field Codec.str.list "ip_addresses" (some "ipAddresses") (some [])).and <|
    (field .bool "is_up" (some "isUp")).and (field .bool "is_loopback" (some "isLoopback"))).map
  { toFun v := ⟨v.1, v.2.1, v.2.2.1, v.2.2.2.1, v.2.2.2.2⟩
    invFun iface := (iface.name, iface.macAddress, iface.ipAddresses, iface.isUp, iface.isLoopback)
    left_inv _ := rfl
    right_inv _ := rfl }

/-- `OperatingSystemInfo`. -/
def operatingSystemInfo : RecordCodec OperatingSystemInfo :=
  ((field .str "name").and <| (textOrNone "version").and <| (textOrNone "kernel").and
    (field .str "architecture")).map
  { toFun v := ⟨v.1, v.2.1, v.2.2.1, v.2.2.2⟩
    invFun info := (info.name, info.version, info.kernel, info.architecture)
    left_inv _ := rfl
    right_inv _ := rfl }

/-- `MemoryInfo`. -/
def memoryInfo : RecordCodec MemoryInfo :=
  ((natOrNone "total_bytes" (some "totalBytes")).and
    (natOrNone "available_bytes" (some "availableBytes"))).map
  { toFun v := ⟨v.1, v.2⟩
    invFun info := (info.totalBytes, info.availableBytes)
    left_inv _ := rfl
    right_inv _ := rfl }

/-- `CpuInfo`. -/
def cpuInfo : RecordCodec CpuInfo :=
  ((field .str "architecture").and <| (textOrNone "model").and
    (natOrNone "logical_cores" (some "logicalCores"))).map
  { toFun v := ⟨v.1, v.2.1, v.2.2⟩
    invFun info := (info.architecture, info.model, info.logicalCores)
    left_inv _ := rfl
    right_inv _ := rfl }

/-- `ToolStatus`. -/
def toolStatus : RecordCodec ToolStatus :=
  ((field .str "name").and <| (field .bool "found").and (textOrNone "path")).map
  { toFun v := ⟨v.1, v.2.1, v.2.2⟩
    invFun tool := (tool.name, tool.found, tool.path)
    left_inv _ := rfl
    right_inv _ := rfl }

/-- `HostIdentity`. -/
def hostIdentity : RecordCodec HostIdentity :=
  ((textOrNone "primary_mac_address" (some "primaryMacAddress")).and
    (textOrNone "dmi_product_uuid" (some "dmiProductUuid"))).map
  { toFun v := ⟨v.1, v.2⟩
    invFun identity := (identity.primaryMacAddress, identity.dmiProductUuid)
    left_inv _ := rfl
    right_inv _ := rfl }

/-- `INVENTORY_SCHEMA_VERSION`. -/
def inventorySchemaVersion : String := "bcs-inventory/v1alpha1"

/-- The keys of the time. -/
def timeKeys : List String := ["collectedAt", "collected_at"]

/-- The fields of the root model behind the time. -/
def sectionFields : RecordCodec (HostIdentity × FirmwareInfo × OperatingSystemInfo × CpuInfo ×
    MemoryInfo × EfiSystemPartition × List StorageDevice × List UsbStorageDevice ×
    List NetworkInterface × List ToolStatus) :=
  (field hostIdentity.closed "identity").and <|
    (field firmwareInfo.closed "firmware").and <|
    (field operatingSystemInfo.closed "operating_system" (some "operatingSystem")).and <|
    (field cpuInfo.closed "cpu").and <|
    (field memoryInfo.closed "memory").and <|
    (field efiSystemPartition.closed "efi_system_partition" (some "efiSystemPartition")).and <|
    (listOf storageDevice "storage").and <|
    (listOf usbStorageDevice "usb_storage" (some "usbStorage")).and <|
    (listOf networkInterface "network").and (listOf toolStatus "tooling")

theorem timeKeys_disjoint : ∀ key ∈ timeKeys, key ∉ sectionFields.keys := by
  decide +kernel

theorem versionKeys_disjoint :
    ∀ key ∈ ["schemaVersion", "schema_version"], key ∉ timeKeys ++ sectionFields.keys := by
  decide +kernel

/-- The fields of the root model, of which the version of the format is always the same. How a point
in time is written is a parameter. -/
def rootFields (instants : Codec Instant) : RecordCodec (HostInventory machineTypes) :=
  ((field (.literal inventorySchemaVersion) "schema_version" (some "schemaVersion")
      (some ())).and ((field instants "collected_at" (some "collectedAt")).and sectionFields
        timeKeys_disjoint) versionKeys_disjoint).map
  { toFun v := {
      firmware := v.2.2.2.1
      cpu := v.2.2.2.2.2.1
      memory := v.2.2.2.2.2.2.1
      storage := v.2.2.2.2.2.2.2.2.1
      network := v.2.2.2.2.2.2.2.2.2.2.1
      sections := {
        collectedAt := v.2.1
        identity := v.2.2.1
        operatingSystem := v.2.2.2.2.1
        efiSystemPartition := v.2.2.2.2.2.2.2.1
        usbStorage := v.2.2.2.2.2.2.2.2.2.1
        tooling := v.2.2.2.2.2.2.2.2.2.2.2 } }
    invFun inventory := ((), inventory.sections.collectedAt, inventory.sections.identity,
      inventory.firmware, inventory.sections.operatingSystem, inventory.cpu, inventory.memory,
      inventory.sections.efiSystemPartition, inventory.storage, inventory.sections.usbStorage,
      inventory.network, inventory.sections.tooling)
    left_inv _ := rfl
    right_inv _ := rfl }

/-- The keys of the root model. -/
def rootKeys : List String :=
  ["schemaVersion", "schema_version"] ++ (timeKeys ++ sectionFields.keys)

theorem isExtensionKey_rootKeys : ∀ key ∈ rootKeys, isExtensionKey key = false := by
  decide +kernel

/-- The root model. -/
def hostInventory (instants : Codec Instant) : Codec (HostInventory machineTypes × Extension) :=
  (rootFields instants).extensible isExtensionKey_rootKeys

/-- No key is written twice. -/
theorem nodup_write (instants : Codec Instant) (inventory : HostInventory machineTypes) :
    (((rootFields instants).write inventory).map Prod.fst).Nodup := by
  change ["schemaVersion", "collectedAt", "identity", "firmware", "operatingSystem", "cpu",
    "memory", "efiSystemPartition", "storage", "usbStorage", "network", "tooling"].Nodup
  decide +kernel

/-- An inventory and what was added to it under keys of its own is read from what is written of it,
whatever the order of the fields. -/
theorem read_of_perm (instants : Codec Instant) (inventory : HostInventory machineTypes)
    {extra : Extension} (hextra : (extra.1.map Prod.fst).Nodup) {fields : Fields}
    (hperm : ((rootFields instants).write inventory ++ extra.1).Perm fields) : ∃ extra',
      (hostInventory instants).read (.obj fields) = some (inventory, extra') ∧
        extra.1.Perm extra'.1 := by
  refine extensible_read_of_perm ?_ hperm
  rw [List.map_append, List.nodup_append]
  refine ⟨nodup_write instants inventory, hextra, ?_⟩
  rintro key hkey key' hkey' rfl
  obtain ⟨field, hfield, rfl⟩ := List.mem_map.mp hkey
  obtain ⟨field', hfield', heq⟩ := List.mem_map.mp hkey'
  have hroot := isExtensionKey_rootKeys _ ((rootFields instants).keys_write inventory field hfield)
  rw [← heq, extra.2 field' hfield'] at hroot
  cases hroot

end ClassroomSuite.Inventory.SnapshotFormat
