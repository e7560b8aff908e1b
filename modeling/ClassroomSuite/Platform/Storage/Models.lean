import ClassroomSuite.Python.Validation

/-!
# The storage topology

The devices, partitions and mounts of a machine. What the models check of a field is in its type
or is a field of the structure: a partition number is positive, sizes are natural numbers, the
partitions of a device have distinct numbers and the devices distinct paths. `make` constructs a
model from unchecked values.

Source: `cli/src/bcs/platform/adapters/storage/models.py`.

## Main definitions

* `FilesystemInfo`, `Partition`, `BlockDevice`, `MountEntry`, `StorageConfiguration`.
-/

namespace ClassroomSuite.Platform.Storage

open Python Library

/-- The filesystem of a partition. -/
structure FilesystemInfo where
  fsType : Option String := none
  uuid : Option String := none
  label : Option String := none
  mountOptions : Option String := none
  mountPoint : Option String := none
  deriving DecidableEq, Repr

/-- A partition of a block device. -/
structure Partition where
  name : String
  path : String
  number : ℕ+
  sizeBytes : Option ℕ := none
  partuuid : Option String := none
  parttype : Option String := none
  filesystem : Option FilesystemInfo := none
  mountPoint : Option String := none
  deriving DecidableEq

/-- A whole block device. -/
structure BlockDevice where
  name : String
  path : String
  deviceType : String
  sizeBytes : Option ℕ := none
  isRemovable : Bool
  isReadOnly : Bool
  isNvme : Bool
  model : Option String := none
  vendor : Option String := none
  serial : Option String := none
  partitions : List Partition := []
  mountPoint : Option String := none
  numbers_nodup : (partitions.map Partition.number).Nodup

/-- A mount point. -/
structure MountEntry where
  source : String
  target : String
  fstype : String
  options : String
  parent : Option String := none
  deriving DecidableEq, Repr

/-- Everything known of the storage. -/
structure StorageConfiguration where
  devices : List BlockDevice := []
  mounts : List MountEntry := []
  paths_nodup : (devices.map BlockDevice.path).Nodup

/-! ### Construction -/

variable (rt : ModelRuntime)

/-- Validate what is known of a filesystem. -/
def FilesystemInfo.make (fsType uuid label : Option String) : Except PyError FilesystemInfo :=
  construct rt "FilesystemInfo" do
    let (fsType, uuid, label) ← (optionalTextField rt "fsType" (optionalText fsType)).both <|
      (optionalTextField rt "uuid" (optionalText uuid)).both <|
      optionalTextField rt "label" (optionalText label)
    return { fsType, uuid, label }

/-- Validate a partition. -/
def Partition.make (name path : String) (number : ℤ) (sizeBytes : Json)
    (mountPoint : Option String) : Except PyError Partition :=
  construct rt "Partition" do
    let (name, path, number, sizeBytes, mountPoint) ← (textField rt "name" name).both <|
      (textField rt "path" path).both <| (positiveField "number" number).both <|
      (sizeField rt "sizeBytes" sizeBytes).both <|
      optionalTextField rt "mountPoint" (optionalText mountPoint)
    return { name, path, number, sizeBytes, mountPoint }

/-- Validate a device. -/
def BlockDevice.make (name path deviceType : String) (sizeBytes : Json)
    (isRemovable isReadOnly isNvme : Bool) (model vendor serial : Json)
    (partitions : List Partition) (mountPoint : Option String) : Except PyError BlockDevice :=
  construct rt "BlockDevice" do
    let (name, path, deviceType, sizeBytes, model, vendor, serial, mountPoint) ←
      (textField rt "name" name).both <| (textField rt "path" path).both <|
      (textField rt "deviceType" deviceType).both <| (sizeField rt "sizeBytes" sizeBytes).both <|
      (optionalTextField rt "model" model).both <| (optionalTextField rt "vendor" vendor).both <|
      (optionalTextField rt "serial" serial).both <|
      optionalTextField rt "mountPoint" (optionalText mountPoint)
    if h : (partitions.map Partition.number).Nodup then
      return {
        name, path, deviceType, sizeBytes, isRemovable, isReadOnly, isNvme, model, vendor, serial
        partitions, mountPoint
        numbers_nodup := h }
    else throw [⟨"", .invalid "partitions must not contain duplicate number values"⟩]

/-- Validate a mount. -/
def MountEntry.make (source target fstype options : String) (parent : Option String) :
    Except PyError MountEntry :=
  construct rt "MountEntry" do
    let (source, target, fstype, options, parent) ← (textField rt "source" source).both <|
      (textField rt "target" target).both <| (textField rt "fstype" fstype).both <|
      (textField rt "options" options).both <|
      optionalTextField rt "parent" (optionalText parent)
    return { source, target, fstype, options, parent }

/-- Validate a topology. -/
def StorageConfiguration.make (devices : List BlockDevice) (mounts : List MountEntry) :
    Except PyError StorageConfiguration :=
  construct rt "StorageConfiguration" do
    if h : (devices.map BlockDevice.path).Nodup then
      return { devices, mounts, paths_nodup := h }
    else throw [⟨"", .invalid "devices must not contain duplicate path values"⟩]

end ClassroomSuite.Platform.Storage
