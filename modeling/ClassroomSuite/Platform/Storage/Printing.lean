import ClassroomSuite.Platform.Storage.Merge

/-!
# What the tools print of a topology

A topology is spread over the outputs of three tools: `lsblk` lists the devices with their
partitions, `blkid` what identifies a partition and its filesystem, and `findmnt` the forest of the
mounts. Here a topology is written as these three outputs.

Not every topology can be written so. Its parts have to fit together: the path of a device follows
from its name, a filesystem is mounted where the last mount of its partition says, and two
partitions with one path are identified by the same entry. This is what it means to be consistent.

Source: `cli/src/bcs/platform/adapters/storage/parser.py`,
`cli/src/bcs/platform/adapters/storage/models.py`.

## Main definitions

* `MountTree`: a mount with those below it.
* `BlockDevice.lsblkEntry`, `Partition.blkidEntry`, `MountTree.findmntEntry`.
* `StorageConfiguration.lsblkOutput`, `StorageConfiguration.blkidOutput`, `findmntOutput`.
* `Consistent`: the parts of a topology fit together.
-/

namespace ClassroomSuite.Platform.Storage

open Python Library

/-! ### The mounts -/

/-- A mount with the mounts below it. -/
inductive MountTree where
  | node (source target fstype options : String) (children : List MountTree)

mutual

/-- What `findmnt` prints of a mount. -/
def MountTree.findmntEntry : MountTree → Json
  | .node source target fstype options children => .obj [
      ("target", .str target), ("source", .str source), ("fstype", .str fstype),
      ("options", .str options), ("children", .arr (findmntEntries children))]

/-- What `findmnt` prints of a forest of mounts. -/
def findmntEntries : List MountTree → List Json
  | [] => []
  | tree :: trees => tree.findmntEntry :: findmntEntries trees

end

mutual

/-- A mount before those below it. -/
def MountTree.mounts (parent : Option String) : MountTree → List MountEntry
  | .node source target fstype options children =>
    { source, target, fstype, options, parent } :: forestMounts (some target) children

/-- The mounts of a forest below a parent. -/
def forestMounts (parent : Option String) : List MountTree → List MountEntry
  | [] => []
  | tree :: trees => tree.mounts parent ++ forestMounts parent trees

end

mutual

/-- The number of levels of a tree of mounts. -/
def MountTree.depth : MountTree → ℕ
  | .node _ _ _ _ children => forestDepth children + 1

/-- The number of levels of a forest. -/
def forestDepth : List MountTree → ℕ
  | [] => 0
  | tree :: trees => max tree.depth (forestDepth trees)

end

/-- What `findmnt` prints of a forest of mounts. -/
def findmntOutput (forest : List MountTree) : Json :=
  .obj [("filesystems", .arr (findmntEntries forest))]

/-! ### The devices -/

/-- An optional number as it is printed. -/
def optionalSize : Option ℕ → Json
  | none => .null
  | some n => .int n

/-- What `lsblk` prints of a partition. -/
def Partition.lsblkEntry (p : Partition) : Json := .obj [
  ("name", .str p.name), ("partn", .int p.number), ("size", optionalSize p.sizeBytes),
  ("mountpoints", .arr [optionalText p.mountPoint])]

/-- What `lsblk` prints of a device. -/
def BlockDevice.lsblkEntry (d : BlockDevice) : Json := .obj [
  ("name", .str d.name), ("type", .str d.deviceType), ("ro", .bool d.isReadOnly),
  ("rm", .bool d.isRemovable), ("size", optionalSize d.sizeBytes),
  ("model", optionalText d.model), ("vendor", optionalText d.vendor),
  ("serial", optionalText d.serial), ("mountpoints", .arr [optionalText d.mountPoint]),
  ("children", .arr (d.partitions.map Partition.lsblkEntry))]

/-- What `lsblk` prints of a topology. -/
def StorageConfiguration.lsblkOutput (c : StorageConfiguration) : Json :=
  .obj [("blockdevices", .arr (c.devices.map BlockDevice.lsblkEntry))]

/-! ### The filesystems -/

/-- What identifies a partition and its filesystem. -/
def Partition.facts (p : Partition) : BlkidFacts where
  fsType := p.filesystem.bind FilesystemInfo.fsType
  uuid := p.filesystem.bind FilesystemInfo.uuid
  label := p.filesystem.bind FilesystemInfo.label
  partuuid := p.partuuid
  parttype := p.parttype

/-- What `blkid` prints of a partition. -/
def Partition.blkidEntry (p : Partition) : Json := .obj [
  ("name", .str p.path), ("type", optionalText p.facts.fsType),
  ("uuid", optionalText p.facts.uuid), ("label", optionalText p.facts.label),
  ("partuuid", optionalText p.facts.partuuid), ("parttype", optionalText p.facts.parttype)]

/-- The partitions of all devices. -/
def StorageConfiguration.partitions (c : StorageConfiguration) : List Partition :=
  c.devices.flatMap BlockDevice.partitions

/-- What `blkid` prints of a topology. -/
def StorageConfiguration.blkidOutput (c : StorageConfiguration) : Json :=
  .obj [("blockdevices", .arr (c.partitions.map Partition.blkidEntry))]

/-! ### Consistent topologies -/

/-- The texts of a mount are not empty. -/
structure ConsistentMount (mount : MountEntry) : Prop where
  source : mount.source ≠ ""
  target : mount.target ≠ ""
  fstype : mount.fstype ≠ ""
  options : mount.options ≠ ""

/-- A filesystem has something that identifies it, and is mounted where the mount says. -/
structure ConsistentFilesystem (mount : Option MountEntry) (filesystem : FilesystemInfo) :
    Prop where
  identified : ¬ (filesystem.fsType = none ∧ filesystem.uuid = none ∧ filesystem.label = none)
  fsType : filesystem.fsType ≠ some ""
  uuid : filesystem.uuid ≠ some ""
  label : filesystem.label ≠ some ""
  mountPoint : filesystem.mountPoint = mount.map MountEntry.target
  mountOptions : filesystem.mountOptions = mount.map MountEntry.options

/-- A partition of a consistent topology with these mounts. -/
structure ConsistentPartition (mounts : List MountEntry) (p : Partition) : Prop where
  name : p.name ≠ ""
  path : p.path = "/dev/" ++ p.name
  partuuid : p.partuuid ≠ some ""
  parttype : p.parttype ≠ some ""
  filesystem : ∀ filesystem, p.filesystem = some filesystem →
    ConsistentFilesystem (lastMount mounts p.path) filesystem
  mountPoint : p.mountPoint ≠ some ""
  mounted : ∀ mount, lastMount mounts p.path = some mount → p.mountPoint = some mount.target

/-- A device of a consistent topology with these mounts. -/
structure ConsistentDevice (mounts : List MountEntry) (d : BlockDevice) : Prop where
  name : d.name ≠ ""
  path : d.path = "/dev/" ++ d.name
  deviceType : d.deviceType ≠ ""
  isNvme : d.isNvme = startsWith d.name "nvme"
  partitions : ∀ p ∈ d.partitions, ConsistentPartition mounts p
  mountPoint : d.mountPoint ≠ some ""
  mounted : ∀ mount, lastMount mounts d.path = some mount → d.mountPoint = some mount.target

/-- The parts of a topology fit together. -/
structure Consistent (c : StorageConfiguration) : Prop where
  devices : ∀ d ∈ c.devices, ConsistentDevice c.mounts d
  mounts : ∀ mount ∈ c.mounts, ConsistentMount mount
  identified : ∀ p ∈ c.partitions, ∀ q ∈ c.partitions, p.path = q.path → p.facts = q.facts

/-- What is assumed of the libraries: a text of Unicode scalar values is one for a model, and no
value is shown as the empty text. -/
structure RegularRuntime (rt : ModelRuntime) : Prop where
  acceptsText : ∀ s, rt.acceptsText s = true
  reprJson : ∀ value, rt.reprJson value ≠ ""

end ClassroomSuite.Platform.Storage
