import ClassroomSuite.Library.Assoc
import ClassroomSuite.Library.Text
import ClassroomSuite.Platform.Storage.Models

/-!
# Parsing the storage topology

The topology is put together from the JSON outputs of three tools: the device tree of `lsblk`, the
filesystems found by `blkid`, which annotate the partitions, and the mounts listed by `findmnt`,
which annotate partitions and devices.

Source: `cli/src/bcs/platform/adapters/storage/parser.py`.

## Main definitions

* `parseLsblk`, `parseBlkid`, `parseFindmnt`.
* `parseStorageTopology`.
-/

namespace ClassroomSuite.Platform.Storage

open Python Library

variable (rt : ModelRuntime)

/-! ### The structure of the outputs -/

/-- The object in an output. -/
def loadJson (text tool : String) : Except PyError Json :=
  match rt.loads text with
  | .error problem => .error (.valueError (tool ++ ": output is not valid JSON: " ++ problem))
  | .ok (.obj fields) => .ok (.obj fields)
  | .ok data => .error (.valueError (tool ++ ": expected a JSON object at the top level, got " ++
      data.typeName))

/-- A list of objects under a key. -/
def requireList (root : Json) (key tool : String) : Except PyError (List Json) := do
  match ← root.get key with
  | .arr items =>
    if items.all Json.isObj then return items
    else throw (.valueError (tool ++ ": " ++ rt.text.repr key ++ " contains a non-object entry"))
  | _ => throw (.valueError (tool ++ ": missing or non-list " ++ rt.text.repr key ++ " key"))

/-- What an error about a field of an entry says of the entry. -/
def whereText (context : String) : String :=
  if context = "" then "" else " for " ++ rt.text.repr context

/-- A text under a key, which is not empty. -/
def requireStr (entry : Json) (key tool : String) (context : String := "") :
    Except PyError String := do
  let problem := PyError.valueError
    (tool ++ ": missing or empty " ++ rt.text.repr key ++ whereText rt context)
  match ← entry.get key with
  | .str s => if s = "" then throw problem else return s
  | _ => throw problem

/-- A truth value under a key. -/
def requireBool (entry : Json) (key tool : String) (context : String := "") :
    Except PyError Bool := do
  match ← entry.get key with
  | .bool b => return b
  | _ => throw (.valueError
      (tool ++ ": missing or non-boolean " ++ rt.text.repr key ++ whereText rt context))

/-- The children of an entry, none if there are none. -/
def childrenOf (entry : Json) (problem : String) : Except PyError (List Json) := do
  match ← entry.get "children" (.arr []) with
  | .arr children => return children
  | _ => throw (.valueError problem)

/-! ### The device tree -/

/-- The first mount point, of a list or on its own. -/
def extractMountPoint (entry : Json) : Except PyError (Option String) := do
  match ← entry.get "mountpoints" with
  | .arr points => return (points.find? Json.truthy).map (pyStr rt)
  | _ => do
    let single ← entry.get "mountpoint"
    return if single.truthy then some (pyStr rt single) else none

/-- The number that a partition reports, or its position. -/
def partitionNumber (partn : Json) (fallbackNumber : ℕ) : ℤ :=
  match partn with
  | .int number => number
  | _ => fallbackNumber

/-- A partition from a child of a device; `fallbackNumber` is its place among the children. -/
def parsePartition (entry : Json) (fallbackNumber : ℕ) : Except PyError Partition := do
  let name ← requireStr rt entry "name" "lsblk"
  let partn ← entry.get "partn"
  let sizeBytes ← entry.get "size"
  let mountPoint ← extractMountPoint rt entry
  Partition.make rt name ("/dev/" ++ name) (partitionNumber partn fallbackNumber) sizeBytes
    mountPoint

/-- A device with its partitions. -/
def parseBlockDevice (entry : Json) : Except PyError BlockDevice := do
  let name ← requireStr rt entry "name" "lsblk"
  let deviceType ← requireStr rt entry "type" "lsblk" name
  let isReadOnly ← requireBool rt entry "ro" "lsblk" name
  let isRemovable ← requireBool rt entry "rm" "lsblk" name
  let children ← childrenOf entry
    ("lsblk: device " ++ rt.text.repr name ++ " has a non-list 'children' value")
  let partitions ← (children.zipIdx 1).mapM fun (child, index) => parsePartition rt child index
  let sizeBytes ← entry.get "size"
  let model ← entry.get "model"
  let vendor ← entry.get "vendor"
  let serial ← entry.get "serial"
  let mountPoint ← extractMountPoint rt entry
  BlockDevice.make rt name ("/dev/" ++ name) deviceType sizeBytes isRemovable isReadOnly
    (startsWith name "nvme") model vendor serial partitions mountPoint

/-- The devices that `lsblk` lists. -/
def parseLsblk (text : String) : Except PyError (List BlockDevice) := do
  let root ← loadJson rt text "lsblk"
  let entries ← requireList rt root "blockdevices" "lsblk"
  entries.mapM (parseBlockDevice rt)

/-! ### The filesystems -/

/-- What is reported of one partition. -/
structure BlkidFacts where
  fsType : Option String
  uuid : Option String
  label : Option String
  partuuid : Option String
  parttype : Option String

/-- Whether anything is known of the filesystem. -/
def BlkidFacts.hasFilesystemData (facts : BlkidFacts) : Bool :=
  facts.fsType.isSome || facts.uuid.isSome || facts.label.isSome

/-- The text of a value under a key that counts as true. -/
def optionalStr (entry : Json) (key : String) : Except PyError (Option String) := do
  let value ← entry.get key
  return if value.truthy then some (pyStr rt value) else none

/-- The path of a device with the facts about it. -/
def parseBlkidEntry (entry : Json) : Except PyError (String × BlkidFacts) := do
  let name ← requireStr rt entry "name" "blkid"
  let fsType ← optionalStr rt entry "type"
  let uuid ← optionalStr rt entry "uuid"
  let label ← optionalStr rt entry "label"
  let partuuid ← optionalStr rt entry "partuuid"
  let parttype ← optionalStr rt entry "parttype"
  return (name, { fsType, uuid, label, partuuid, parttype })

/-- The facts by the names of the partitions, the last of each. -/
def parseBlkid (text : String) : Except PyError (List (String × BlkidFacts)) := do
  let root ← loadJson rt text "blkid"
  let entries ← requireList rt root "blockdevices" "blkid"
  let facts ← entries.mapM (parseBlkidEntry rt)
  return facts.foldl (fun byName (name, facts) => assocSet name facts byName) []

/-- The partition with the facts about its path, if there are any. -/
def annotatePartitionWithBlkid (partition : Partition) :
    Option BlkidFacts → Except PyError Partition
  | none => .ok partition
  | some facts => do
    let filesystem ←
      if facts.hasFilesystemData then
        some <$> FilesystemInfo.make rt facts.fsType facts.uuid facts.label
      else pure none
    return { partition with partuuid := facts.partuuid, parttype := facts.parttype, filesystem }

/-- Annotation does not change the number of a partition. -/
theorem number_annotatePartitionWithBlkid {partition partition' : Partition}
    {facts : Option BlkidFacts}
    (h : annotatePartitionWithBlkid rt partition facts = .ok partition') :
    partition'.number = partition.number := by
  cases facts with
  | none => rw [← Except.ok.inj h]
  | some facts =>
    rw [annotatePartitionWithBlkid] at h
    split_ifs at h
    · cases hfilesystem : FilesystemInfo.make rt facts.fsType facts.uuid facts.label with
      | error e => simp [hfilesystem, Functor.map, Except.map, bind, Except.bind] at h
      | ok filesystem =>
        rw [hfilesystem] at h
        rw [← Except.ok.inj h]
    · rw [← Except.ok.inj h]

/-- The device with other partitions, which have the same numbers. -/
def BlockDevice.withPartitions (device : BlockDevice) (partitions : List Partition)
    (h : partitions.map Partition.number = device.partitions.map Partition.number) :
    BlockDevice where
  name := device.name
  path := device.path
  deviceType := device.deviceType
  sizeBytes := device.sizeBytes
  isRemovable := device.isRemovable
  isReadOnly := device.isReadOnly
  isNvme := device.isNvme
  model := device.model
  vendor := device.vendor
  serial := device.serial
  partitions := partitions
  mountPoint := device.mountPoint
  numbers_nodup := h ▸ device.numbers_nodup

/-- The device with the facts about its partitions. -/
def annotateDeviceWithBlkid (factsByPath : List (String × BlkidFacts)) (device : BlockDevice) :
    Except PyError BlockDevice :=
  match h : device.partitions.mapM fun partition =>
      annotatePartitionWithBlkid rt partition (factsByPath.lookup partition.path) with
  | .error e => .error e
  | .ok partitions => .ok (device.withPartitions partitions
      (map_eq_of_mapM_eq_ok _ (fun _ _ => number_annotatePartitionWithBlkid rt) h))

/-! ### The mounts -/

/-- A mount and those below it, in the order of a walk from the top. The walk calls itself for each
level, and there is a limit to that. -/
def parseMountEntry : ℕ → Json → Option String → Except PyError (List MountEntry)
  | 0, _, _ => .error (.recursionError "maximum recursion depth exceeded")
  | limit + 1, entry, parent => do
    let target ← requireStr rt entry "target" "findmnt"
    let source ← requireStr rt entry "source" "findmnt" target
    let fstype ← requireStr rt entry "fstype" "findmnt" target
    let options ← requireStr rt entry "options" "findmnt" target
    let mount ← MountEntry.make rt source target fstype options parent
    let children ← childrenOf entry
      ("findmnt: mount " ++ rt.text.repr target ++ " has a non-list 'children' value")
    let below ← children.mapM fun child => parseMountEntry limit child (some target)
    return mount :: below.flatten

/-- The mounts that `findmnt` lists, each before those below it. -/
def parseFindmnt (text : String) : Except PyError (List MountEntry) := do
  let root ← loadJson rt text "findmnt"
  let entries ← requireList rt root "filesystems" "findmnt"
  let mounts ← entries.mapM fun entry => parseMountEntry rt rt.recursionLimit entry none
  return mounts.flatten

/-- The partition with the place of a mount and, where no filesystem is known, with its type. -/
def annotatePartitionWithMount (partition : Partition) : Option MountEntry → Partition
  | none => partition
  | some mount => { partition with
      mountPoint := some mount.target
      filesystem := partition.filesystem.map fun filesystem => { filesystem with
        mountPoint := some mount.target
        mountOptions := some mount.options } }

/-- The mounts by their sources, the last of each. -/
def mountsBySource (mounts : List MountEntry) : List (String × MountEntry) :=
  mounts.foldl (fun bySource mount => assocSet mount.source mount bySource) []

theorem number_annotatePartitionWithMount (partition : Partition) (mount : Option MountEntry) :
    (annotatePartitionWithMount partition mount).number = partition.number := by
  cases mount <;> rfl

/-- The device with the mounts of its partitions. -/
def annotateDeviceWithMounts (mounts : List MountEntry) (device : BlockDevice) : BlockDevice :=
  let annotate partition :=
    annotatePartitionWithMount partition ((mountsBySource mounts).lookup partition.path)
  let annotated := device.withPartitions (device.partitions.map annotate) (by
    rw [List.map_map]
    exact List.map_congr_left fun partition _ => number_annotatePartitionWithMount partition _)
  match (mountsBySource mounts).lookup device.path with
  | none => annotated
  | some mount => { annotated with mountPoint := some mount.target }

/-! ### The topology -/

/-- The topology from the three outputs. -/
def parseStorageTopology (lsblkOutput blkidOutput findmntOutput : String) :
    Except PyError StorageConfiguration := do
  let devices ← parseLsblk rt lsblkOutput
  let factsByPath ← parseBlkid rt blkidOutput
  let devices ← devices.mapM (annotateDeviceWithBlkid rt factsByPath)
  let mounts ← parseFindmnt rt findmntOutput
  StorageConfiguration.make rt (devices.map (annotateDeviceWithMounts mounts)) mounts

end ClassroomSuite.Platform.Storage
