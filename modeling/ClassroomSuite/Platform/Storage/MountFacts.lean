import ClassroomSuite.Platform.Storage.DeviceTree

/-!
# Where a partition is mounted

A partition and its filesystem both say where it is mounted. The partition says it from `lsblk`, and
then from `findmnt`, which the filesystem says it from alone. The two agree unless `lsblk` knows a
mount point of a partition with a filesystem that `findmnt` does not.

Source: `cli/src/bcs/platform/adapters/storage/parser.py`.

## Main definitions

* `MountFactsAgree`.
* `HasFilesystem`, `MountedFrom`: what `blkid` and `findmnt` know.

## Main results

* `mountFactsAgree_iff`.
-/

namespace ClassroomSuite.Platform.Storage

open Python Library

/-- Each partition that has a filesystem is mounted where this is. -/
def MountFactsAgree (c : StorageConfiguration) : Prop :=
  ∀ d ∈ c.devices, ∀ p ∈ d.partitions, ∀ filesystem ∈ p.filesystem,
    filesystem.mountPoint = p.mountPoint

instance (c : StorageConfiguration) : Decidable (MountFactsAgree c) :=
  inferInstanceAs (Decidable (∀ d ∈ c.devices, ∀ p ∈ d.partitions, ∀ filesystem ∈ p.filesystem,
    filesystem.mountPoint = p.mountPoint))

/-- A mount, at any depth, is one of the source. -/
def MountedFrom (source : String) (findmnt : List Json) : Prop :=
  ∃ nodes, ForestNodes children findmnt nodes ∧ ∃ node ∈ nodes, node.field "source" = .str source

variable (rt : ModelRuntime)

/-- The last entry of the path tells of a filesystem. -/
def HasFilesystem (blkid : List Json) (path : String) : Prop :=
  ∃ facts, lastNamed blkid path = some facts ∧ ¬ (textOf rt (facts.field "type") = none ∧
    textOf rt (facts.field "uuid") = none ∧ textOf rt (facts.field "label") = none)

variable {rt}

/-- The mounts are the nodes of their tree, in the same order. -/
theorem MountsInOrder.forall₂_nodes {parent : Option String} {entries : List Json}
    {mounts : List MountEntry} (h : MountsInOrder parent entries mounts) :
    ∃ nodes, ForestNodes children entries nodes ∧
      List.Forall₂ (fun node mount => node.field "source" = .str (MountEntry.source mount))
        nodes mounts := by
  induction h with
  | nil parent => exact ⟨[], .nil, .nil⟩
  | cons _ source _ _ _ hchildren _ _ ihbelow ihrest =>
    obtain ⟨below, hbelow, hmounts⟩ := ihbelow
    obtain ⟨nodes, hnodes, hrest⟩ := ihrest
    rw [← children_eq hchildren] at hbelow
    exact ⟨_, .cons hbelow hnodes, .cons source (List.rel_append hmounts hrest)⟩

/-- There is a last mount of a source when there is a mount of it. -/
theorem mountedFrom_iff {findmnt : List Json} {mounts : List MountEntry}
    (h : MountsInOrder none findmnt mounts) (source : String) :
    MountedFrom source findmnt ↔ lastMount mounts source ≠ none := by
  obtain ⟨nodes, hnodes, hmounts⟩ := h.forall₂_nodes
  have hfrom : MountedFrom source findmnt ↔ ∃ node ∈ nodes, node.field "source" = .str source :=
    ⟨fun ⟨_, hnodes', hnode⟩ => hnodes'.unique hnodes ▸ hnode, fun hnode => ⟨nodes, hnodes, hnode⟩⟩
  have hnone : (∀ node ∈ nodes, ¬ node.field "source" = .str source) ↔
      ∀ mount ∈ mounts, ¬ mount.source = source :=
    forall_mem_iff_of_forall₂ hmounts fun node mount hsource => by rw [hsource, Json.str.injEq]
  rw [hfrom, ne_eq, ← not_iff_not, not_not, lastMount, List.find?_eq_none]
  simp only [List.mem_reverse, decide_eq_true_eq, ← hnone, not_exists, not_and]

/-- A partition agrees with its filesystem unless only `lsblk` knows where it is mounted. -/
theorem MergedPartition.mountPoint_iff {blkid findmnt : List Json} {mounts : List MountEntry}
    {entry : Json} {position : ℕ} {p : Partition}
    (h : MergedPartition rt blkid mounts entry position p)
    (hmounts : MountsInOrder none findmnt mounts) :
    (∀ filesystem ∈ p.filesystem, filesystem.mountPoint = p.mountPoint) ↔
      ∀ name, entry.field "name" = .str name → lsblkMountPoint rt entry ≠ none →
        HasFilesystem rt blkid ("/dev/" ++ name) → MountedFrom ("/dev/" ++ name) findmnt := by
  have hnames : ∀ name, entry.field "name" = .str name ↔ name = p.name := fun name => by
    rw [h.name, Json.str.injEq, eq_comm]
  have hfilesystem : HasFilesystem rt blkid p.path ↔ p.filesystem ≠ none := by
    rw [ne_eq, h.filesystem_none]
    simp only [HasFilesystem, not_forall, exists_prop]
  simp only [hnames, forall_eq, ← h.path, hfilesystem]
  cases hp : p.filesystem with
  | none => simp
  | some filesystem =>
    have hown : filesystem.mountPoint = (lastMount mounts p.path).map MountEntry.target := by
      rw [h.filesystem filesystem hp]
    simp only [Option.mem_some_iff, forall_eq', hown, h.mountPoint, mergedMountPoint,
      mountedFrom_iff hmounts p.path]
    cases lastMount mounts p.path with
    | none => simp [eq_comm]
    | some mount => simp

/-- The mount facts agree if and only if every partition with a filesystem for which `lsblk` reports
a mount point is the source of a mount. -/
theorem mountFactsAgree_iff {lsblkOutput blkidOutput findmntOutput : String}
    {c : StorageConfiguration} {lsblk blkid findmnt : List Json}
    (h : parseStorageTopology rt lsblkOutput blkidOutput findmntOutput = .ok c)
    (hlsblk : Lists rt lsblkOutput "blockdevices" lsblk)
    (hblkid : Lists rt blkidOutput "blockdevices" blkid)
    (hfindmnt : Lists rt findmntOutput "filesystems" findmnt) :
    MountFactsAgree c ↔
      ∀ entry ∈ lsblk, ∀ child ∈ children entry, ∀ name, child.field "name" = .str name →
        lsblkMountPoint rt child ≠ none → HasFilesystem rt blkid ("/dev/" ++ name) →
        MountedFrom ("/dev/" ++ name) findmnt := by
  obtain ⟨_, _, _, hlsblk', hblkid', hfindmnt', hdevices, hmounts⟩ := devices_and_mounts_of_parse h
  obtain rfl := hlsblk'.unique hlsblk
  obtain rfl := hblkid'.unique hblkid
  obtain rfl := hfindmnt'.unique hfindmnt
  refine (forall_mem_iff_of_forall₂ hdevices fun entry d hd => ?_).symm
  refine forall_mem_iff_of_forall₂ hd.forall₂_partitions fun child p ⟨position, hp⟩ => ?_
  exact (hp.mountPoint_iff hmounts).symm

/-- On the machine with one disk the mount facts agree. -/
theorem mountFactsAgree_oneDisk :
    ∃ c, parseStorageTopology oneDiskRuntime "lsblk" "blkid" "findmnt" = .ok c ∧
      MountFactsAgree c := by
  obtain ⟨c, hparse⟩ : ∃ c, parseStorageTopology oneDiskRuntime "lsblk" "blkid" "findmnt" =
      .ok c := by decide +kernel
  refine ⟨c, hparse, (mountFactsAgree_iff hparse ⟨_, rfl, rfl, by decide⟩ ⟨_, rfl, rfl, by decide⟩
    ⟨_, rfl, rfl, by decide⟩).mpr ?_⟩
  intro entry hentry child hchild name hname _ _
  rw [List.mem_singleton.mp hentry] at hchild
  rw [List.mem_singleton.mp hchild] at hname
  obtain rfl := Json.str.inj hname
  exact ⟨_, .cons .nil .nil, _, List.mem_singleton_self _, congrArg Json.str (by decide)⟩

/-- The machine with one disk, whose partition is swap space in use, which is not a mount. -/
def swapRuntime : ModelRuntime where
  __ := oneDiskRuntime
  loads
    | "lsblk" => .ok (.obj [("blockdevices", .arr [.obj [("name", .str "sda"),
        ("type", .str "disk"), ("ro", .bool false), ("rm", .bool false), ("size", .int 2048),
        ("children", .arr [.obj [("name", .str "sda1"),
          ("mountpoints", .arr [.str "[SWAP]"])]])]])])
    | "blkid" => .ok (.obj [("blockdevices", .arr [.obj [("name", .str "/dev/sda1"),
        ("type", .str "swap")]])])
    | "findmnt" => .ok (.obj [("filesystems", .arr [])])
    | text => oneDiskRuntime.loads text

/-- The partition is mounted and its filesystem is not. -/
theorem not_mountFactsAgree_swap :
    ∃ c, parseStorageTopology swapRuntime "lsblk" "blkid" "findmnt" = .ok c ∧
      ¬ MountFactsAgree c := by
  decide +kernel

end ClassroomSuite.Platform.Storage
