import Mathlib.Data.List.Nodup
import ClassroomSuite.Library.Forest
import ClassroomSuite.Platform.Storage.Merge

/-!
# The nodes of the device tree

The output of `lsblk` is a tree of any depth, in which an array or an encrypted volume is below the
partition that holds it. The topology has two levels, the devices and their partitions, so that it
has every node of the tree exactly when no partition has anything below it.

Source: `cli/src/bcs/platform/adapters/storage/parser.py`.

## Main definitions

* `children`, `IsNode`: the entries below an entry, and what an entry of the tree is.
* `reportedNames`: the names of the devices and of their partitions.

## Main results

* `reports_every_node_iff`.
-/

namespace ClassroomSuite.Platform.Storage

open Python Library

/-- The entries below an entry. -/
def children (entry : Json) : List Json :=
  match entry.field "children" (.arr []) with
  | .arr items => items
  | _ => []

theorem children_eq {entry : Json} {items : List Json}
    (h : entry.field "children" (.arr []) = .arr items) : children entry = items := by
  rw [children, h]

/-- An entry of the tree is an object that has a name and a list of entries below it. -/
structure IsNode (entry : Json) (name : String) : Prop where
  isObj : entry.isObj = true
  name_ne_empty : name ≠ ""
  name : entry.field "name" = .str name
  children : entry.field "children" (.arr []) = .arr (children entry)

/-- The names of the devices, each before those of its partitions. -/
def reportedNames (c : StorageConfiguration) : List String :=
  c.devices.flatMap fun d => d.name :: d.partitions.map Partition.name

/-- The name of an entry. -/
def nameOf (entry : Json) : String :=
  match entry.field "name" with
  | .str name => name
  | _ => ""

theorem nameOf_eq {entry : Json} {name : String} (h : entry.field "name" = .str name) :
    nameOf entry = name := by
  rw [nameOf, h]

theorem map_nameOf_eq {nodes : List Json} {names : List String}
    (h : List.Forall₂ IsNode nodes names) : nodes.map nameOf = names := by
  induction h with
  | nil => rfl
  | cons hnode _ ih => rw [List.map_cons, nameOf_eq hnode.name, ih]

variable {rt : ModelRuntime}

/-- The entries below the one of a device give its partitions. -/
theorem MergedDevice.forall₂_partitions {blkid : List Json} {mounts : List MountEntry}
    {entry : Json} {d : BlockDevice} (h : MergedDevice rt blkid mounts entry d) :
    List.Forall₂ (fun child p => ∃ position, MergedPartition rt blkid mounts child position p)
      (children entry) d.partitions := by
  obtain ⟨items, hitems, hpartitions⟩ := h.partitions
  rw [children_eq hitems]
  exact forall₂_of_zipIdx hpartitions

/-- The partitions of a device have the names of the entries below the one of the device. -/
theorem MergedDevice.map_name_partitions {blkid : List Json} {mounts : List MountEntry}
    {entry : Json} {d : BlockDevice} (h : MergedDevice rt blkid mounts entry d) :
    (children entry).map nameOf = d.partitions.map Partition.name := by
  rw [← List.forall₂_eq_eq_eq, List.forall₂_map_left_iff, List.forall₂_map_right_iff]
  exact h.forall₂_partitions.imp fun child p ⟨_, hp⟩ => nameOf_eq hp.name

/-- The names are those of the entries at the first two levels. -/
theorem reportedNames_eq {blkid entries : List Json} {c : StorageConfiguration}
    (h : List.Forall₂ (MergedDevice rt blkid c.mounts) entries c.devices) :
    reportedNames c = (entries.flatMap fun entry => entry :: children entry).map nameOf := by
  rw [reportedNames]
  generalize c.devices = devices at h
  induction h with
  | nil => rfl
  | cons hdevice _ ih =>
    rw [List.flatMap_cons, List.flatMap_cons, List.map_append, ih, List.map_cons,
      hdevice.map_name_partitions, nameOf_eq hdevice.name]

/-- Where the nodes of the tree have distinct names, the topology has each of them exactly once if
and only if no entry below a device has an entry below it. -/
theorem reports_every_node_iff {lsblkOutput blkidOutput findmntOutput : String}
    {c : StorageConfiguration} {entries nodes : List Json} {names : List String}
    (h : parseStorageTopology rt lsblkOutput blkidOutput findmntOutput = .ok c)
    (hentries : Lists rt lsblkOutput "blockdevices" entries)
    (hnodes : ForestNodes children entries nodes) (hnames : List.Forall₂ IsNode nodes names)
    (hnodup : names.Nodup) :
    (∀ name ∈ names, (reportedNames c).count name = 1) ↔
      ∀ entry ∈ entries, ∀ child ∈ children entry, children child = [] := by
  obtain ⟨lsblk, blkid, -, hlsblk, -, -, hdevices, -⟩ := devices_and_mounts_of_parse h
  obtain rfl := hlsblk.unique hentries
  obtain ⟨deeper, hperm, hdeeper⟩ := hnodes.perm_levels
  rw [← hdeeper]
  -- the names are the reported ones and those of the deeper nodes
  have hall : names.Perm (reportedNames c ++ deeper.map nameOf) := by
    rw [← map_nameOf_eq hnames, reportedNames_eq hdevices, ← List.map_append]
    exact hperm.map nameOf
  have hdistinct := hall.nodup_iff.mp hnodup
  rw [List.nodup_append'] at hdistinct
  obtain ⟨hreported, -, hdisjoint⟩ := hdistinct
  constructor
  · intro hcount
    by_contra hne
    obtain ⟨node, hnode⟩ := List.exists_mem_of_ne_nil deeper hne
    have hbelow : nameOf node ∈ deeper.map nameOf := List.mem_map_of_mem hnode
    have hone := hcount _ (hall.mem_iff.mpr (List.mem_append_right _ hbelow))
    exact hdisjoint (List.count_pos_iff.mp (by omega)) hbelow
  · rintro rfl name hname
    rw [List.map_nil, List.append_nil] at hall
    exact List.count_eq_one_of_mem hreported (hall.mem_iff.mp hname)

/-- The tree of the machine with one disk has its two nodes in the topology. -/
theorem reports_every_node_oneDisk :
    ∃ c, parseStorageTopology oneDiskRuntime "lsblk" "blkid" "findmnt" = .ok c ∧
      ∀ name ∈ ["sda", "sda1"], (reportedNames c).count name = 1 := by
  obtain ⟨c, hparse⟩ : ∃ c, parseStorageTopology oneDiskRuntime "lsblk" "blkid" "findmnt" =
      .ok c := by decide +kernel
  refine ⟨c, hparse, (reports_every_node_iff hparse ⟨_, rfl, rfl, by decide⟩
    (.cons (.cons .nil .nil) .nil) (.cons ?_ (.cons ?_ .nil)) (by decide)).mpr ?_⟩
  · exact ⟨rfl, by decide, rfl, rfl⟩
  · exact ⟨rfl, by decide, rfl, rfl⟩
  · intro entry hentry child hchild
    rw [List.mem_singleton.mp hentry] at hchild
    rw [List.mem_singleton.mp hchild]
    rfl

/-- The machine with one disk, whose partition is a member of an array. -/
def arrayRuntime : ModelRuntime where
  __ := oneDiskRuntime
  loads
    | "lsblk" => .ok (.obj [("blockdevices", .arr [.obj [("name", .str "sda"),
        ("type", .str "disk"), ("ro", .bool false), ("rm", .bool false), ("size", .int 2048),
        ("children", .arr [.obj [("name", .str "sda1"), ("children", .arr [.obj
          [("name", .str "md0"), ("type", .str "raid1"), ("ro", .bool false),
            ("rm", .bool false)]])]])]])])
    | text => oneDiskRuntime.loads text

/-- The array below the partition is a node of the tree and is not in the topology. -/
theorem not_reports_every_node_array :
    ∃ c entries nodes names, parseStorageTopology arrayRuntime "lsblk" "blkid" "findmnt" = .ok c ∧
      Lists arrayRuntime "lsblk" "blockdevices" entries ∧ ForestNodes children entries nodes ∧
      List.Forall₂ IsNode nodes names ∧ names.Nodup ∧ "md0" ∈ names ∧
      (reportedNames c).count "md0" = 0 := by
  obtain ⟨c, hparse, hcount⟩ : ∃ c, parseStorageTopology arrayRuntime "lsblk" "blkid" "findmnt" =
      .ok c ∧ (reportedNames c).count "md0" = 0 := by decide +kernel
  refine ⟨c, _, _, ["sda", "sda1", "md0"], hparse, ⟨_, rfl, rfl, by decide⟩,
    .cons (.cons (.cons .nil .nil) .nil) .nil, .cons ?_ (.cons ?_ (.cons ?_ .nil)), by decide,
    by decide, hcount⟩
  · exact ⟨rfl, by decide, rfl, rfl⟩
  · exact ⟨rfl, by decide, rfl, rfl⟩
  · exact ⟨rfl, by decide, rfl, rfl⟩

end ClassroomSuite.Platform.Storage
