import ClassroomSuite.Platform.Storage.MountForest
import ClassroomSuite.Platform.Storage.Printing

/-!
# The round trip of a topology

A consistent topology is read from what the tools print of it. It goes through the parser in three
steps: the devices as they are listed, then with what identifies their partitions, and last with the
mounts.

Source: `cli/src/bcs/platform/adapters/storage/parser.py`.

## Main definitions

* `Partition.listed`, `Partition.identified`: a partition after one step and after two.

## Main results

* `parseStorageTopology_printed`: a consistent topology is read back.
-/

namespace ClassroomSuite.Platform.Storage

open Python Library

variable {rt : ModelRuntime}

/-! ### Fields -/

section Fields

variable (hrt : RegularRuntime rt)

include hrt

theorem textField_regular (field s : String) : textField rt field s = .ok s :=
  textField_of_accepts rt (hrt.acceptsText s) field

theorem optionalTextField_regular (field : String) (s : Option String) :
    optionalTextField rt field (optionalText s) = .ok s :=
  optionalTextField_of_accepts rt (fun t _ => hrt.acceptsText t) field

end Fields

theorem sizeField_optionalSize (field : String) (n : Option ℕ) :
    sizeField rt field (optionalSize n) = .ok n := by
  cases n with
  | none => rfl
  | some n => simp [optionalSize, sizeField, countsAs]

theorem positiveField_coe (field : String) (n : ℕ+) : positiveField field (n : ℤ) = .ok n := by
  have hpos : 1 ≤ (n : ℤ) := Int.toNat_le.mp n.2
  rw [positiveField, dif_pos hpos]
  exact congrArg Except.ok (Subtype.ext (Int.toNat_natCast n))

/-- A text that is there and not empty is returned. -/
theorem requireStr_of_lookup {fields : List (String × Json)} {key s : String}
    (h : fields.lookup key = some (.str s)) (hs : s ≠ "") (tool context : String) :
    requireStr rt (.obj fields) key tool context = .ok s := by
  rw [requireStr, Json.get_obj, h, ok_bind]
  exact if_neg hs

theorem requireBool_of_lookup {fields : List (String × Json)} {key : String} {b : Bool}
    (h : fields.lookup key = some (.bool b)) (tool context : String) :
    requireBool rt (.obj fields) key tool context = .ok b := by
  rw [requireBool, Json.get_obj, h]
  rfl

/-- The mount point is returned that is printed as the only one. -/
theorem extractMountPoint_of_lookup {fields : List (String × Json)} {mountPoint : Option String}
    (h : fields.lookup "mountpoints" = some (.arr [optionalText mountPoint]))
    (hne : mountPoint ≠ some "") : extractMountPoint rt (.obj fields) = .ok mountPoint := by
  rw [extractMountPoint, Json.get_obj, h, Option.getD_some, ok_bind]
  cases mountPoint with
  | none => rfl
  | some s =>
    have htruthy : (Json.str s).truthy = true := by
      simpa [Json.truthy] using fun hs => hne (congrArg some hs)
    simp only [optionalText, List.find?_cons_of_pos htruthy]
    rfl

/-- A text that is printed, unless it is empty, is returned. -/
theorem optionalStr_of_lookup {fields : List (String × Json)} {key : String} {s : Option String}
    (h : fields.lookup key = some (optionalText s)) (hne : s ≠ some "") :
    optionalStr rt (.obj fields) key = .ok s := by
  rw [optionalStr, Json.get_obj, h, Option.getD_some, ok_bind]
  cases s with
  | none => rfl
  | some s =>
    have htruthy : (Json.str s).truthy = true := by
      simpa [Json.truthy] using fun hs => hne (congrArg some hs)
    simp only [optionalText, htruthy]
    rfl

/-- A list of objects that is printed under a key is returned. -/
theorem requireList_singleton (key tool : String) {entries : List Json}
    (h : ∀ entry ∈ entries, entry.isObj = true) :
    requireList rt (.obj [(key, .arr entries)]) key tool = .ok entries := by
  refine (requireList_obj_eq_ok_iff _ key tool entries).mpr ⟨?_, h⟩
  rw [List.lookup_cons, beq_self_eq_true]

/-! ### The devices as they are listed -/

/-- A partition as `lsblk` lists it. -/
def Partition.listed (p : Partition) : Partition where
  name := p.name
  path := p.path
  number := p.number
  sizeBytes := p.sizeBytes
  mountPoint := p.mountPoint

/-- A partition with what identifies it, but before the mounts are known. -/
def Partition.identified (p : Partition) : Partition where
  name := p.name
  path := p.path
  number := p.number
  sizeBytes := p.sizeBytes
  mountPoint := p.mountPoint
  partuuid := p.partuuid
  parttype := p.parttype
  filesystem := p.filesystem.map fun filesystem =>
    { fsType := filesystem.fsType, uuid := filesystem.uuid, label := filesystem.label }

theorem numbers_map (f : Partition → Partition) (hf : ∀ p, (f p).number = p.number)
    (d : BlockDevice) :
    (d.partitions.map f).map Partition.number = d.partitions.map Partition.number := by
  rw [List.map_map]
  exact List.map_congr_left fun p _ => hf p

/-- A device as `lsblk` lists it. -/
def BlockDevice.listed (d : BlockDevice) : BlockDevice :=
  d.withPartitions (d.partitions.map Partition.listed)
    (numbers_map Partition.listed (fun _ => rfl) d)

/-- A device with what identifies its partitions. -/
def BlockDevice.identified (d : BlockDevice) : BlockDevice :=
  d.withPartitions (d.partitions.map Partition.identified)
    (numbers_map Partition.identified (fun _ => rfl) d)

section Listed

variable (hrt : RegularRuntime rt) {mounts : List MountEntry}

include hrt

theorem parsePartition_lsblkEntry {p : Partition} (h : ConsistentPartition mounts p)
    (position : ℕ) : parsePartition rt p.lsblkEntry position = .ok p.listed := by
  rw [parsePartition, Partition.lsblkEntry, requireStr_of_lookup rfl h.name, ok_bind, Json.get_obj,
    ok_bind, Json.get_obj, ok_bind, extractMountPoint_of_lookup rfl h.mountPoint, ok_bind]
  change Partition.make rt p.name ("/dev/" ++ p.name) (p.number : ℤ) (optionalSize p.sizeBytes)
    p.mountPoint = _
  rw [← h.path, Partition.make, textField_regular hrt, textField_regular hrt, positiveField_coe,
    sizeField_optionalSize, optionalTextField_regular hrt]
  rfl

theorem parseBlockDevice_lsblkEntry {d : BlockDevice} (h : ConsistentDevice mounts d) :
    parseBlockDevice rt d.lsblkEntry = .ok d.listed := by
  have hpartitions : ((d.partitions.map Partition.lsblkEntry).zipIdx 1).mapM
      (fun p => parsePartition rt p.1 p.2) =
        .ok (d.partitions.map Partition.listed) :=
    mapM_zipIdx_map_eq_ok (fun p hp => parsePartition_lsblkEntry hrt (h.partitions p hp)) 1
  rw [parseBlockDevice, BlockDevice.lsblkEntry, requireStr_of_lookup rfl h.name, ok_bind,
    requireStr_of_lookup rfl h.deviceType, ok_bind, requireBool_of_lookup rfl, ok_bind,
    requireBool_of_lookup rfl, ok_bind, childrenOf, Json.get_obj, ok_bind]
  change (((d.partitions.map Partition.lsblkEntry).zipIdx 1).mapM
      (fun p => parsePartition rt p.1 p.2) >>= _) = _
  rw [hpartitions, ok_bind, Json.get_obj, ok_bind, Json.get_obj, ok_bind, Json.get_obj, ok_bind,
    Json.get_obj, ok_bind, extractMountPoint_of_lookup rfl h.mountPoint, ok_bind]
  change BlockDevice.make rt d.name ("/dev/" ++ d.name) d.deviceType (optionalSize d.sizeBytes)
    d.isRemovable d.isReadOnly (startsWith d.name "nvme") (optionalText d.model)
    (optionalText d.vendor) (optionalText d.serial) (d.partitions.map Partition.listed)
    d.mountPoint = _
  rw [← h.path, ← h.isNvme, BlockDevice.make]
  simp only [textField_regular hrt, sizeField_optionalSize, optionalTextField_regular hrt,
    Checked.both]
  have hnumbers : ((d.partitions.map Partition.listed).map Partition.number).Nodup :=
    d.listed.numbers_nodup
  simp only [construct, ok_bind, dif_pos hnumbers]
  rfl

theorem parseLsblk_lsblkOutput {c : StorageConfiguration} (hc : Consistent c) {text : String}
    (h : rt.loads text = .ok c.lsblkOutput) :
    parseLsblk rt text = .ok (c.devices.map BlockDevice.listed) := by
  have hobj : ∀ entry ∈ c.devices.map BlockDevice.lsblkEntry, entry.isObj = true := by
    rintro entry hentry
    obtain ⟨d, -, rfl⟩ := List.mem_map.mp hentry
    rfl
  rw [parseLsblk, (loadJson_eq_ok_iff text "lsblk" _).mpr ⟨_, h, rfl⟩, ok_bind,
    requireList_singleton "blockdevices" "lsblk" hobj, ok_bind]
  exact mapM_map_eq_ok fun d hd => parseBlockDevice_lsblkEntry hrt (hc.devices d hd)

end Listed

/-! ### What identifies the partitions -/

section Identified

variable {mounts : List MountEntry}

omit rt in
theorem path_ne {p : Partition} (h : ConsistentPartition mounts p) : p.path ≠ "" := by
  intro hempty
  have hlength := congrArg String.toList (h.path.symm.trans hempty)
  simp at hlength

theorem parseBlkidEntry_blkidEntry {p : Partition} (h : ConsistentPartition mounts p) :
    parseBlkidEntry rt p.blkidEntry = .ok (p.path, p.facts) := by
  have hfacts : p.facts.fsType ≠ some "" ∧ p.facts.uuid ≠ some "" ∧ p.facts.label ≠ some "" := by
    cases hfilesystem : p.filesystem with
    | none => simp [Partition.facts, hfilesystem]
    | some filesystem =>
      have hconsistent := h.filesystem filesystem hfilesystem
      simp [Partition.facts, hfilesystem, hconsistent.fsType, hconsistent.uuid, hconsistent.label]
  rw [parseBlkidEntry, Partition.blkidEntry, requireStr_of_lookup rfl (path_ne h), ok_bind,
    optionalStr_of_lookup rfl hfacts.1, ok_bind, optionalStr_of_lookup rfl hfacts.2.1, ok_bind,
    optionalStr_of_lookup rfl hfacts.2.2, ok_bind, optionalStr_of_lookup rfl h.partuuid, ok_bind,
    optionalStr_of_lookup rfl h.parttype, ok_bind]
  rfl

theorem Consistent.partition {c : StorageConfiguration} (hc : Consistent c) {p : Partition}
    (hp : p ∈ c.partitions) : ConsistentPartition c.mounts p := by
  obtain ⟨d, hd, hp⟩ := List.mem_flatMap.mp hp
  exact (hc.devices d hd).partitions p hp

/-- The path of a partition leads to what identifies it. -/
theorem parseBlkid_blkidOutput {c : StorageConfiguration} (hc : Consistent c) {text : String}
    (h : rt.loads text = .ok c.blkidOutput) :
    ∃ facts, parseBlkid rt text = .ok facts ∧
      ∀ p ∈ c.partitions, facts.lookup p.path = some p.facts := by
  have hobj : ∀ entry ∈ c.partitions.map Partition.blkidEntry, entry.isObj = true := by
    rintro entry hentry
    obtain ⟨p, -, rfl⟩ := List.mem_map.mp hentry
    rfl
  have hentries : (c.partitions.map Partition.blkidEntry).mapM (parseBlkidEntry rt) =
      .ok (c.partitions.map fun p => (p.path, p.facts)) :=
    mapM_map_eq_ok fun p hp => parseBlkidEntry_blkidEntry (hc.partition hp)
  refine ⟨(c.partitions.map fun p => (p.path, p.facts)).foldl
    (fun byName entry => assocSet entry.1 entry.2 byName) [], ?_, fun p hp => ?_⟩
  · rw [parseBlkid, (loadJson_eq_ok_iff text "blkid" _).mpr ⟨_, h, rfl⟩, ok_bind,
      requireList_singleton "blockdevices" "blkid" hobj, ok_bind, hentries, ok_bind]
    rfl
  · have hlookup := lookup_foldl_assocSet Prod.fst Prod.snd
      (c.partitions.map fun p => (p.path, p.facts)) [] p.path
    rw [List.lookup_nil, Option.or_none] at hlookup
    refine hlookup.trans ?_
    -- The last entry of the path is that of a partition which is identified by the same facts.
    cases hfind : (c.partitions.map fun p => (p.path, p.facts)).reverse.find?
        fun entry => entry.1 = p.path with
    | none =>
      rw [List.find?_eq_none] at hfind
      exact absurd (decide_eq_true rfl) (hfind (p.path, p.facts)
        (List.mem_reverse.mpr (List.mem_map_of_mem hp)))
    | some entry =>
      have hpath : entry.1 = p.path := by simpa using List.find?_some hfind
      obtain ⟨q, hq, rfl⟩ := List.mem_map.mp (List.mem_reverse.mp (List.mem_of_find?_eq_some hfind))
      exact congrArg some (hc.identified q hq p hp hpath)

theorem annotatePartitionWithBlkid_facts (hrt : RegularRuntime rt) {p : Partition}
    (h : ConsistentPartition mounts p) :
    annotatePartitionWithBlkid rt p.listed (some p.facts) = .ok p.identified := by
  rw [annotatePartitionWithBlkid]
  cases hfilesystem : p.filesystem with
  | none =>
    have hdata : p.facts.hasFilesystemData = false := by
      simp [hasFilesystemData_eq_false_iff, Partition.facts, hfilesystem]
    rw [hdata]
    simp [Partition.identified, Partition.listed, Partition.facts, hfilesystem]
  | some filesystem =>
    have hdata : p.facts.hasFilesystemData = true := by
      rw [← Bool.not_eq_false, hasFilesystemData_eq_false_iff]
      simpa [Partition.facts, hfilesystem] using (h.filesystem filesystem hfilesystem).identified
    have hmake : FilesystemInfo.make rt p.facts.fsType p.facts.uuid p.facts.label =
        .ok { fsType := filesystem.fsType, uuid := filesystem.uuid,
              label := filesystem.label } := by
      simp only [FilesystemInfo.make, optionalTextField_regular hrt, Checked.both, construct,
        ok_bind, Partition.facts, hfilesystem]
      rfl
    rw [if_pos hdata, hmake]
    simp only [Partition.identified, Partition.listed, hfilesystem]
    rfl

theorem annotateDeviceWithBlkid_listed (hrt : RegularRuntime rt) {d : BlockDevice}
    (h : ConsistentDevice mounts d) {facts : List (String × BlkidFacts)}
    (hfacts : ∀ p ∈ d.partitions, facts.lookup p.path = some p.facts) :
    annotateDeviceWithBlkid rt facts d.listed = .ok d.identified := by
  have hpartitions : d.listed.partitions.mapM (fun p =>
      annotatePartitionWithBlkid rt p (facts.lookup p.path)) =
        .ok (d.partitions.map Partition.identified) := by
    refine mapM_map_eq_ok fun p hp => ?_
    rw [show p.listed.path = p.path from rfl, hfacts p hp]
    exact annotatePartitionWithBlkid_facts hrt (h.partitions p hp)
  rw [annotateDeviceWithBlkid]
  split
  case h_1 e he => cases hpartitions.symm.trans he
  case h_2 partitions hmapM =>
    obtain rfl := Except.ok.inj (hpartitions.symm.trans hmapM)
    rfl

end Identified

/-! ### The mounts -/

mutual

/-- A tree of mounts is read back, if the walk may go as deep as it. -/
theorem parseMountEntry_findmntEntry (hrt : RegularRuntime rt) (tree : MountTree) :
    ∀ (limit : ℕ) (parent : Option String), tree.depth ≤ limit →
      (∀ mount ∈ tree.mounts parent, ConsistentMount mount) →
      parseMountEntry rt limit tree.findmntEntry parent = .ok (tree.mounts parent) := by
  intro limit parent hdepth hmounts
  obtain ⟨source, target, fstype, options, children⟩ := tree
  rw [MountTree.depth] at hdepth
  rw [MountTree.mounts, List.forall_mem_cons] at hmounts
  obtain ⟨hmount, hbelow⟩ := hmounts
  obtain ⟨limit, rfl⟩ : ∃ n, limit = n + 1 := ⟨limit - 1, by omega⟩
  obtain ⟨walks, hwalks, hflatten⟩ := mapM_findmntEntries hrt children limit (some target)
    (by omega) hbelow
  have hmake : MountEntry.make rt source target fstype options parent =
      .ok { source, target, fstype, options, parent } :=
    MountEntry.make_of_accepts (hrt.acceptsText _) (hrt.acceptsText _) (hrt.acceptsText _)
      (hrt.acceptsText _) fun _ _ => hrt.acceptsText _
  rw [parseMountEntry, MountTree.findmntEntry, requireStr_of_lookup rfl hmount.target, ok_bind,
    requireStr_of_lookup rfl hmount.source, ok_bind, requireStr_of_lookup rfl hmount.fstype,
    ok_bind, requireStr_of_lookup rfl hmount.options, ok_bind, hmake, ok_bind, childrenOf,
    Json.get_obj, ok_bind]
  change (findmntEntries children).mapM (fun child =>
    parseMountEntry rt limit child (some target)) >>= _ = _
  rw [hwalks, ok_bind, hflatten, MountTree.mounts]
  rfl

/-- So is a forest of mounts, tree by tree. -/
theorem mapM_findmntEntries (hrt : RegularRuntime rt) (trees : List MountTree) :
    ∀ (limit : ℕ) (parent : Option String), forestDepth trees ≤ limit →
      (∀ mount ∈ forestMounts parent trees, ConsistentMount mount) →
      ∃ walks, (findmntEntries trees).mapM (fun entry => parseMountEntry rt limit entry parent) =
        .ok walks ∧ walks.flatten = forestMounts parent trees := by
  intro limit parent hdepth hmounts
  cases trees with
  | nil => exact ⟨[], rfl, rfl⟩
  | cons tree trees =>
    rw [forestDepth, Nat.max_le] at hdepth
    rw [forestMounts, List.forall_mem_append] at hmounts
    obtain ⟨walks, hwalks, hflatten⟩ :=
      mapM_findmntEntries hrt trees limit parent hdepth.2 hmounts.2
    have htree := parseMountEntry_findmntEntry hrt tree limit parent hdepth.1 hmounts.1
    refine ⟨tree.mounts parent :: walks, ?_, ?_⟩
    · rw [findmntEntries, List.mapM_cons, htree, hwalks]
      rfl
    · rw [List.flatten_cons, hflatten, forestMounts]

end

theorem isObj_findmntEntries (trees : List MountTree) :
    ∀ entry ∈ findmntEntries trees, entry.isObj = true := by
  induction trees with
  | nil => exact List.forall_mem_nil _
  | cons tree trees ih =>
    rw [findmntEntries, List.forall_mem_cons]
    exact ⟨by cases tree; rfl, ih⟩

theorem parseFindmnt_findmntOutput (hrt : RegularRuntime rt) {forest : List MountTree}
    (hdepth : forestDepth forest ≤ rt.recursionLimit)
    (hmounts : ∀ mount ∈ forestMounts none forest, ConsistentMount mount) {text : String}
    (h : rt.loads text = .ok (findmntOutput forest)) :
    parseFindmnt rt text = .ok (forestMounts none forest) := by
  obtain ⟨walks, hwalks, hflatten⟩ := mapM_findmntEntries hrt forest _ none hdepth hmounts
  rw [parseFindmnt, (loadJson_eq_ok_iff text "findmnt" _).mpr ⟨_, h, rfl⟩, ok_bind,
    requireList_singleton "filesystems" "findmnt" (isObj_findmntEntries forest), ok_bind, hwalks,
    ok_bind, hflatten]
  rfl

/-- The last mount of its path completes a partition. -/
theorem annotatePartitionWithMount_identified {mounts : List MountEntry} {p : Partition}
    (h : ConsistentPartition mounts p) :
    annotatePartitionWithMount p.identified (lastMount mounts p.path) = p := by
  obtain ⟨name, path, number, sizeBytes, partuuid, parttype, filesystem, mountPoint⟩ := p
  have hmounted := h.mounted
  have hfilesystem := h.filesystem
  dsimp only at hmounted hfilesystem ⊢
  cases hlast : lastMount mounts path with
  | none =>
    cases filesystem with
    | none => rfl
    | some filesystem =>
      obtain ⟨-, -, -, -, hpoint, hoptions⟩ := hfilesystem filesystem rfl
      rw [hlast] at hpoint hoptions
      cases filesystem
      obtain rfl := hpoint
      obtain rfl := hoptions
      rfl
  | some mount =>
    obtain rfl := hmounted mount hlast
    cases filesystem with
    | none => rfl
    | some filesystem =>
      obtain ⟨-, -, -, -, hpoint, hoptions⟩ := hfilesystem filesystem rfl
      rw [hlast] at hpoint hoptions
      cases filesystem
      obtain rfl := hpoint
      obtain rfl := hoptions
      rfl

theorem annotateDeviceWithMounts_identified {mounts : List MountEntry} {d : BlockDevice}
    (h : ConsistentDevice mounts d) : annotateDeviceWithMounts mounts d.identified = d := by
  have hpartitions : (d.partitions.map Partition.identified).map (fun p =>
      annotatePartitionWithMount p (lastMount mounts p.path)) = d.partitions := by
    rw [List.map_map]
    refine (List.map_congr_left fun p hp => ?_).trans (List.map_id _)
    exact annotatePartitionWithMount_identified (h.partitions p hp)
  have hmounted := h.mounted
  obtain ⟨name, path, deviceType, sizeBytes, isRemovable, isReadOnly, isNvme, model, vendor, serial,
    partitions, mountPoint, hnumbers⟩ := d
  dsimp only at hmounted hpartitions
  rw [annotateDeviceWithMounts]
  simp only [lookup_mountsBySource, BlockDevice.identified, BlockDevice.withPartitions, hpartitions]
  cases hlast : lastMount mounts path with
  | none => rfl
  | some mount =>
    obtain rfl := hmounted mount hlast
    rfl

/-! ### The topology -/

/-- **The round trip of a topology**: a consistent topology, with its mounts as those of a forest
that is not deeper than the interpreter can walk, is read from the outputs of the tools. -/
theorem parseStorageTopology_printed (hrt : RegularRuntime rt) {c : StorageConfiguration}
    (hc : Consistent c) {forest : List MountTree} (hforest : c.mounts = forestMounts none forest)
    (hdepth : forestDepth forest ≤ rt.recursionLimit) {lsblk blkid findmnt : String}
    (hlsblk : rt.loads lsblk = .ok c.lsblkOutput) (hblkid : rt.loads blkid = .ok c.blkidOutput)
    (hfindmnt : rt.loads findmnt = .ok (findmntOutput forest)) :
    parseStorageTopology rt lsblk blkid findmnt = .ok c := by
  obtain ⟨facts, hfacts, hlookup⟩ := parseBlkid_blkidOutput hc hblkid
  have hidentified : (c.devices.map BlockDevice.listed).mapM (annotateDeviceWithBlkid rt facts) =
      .ok (c.devices.map BlockDevice.identified) :=
    mapM_map_eq_ok fun d hd => annotateDeviceWithBlkid_listed hrt (hc.devices d hd) fun p hp =>
      hlookup p (List.mem_flatMap.mpr ⟨d, hd, hp⟩)
  have hmounts : parseFindmnt rt findmnt = .ok c.mounts := by
    rw [hforest]
    exact parseFindmnt_findmntOutput hrt hdepth (hforest ▸ hc.mounts) hfindmnt
  have hdevices : (c.devices.map BlockDevice.identified).map (annotateDeviceWithMounts c.mounts) =
      c.devices := by
    rw [List.map_map]
    refine (List.map_congr_left fun d hd => ?_).trans (List.map_id _)
    exact annotateDeviceWithMounts_identified (hc.devices d hd)
  rw [parseStorageTopology, parseLsblk_lsblkOutput hrt hc hlsblk, ok_bind, hfacts, ok_bind,
    hidentified, ok_bind, hmounts, ok_bind, hdevices, StorageConfiguration.make,
    dif_pos c.paths_nodup]
  rfl

/-- A disk with one partition, which is mounted at the root. -/
def rootTopology : StorageConfiguration where
  devices := [{
    name := "sda"
    path := "/dev/sda"
    deviceType := "disk"
    sizeBytes := some 2048
    isRemovable := false
    isReadOnly := false
    isNvme := false
    partitions := [{
      name := "sda1"
      path := "/dev/sda1"
      number := ⟨1, Nat.one_pos⟩
      filesystem := some
        { fsType := some "ext4", mountOptions := some "rw", mountPoint := some "/" }
      mountPoint := some "/" }]
    numbers_nodup := List.nodup_singleton _ }]
  mounts := [{ source := "/dev/sda1", target := "/", fstype := "ext4", options := "rw" }]
  paths_nodup := List.nodup_singleton _

/-- Its mounts. -/
def rootForest : List MountTree := [.node "/dev/sda1" "/" "ext4" "rw" []]

/-- What `lsblk` prints of it. -/
def rootLsblk : String :=
  "\x7b\"blockdevices\": [\x7b\"name\": \"sda\", \"type\": \"disk\", \"ro\": false, " ++
  "\"rm\": false, \"size\": 2048, \"model\": null, \"vendor\": null, \"serial\": null, " ++
  "\"mountpoints\": [null], \"children\": [\x7b\"name\": \"sda1\", \"partn\": 1, " ++
  "\"size\": null, \"mountpoints\": [\"/\"]\x7d]\x7d]\x7d"

/-- What `blkid` prints of it. -/
def rootBlkid : String :=
  "\x7b\"blockdevices\": [\x7b\"name\": \"/dev/sda1\", \"type\": \"ext4\", \"uuid\": null, " ++
  "\"label\": null, \"partuuid\": null, \"parttype\": null\x7d]\x7d"

/-- What `findmnt` prints of it. -/
def rootFindmnt : String :=
  "\x7b\"filesystems\": [\x7b\"target\": \"/\", \"source\": \"/dev/sda1\", " ++
  "\"fstype\": \"ext4\", \"options\": \"rw\", \"children\": []\x7d]\x7d"

/-- A runtime that reads these texts. -/
def rootRuntime : ModelRuntime where
  text := asciiText
  loads text :=
    if text = rootLsblk then .ok rootTopology.lsblkOutput
    else if text = rootBlkid then .ok rootTopology.blkidOutput
    else if text = rootFindmnt then .ok (findmntOutput rootForest)
    else .error "Expecting value: line 1 column 1 (char 0)"
  reprJson value := value.typeName
  acceptsText _ := true
  coerceInt _ := .error "Input should be a valid integer"
  renderProblems model problems :=
    toString problems.length ++ " validation errors for " ++ model
  recursionLimit := 1000

theorem regularRuntime_root : RegularRuntime rootRuntime where
  acceptsText _ := rfl
  reprJson value := by cases value <;> simp [rootRuntime, Json.typeName]

theorem loads_root : rootRuntime.loads rootLsblk = .ok rootTopology.lsblkOutput ∧
    rootRuntime.loads rootBlkid = .ok rootTopology.blkidOutput ∧
    rootRuntime.loads rootFindmnt = .ok (findmntOutput rootForest) := by
  have hblkid : rootBlkid ≠ rootLsblk := by decide +kernel
  have hfindmnt : rootFindmnt ≠ rootLsblk ∧ rootFindmnt ≠ rootBlkid := by decide +kernel
  simp [rootRuntime, hblkid, hfindmnt]

theorem parseStorageTopology_printed_root :
    parseStorageTopology rootRuntime rootLsblk rootBlkid rootFindmnt = .ok rootTopology := by
  have hmount : ∀ mount ∈ rootTopology.mounts, ConsistentMount mount := by
    simp only [rootTopology, List.forall_mem_singleton]
    exact ⟨by decide, by decide, by decide, by decide⟩
  have hpartition : ∀ d ∈ rootTopology.devices, ∀ p ∈ d.partitions,
      ConsistentPartition rootTopology.mounts p := by
    simp only [rootTopology, List.forall_mem_singleton]
    refine ⟨by decide, by decide, by decide, by decide, fun filesystem h => ?_, by decide, ?_⟩
    · obtain rfl := Option.some.inj h
      exact ⟨by decide, by decide, by decide, by decide, by decide, by decide⟩
    · rintro mount h
      obtain rfl := Option.some.inj h
      rfl
  have hdevice : ∀ d ∈ rootTopology.devices, ConsistentDevice rootTopology.mounts d := by
    intro d hd
    have hpartitions := hpartition d hd
    obtain rfl := List.mem_singleton.mp hd
    exact ⟨by decide, by decide, by decide, by decide, hpartitions, by decide,
      fun mount h => absurd (show none = some mount from h) (Option.some_ne_none mount).symm⟩
  have hsame : ∀ p ∈ rootTopology.partitions, ∀ q ∈ rootTopology.partitions,
      p.path = q.path → p.facts = q.facts := by
    intro p hp q hq _
    rw [List.mem_singleton.mp hp, List.mem_singleton.mp hq]
  exact parseStorageTopology_printed regularRuntime_root ⟨hdevice, hmount, hsame⟩ rfl
    (by decide) loads_root.1 loads_root.2.1 loads_root.2.2

end ClassroomSuite.Platform.Storage
