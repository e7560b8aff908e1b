import ClassroomSuite.Platform.Storage.RoundTrip

/-!
# Every topology that is read is consistent

Whatever the tools print, the topology that the parser returns fits together, so that the consistent
topologies are exactly those that are read from some outputs. What comes from the entries of the
tools has been put together already (`MergedDevice`); what is left are the names, which the parser
requires, and the texts, which count only if they are not empty.

Source: `cli/src/bcs/platform/adapters/storage/parser.py`.

## Main definitions

* `Named`: the names that the parser requires.

## Main results

* `exists_forest_of_walk`.
* `consistent_of_parse`.
-/

namespace ClassroomSuite.Platform.Storage

open Python Library

variable {rt : ModelRuntime}

/-! ### What is read -/

theorem requireStr_ne {entry : Json} {key tool context s : String}
    (h : requireStr rt entry key tool context = .ok s) : s ≠ "" := by
  obtain ⟨value, -, h⟩ := bind_eq_ok_iff.mp h
  cases value with
  | str t =>
    by_cases ht : t = ""
    · simp [ht] at h
    · have hst : t = s := by simpa [ht] using h
      exact hst ▸ ht
  | _ => cases h

/-- The mounts that a walk returns are those of a forest that is not deeper than the walk, and their
texts are not empty. -/
theorem exists_forest_of_walk {limit : ℕ} {parent : Option String} {entries : List Json}
    {walks : List (List MountEntry)}
    (h : entries.mapM (fun entry => parseMountEntry rt limit entry parent) = .ok walks) :
    ∃ trees, walks.flatten = forestMounts parent trees ∧ forestDepth trees ≤ limit ∧
      ∀ mount ∈ walks.flatten, ConsistentMount mount := by
  induction limit generalizing parent entries walks with
  | zero =>
    cases (mapM_eq_ok_iff _ _ _).mp h with
    | nil => exact ⟨[], rfl, Nat.le_refl 0, List.forall_mem_nil _⟩
    | cons hentry _ => cases hentry
  | succ limit ih =>
    have hall := (mapM_eq_ok_iff _ _ _).mp h
    clear h
    induction hall with
    | nil => exact ⟨[], rfl, Nat.zero_le _, List.forall_mem_nil _⟩
    | cons hentry _ ihrest =>
      rw [parseMountEntry] at hentry
      obtain ⟨target, htarget, hentry⟩ := bind_eq_ok_iff.mp hentry
      obtain ⟨source, hsource, hentry⟩ := bind_eq_ok_iff.mp hentry
      obtain ⟨fstype, hfstype, hentry⟩ := bind_eq_ok_iff.mp hentry
      obtain ⟨options, hoptions, hentry⟩ := bind_eq_ok_iff.mp hentry
      obtain ⟨mount, hmount, hentry⟩ := bind_eq_ok_iff.mp hentry
      obtain ⟨children, -, hentry⟩ := bind_eq_ok_iff.mp hentry
      obtain ⟨below, hbelow, hentry⟩ := bind_eq_ok_iff.mp hentry
      obtain rfl := MountEntry.make_ok hmount
      obtain rfl := Except.ok.inj hentry
      obtain ⟨children', hchildren', hdepth', hbelow'⟩ := ih hbelow
      obtain ⟨trees, hrest, hdepth, hmounts⟩ := ihrest
      refine ⟨.node source target fstype options children' :: trees, ?_, ?_, ?_⟩
      · rw [List.flatten_cons, hrest, hchildren', forestMounts, MountTree.mounts]
      · rw [forestDepth, MountTree.depth, Nat.max_le]
        exact ⟨Nat.succ_le_succ hdepth', hdepth⟩
      · rw [List.flatten_cons, List.forall_mem_append, List.forall_mem_cons]
        exact ⟨⟨⟨requireStr_ne hsource, requireStr_ne htarget, requireStr_ne hfstype,
          requireStr_ne hoptions⟩, hbelow'⟩, hmounts⟩

/-- What a value that counts as true is shown as is not empty. -/
theorem pyStr_ne (hrt : RegularRuntime rt) {value : Json} (h : value.truthy = true) :
    pyStr rt value ≠ "" := by
  cases value with
  | str s => simpa [Json.truthy, pyStr] using h
  | _ => exact hrt.reprJson _

theorem textOf_ne (hrt : RegularRuntime rt) (value : Json) : textOf rt value ≠ some "" := by
  rw [textOf]
  split_ifs with htruthy
  · exact fun h => pyStr_ne hrt htruthy (Option.some.inj h)
  · exact (Option.some_ne_none "").symm

theorem reported_ne (hrt : RegularRuntime rt) (entry : Option Json) (key : String) :
    reported rt entry key ≠ some "" := by
  cases entry with
  | none => exact (Option.some_ne_none "").symm
  | some entry => exact textOf_ne hrt _

theorem lsblkMountPoint_ne (hrt : RegularRuntime rt) (entry : Json) :
    lsblkMountPoint rt entry ≠ some "" := by
  rw [lsblkMountPoint]
  split
  · intro h
    obtain ⟨point, hpoint, hshown⟩ := Option.map_eq_some_iff.mp h
    exact pyStr_ne hrt (List.find?_some hpoint) hshown
  · exact textOf_ne hrt _

theorem mergedMountPoint_ne (hrt : RegularRuntime rt) {mounts : List MountEntry}
    (hmounts : ∀ mount ∈ mounts, ConsistentMount mount) (path : String) (entry : Json) :
    mergedMountPoint rt mounts path entry ≠ some "" := by
  rw [mergedMountPoint]
  cases hlast : lastMount mounts path with
  | none => exact lsblkMountPoint_ne hrt entry
  | some mount =>
    have hmount := hmounts mount (List.mem_reverse.mp (List.mem_of_find?_eq_some hlast))
    exact fun h => hmount.target (Option.some.inj h)

/-- The names that the parser requires are there, and a device is one of its kind by its name. -/
structure Named (d : BlockDevice) : Prop where
  name : d.name ≠ ""
  deviceType : d.deviceType ≠ ""
  isNvme : d.isNvme = startsWith d.name "nvme"
  partitions : ∀ name ∈ d.partitions.map Partition.name, name ≠ ""

theorem parsePartition_ne {entry : Json} {position : ℕ} {p : Partition}
    (h : parsePartition rt entry position = .ok p) : p.name ≠ "" := by
  obtain ⟨name, hname, h⟩ := bind_eq_ok_iff.mp h
  obtain ⟨partn, -, h⟩ := bind_eq_ok_iff.mp h
  obtain ⟨sizeBytes, -, h⟩ := bind_eq_ok_iff.mp h
  obtain ⟨mountPoint, -, h⟩ := bind_eq_ok_iff.mp h
  obtain ⟨n, size, -, -, rfl⟩ := Partition.make_ok h
  exact requireStr_ne hname

theorem named_of_parse {entry : Json} {d : BlockDevice} (h : parseBlockDevice rt entry = .ok d) :
    Named d := by
  obtain ⟨name, hname, h⟩ := bind_eq_ok_iff.mp h
  obtain ⟨deviceType, hdeviceType, h⟩ := bind_eq_ok_iff.mp h
  obtain ⟨isReadOnly, -, h⟩ := bind_eq_ok_iff.mp h
  obtain ⟨isRemovable, -, h⟩ := bind_eq_ok_iff.mp h
  obtain ⟨children, -, h⟩ := bind_eq_ok_iff.mp h
  obtain ⟨partitions, hpartitions, h⟩ := bind_eq_ok_iff.mp h
  obtain ⟨sizeBytes, -, h⟩ := bind_eq_ok_iff.mp h
  obtain ⟨model, -, h⟩ := bind_eq_ok_iff.mp h
  obtain ⟨vendor, -, h⟩ := bind_eq_ok_iff.mp h
  obtain ⟨serial, -, h⟩ := bind_eq_ok_iff.mp h
  obtain ⟨mountPoint, -, h⟩ := bind_eq_ok_iff.mp h
  obtain ⟨⟨name', path', deviceType', size, model', vendor', serial', mountPoint'⟩, hfields,
    hreturn⟩ := bind_eq_ok_iff.mp ((construct_eq_ok_iff rt).mp h)
  simp only [both_eq_ok_iff] at hfields
  obtain ⟨hname', -, hdeviceType', -⟩ := hfields
  obtain rfl := textField_ok rt hname'
  obtain rfl := textField_ok rt hdeviceType'
  dsimp only at hreturn
  split_ifs at hreturn
  obtain rfl := Except.ok.inj hreturn
  refine ⟨requireStr_ne hname, requireStr_ne hdeviceType, rfl, ?_⟩
  rw [List.forall_mem_map]
  intro p hp
  obtain ⟨child, -, hchild⟩ :=
    exists_mem_of_forall₂ ((mapM_eq_ok_iff _ _ _).mp hpartitions).flip hp
  exact parsePartition_ne hchild

/-- The annotation with the filesystems leaves the names as they are. -/
theorem Named.annotateWithBlkid {facts : List (String × BlkidFacts)} {d d' : BlockDevice}
    (h : Named d) (hd' : annotateDeviceWithBlkid rt facts d = .ok d') : Named d' := by
  obtain ⟨partitions, hnumbers, rfl, hannotated⟩ := annotateDeviceWithBlkid_ok hd'
  refine ⟨h.name, h.deviceType, h.isNvme, ?_⟩
  have hnames : partitions.map Partition.name = d.partitions.map Partition.name := by
    refine (List.forall₂_eq_eq_eq ▸ (List.forall₂_map_left_iff.mpr
      (List.forall₂_map_right_iff.mpr (hannotated.flip.imp fun p' p hp => ?_))) :
        partitions.map Partition.name = d.partitions.map Partition.name)
    cases hlookup : facts.lookup p.path with
    | none =>
      rw [hlookup] at hp
      rw [← Except.ok.inj hp]
    | some found =>
      rw [hlookup] at hp
      rw [annotatePartitionWithBlkid_ok hp]
  exact fun name hname => h.partitions name (hnames ▸ hname)

/-- So does the annotation with the mounts. -/
theorem Named.annotateWithMounts {d : BlockDevice} (h : Named d) (mounts : List MountEntry) :
    Named (annotateDeviceWithMounts mounts d) := by
  have hnames : (d.partitions.map fun p =>
      annotatePartitionWithMount p ((mountsBySource mounts).lookup p.path)).map Partition.name =
        d.partitions.map Partition.name := by
    rw [List.map_map]
    refine List.map_congr_left fun p _ => ?_
    rw [Function.comp_apply]
    cases (mountsBySource mounts).lookup p.path <;> rfl
  rw [annotateDeviceWithMounts]
  cases (mountsBySource mounts).lookup d.path with
  | none => exact ⟨h.name, h.deviceType, h.isNvme, fun name hname =>
      h.partitions name (hnames ▸ hname)⟩
  | some mount => exact ⟨h.name, h.deviceType, h.isNvme, fun name hname =>
      h.partitions name (hnames ▸ hname)⟩

/-- What identifies a merged partition is what the last entry of its path reports. -/
theorem MergedPartition.facts_eq {blkid : List Json} {mounts : List MountEntry} {entry : Json}
    {position : ℕ} {p : Partition} (h : MergedPartition rt blkid mounts entry position p) :
    p.facts = {
      fsType := reported rt (lastNamed blkid p.path) "type"
      uuid := reported rt (lastNamed blkid p.path) "uuid"
      label := reported rt (lastNamed blkid p.path) "label"
      partuuid := reported rt (lastNamed blkid p.path) "partuuid"
      parttype := reported rt (lastNamed blkid p.path) "parttype" } := by
  rw [Partition.facts, h.partuuid, h.parttype]
  cases hfilesystem : p.filesystem with
  | some filesystem => rw [h.filesystem filesystem hfilesystem]; rfl
  | none =>
    have hnone := h.filesystem_none.mp hfilesystem
    cases hlast : lastNamed blkid p.path with
    | none => rfl
    | some last =>
      obtain ⟨htype, huuid, hlabel⟩ := hnone last hlast
      simp [reported, htype, huuid, hlabel]

/-- A merged partition with a name is consistent. -/
theorem MergedPartition.consistent (hrt : RegularRuntime rt) {blkid : List Json}
    {mounts : List MountEntry} (hmounts : ∀ mount ∈ mounts, ConsistentMount mount) {entry : Json}
    {position : ℕ} {p : Partition} (h : MergedPartition rt blkid mounts entry position p)
    (hname : p.name ≠ "") : ConsistentPartition mounts p where
  name := hname
  path := h.path
  partuuid := h.partuuid ▸ reported_ne hrt _ _
  parttype := h.parttype ▸ reported_ne hrt _ _
  filesystem filesystem hfilesystem := by
    have hfields := h.filesystem filesystem hfilesystem
    refine ⟨?_, ?_, ?_, ?_, ?_, ?_⟩
    · rintro ⟨htype, huuid, hlabel⟩
      rw [hfields] at htype huuid hlabel
      have hnone : p.filesystem = none := h.filesystem_none.mpr fun facts hfacts => by
        rw [hfacts] at htype huuid hlabel
        exact ⟨htype, huuid, hlabel⟩
      exact Option.some_ne_none filesystem (hfilesystem.symm.trans hnone)
    · rw [hfields]
      exact reported_ne hrt _ _
    · rw [hfields]
      exact reported_ne hrt _ _
    · rw [hfields]
      exact reported_ne hrt _ _
    · rw [hfields]
    · rw [hfields]
  mountPoint := h.mountPoint ▸ mergedMountPoint_ne hrt hmounts _ _
  mounted mount hlast := by
    rw [h.mountPoint, mergedMountPoint, hlast]
    rfl

/-- **What is read is consistent**: the topology that the parser returns fits together, whatever
the outputs of the tools, and its mounts are those of a forest. -/
theorem consistent_of_parse (hrt : RegularRuntime rt) {lsblk blkid findmnt : String}
    {c : StorageConfiguration} (h : parseStorageTopology rt lsblk blkid findmnt = .ok c) :
    Consistent c ∧ ∃ forest, c.mounts = forestMounts none forest ∧
      forestDepth forest ≤ rt.recursionLimit := by
  obtain ⟨lsblkEntries, blkidEntries, -, -, -, -, hmerged, -⟩ := devices_and_mounts_of_parse h
  obtain ⟨listed, hlisted, h⟩ := bind_eq_ok_iff.mp h
  obtain ⟨facts, -, h⟩ := bind_eq_ok_iff.mp h
  obtain ⟨identified, hidentified, h⟩ := bind_eq_ok_iff.mp h
  obtain ⟨mounts, hmounts, h⟩ := bind_eq_ok_iff.mp h
  obtain ⟨_, -, hlisted⟩ := bind_eq_ok_iff.mp hlisted
  obtain ⟨_, -, hlisted⟩ := bind_eq_ok_iff.mp hlisted
  obtain ⟨_, -, hmounts⟩ := bind_eq_ok_iff.mp hmounts
  obtain ⟨_, -, hmounts⟩ := bind_eq_ok_iff.mp hmounts
  obtain ⟨walks, hwalks, hmounts⟩ := bind_eq_ok_iff.mp hmounts
  obtain rfl := Except.ok.inj hmounts
  obtain ⟨forest, hforest, hdepth, hconsistent⟩ := exists_forest_of_walk hwalks
  rw [StorageConfiguration.make, construct_eq_ok_iff] at h
  split_ifs at h
  obtain rfl := Except.ok.inj h
  have hnamed : ∀ d ∈ identified.map (annotateDeviceWithMounts walks.flatten), Named d := by
    rw [List.forall_mem_map]
    intro d hd
    obtain ⟨d', hd', hd⟩ :=
      exists_mem_of_forall₂ ((mapM_eq_ok_iff _ _ _).mp hidentified).flip hd
    obtain ⟨entry, -, hentry⟩ := exists_mem_of_forall₂ ((mapM_eq_ok_iff _ _ _).mp hlisted).flip hd'
    exact ((named_of_parse hentry).annotateWithBlkid hd).annotateWithMounts _
  have hdevice : ∀ d ∈ identified.map (annotateDeviceWithMounts walks.flatten),
      ∃ entry, MergedDevice rt blkidEntries walks.flatten entry d := by
    intro d hd
    obtain ⟨entry, -, hentry⟩ := exists_mem_of_forall₂ hmerged.flip hd
    exact ⟨entry, hentry⟩
  have hpartition : ∀ d ∈ identified.map (annotateDeviceWithMounts walks.flatten),
      ∀ p ∈ d.partitions, ∃ entry position,
        MergedPartition rt blkidEntries walks.flatten entry position p := by
    intro d hd p hp
    obtain ⟨entry, hentry⟩ := hdevice d hd
    obtain ⟨children, -, hchildren⟩ := hentry.partitions
    obtain ⟨child, -, hchild⟩ := exists_mem_of_forall₂ hchildren.flip hp
    exact ⟨child.1, child.2, hchild⟩
  refine ⟨⟨fun d hd => ?_, hconsistent, fun p hp q hq hpath => ?_⟩, forest, hforest, hdepth⟩
  · obtain ⟨hname, hdeviceType, hisNvme, hnames⟩ := hnamed d hd
    obtain ⟨entry, hentry⟩ := hdevice d hd
    refine ⟨hname, hentry.path, hdeviceType, hisNvme, fun p hp => ?_, ?_, fun mount hlast => ?_⟩
    · obtain ⟨child, position, hchild⟩ := hpartition d hd p hp
      exact hchild.consistent hrt hconsistent (hnames p.name (List.mem_map_of_mem hp))
    · exact hentry.mountPoint ▸ mergedMountPoint_ne hrt hconsistent _ _
    · rw [hentry.mountPoint, mergedMountPoint, hlast]
      rfl
  · obtain ⟨d, hd, hp⟩ := List.mem_flatMap.mp hp
    obtain ⟨d', hd', hq⟩ := List.mem_flatMap.mp hq
    obtain ⟨_, _, hp⟩ := hpartition d hd p hp
    obtain ⟨_, _, hq⟩ := hpartition d' hd' q hq
    rw [hp.facts_eq, hq.facts_eq, hpath]

theorem consistent_of_parse_root : Consistent rootTopology ∧
    ∃ forest, rootTopology.mounts = forestMounts none forest ∧ forestDepth forest ≤ 1000 := by
  have hparse : parseStorageTopology rootRuntime rootLsblk rootBlkid rootFindmnt =
      .ok rootTopology := by
    simp only [parseStorageTopology, parseLsblk, parseBlkid, parseFindmnt, loadJson, loads_root]
    rfl
  exact consistent_of_parse regularRuntime_root hparse

end ClassroomSuite.Platform.Storage
