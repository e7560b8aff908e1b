import ClassroomSuite.Platform.Storage.Strays

/-!
# What the merged topology holds

The devices are those of `lsblk`, and their partitions the children there. The last entry of `blkid`
that has the path of a partition as its name says what the partition holds, and the last mount whose
source is the path of a partition or of a device says where it is mounted. The mounts are those of
`findmnt`, each before the mounts below it. The annotations copy devices without validating them
again, and still keep what was validated.

Source: `cli/src/bcs/platform/adapters/storage/parser.py`.

## Main definitions

* `lastNamed`, `lastMount`: the entries that decide.
* `MountsInOrder`: the walk of the mounts.
* `ReportedSize`: the size that a value stands for.
* `MergedPartition`, `MergedDevice`, `Merged`: the topology that the three lists of entries give.

## Main results

* `parseStorageTopology_merged`.
-/

namespace ClassroomSuite.Platform.Storage

open Python Library

variable (rt : ModelRuntime)

/-! ### The sources of the fields -/

/-- Whether a value is this text. -/
def isText (s : String) : Json → Bool
  | .str t => t = s
  | _ => false

/-- The last entry that has the name. -/
def lastNamed (entries : List Json) (name : String) : Option Json :=
  entries.reverse.find? fun entry => isText name (entry.field "name")

/-- The last mount of the source. -/
def lastMount (mounts : List MountEntry) (source : String) : Option MountEntry :=
  mounts.reverse.find? fun mount => mount.source = source

/-- The text of a value that counts as true. -/
def textOf (value : Json) : Option String :=
  if value.truthy then some (pyStr rt value) else none

/-- The text under a key of an entry, if there is an entry. -/
def reported (entry : Option Json) (key : String) : Option String :=
  entry.bind fun entry => textOf rt (entry.field key)

/-- The facts that an entry of `blkid` reports. -/
def factsOf (entry : Json) : BlkidFacts where
  fsType := textOf rt (entry.field "type")
  uuid := textOf rt (entry.field "uuid")
  label := textOf rt (entry.field "label")
  partuuid := textOf rt (entry.field "partuuid")
  parttype := textOf rt (entry.field "parttype")

/-- Where an entry of `lsblk` is mounted. -/
def lsblkMountPoint (entry : Json) : Option String :=
  match entry.field "mountpoints" with
  | .arr points => (points.find? Json.truthy).map (pyStr rt)
  | _ => textOf rt (entry.field "mountpoint")

/-- The last mount of the path, or else the mount point in `lsblk`. -/
def mergedMountPoint (mounts : List MountEntry) (path : String) (entry : Json) : Option String :=
  ((lastMount mounts path).map MountEntry.target).or (lsblkMountPoint rt entry)

/-! ### The merged topology -/

/-- The mounts of some entries below a parent: each before the mounts below it, and these before the
next one. -/
inductive MountsInOrder : Option String → List Json → List MountEntry → Prop
  | nil (parent : Option String) : MountsInOrder parent [] []
  | cons {parent : Option String} {entry : Json} {entries children : List Json} {mount : MountEntry}
      {below mounts : List MountEntry} (target : entry.field "target" = .str mount.target)
      (source : entry.field "source" = .str mount.source)
      (fstype : entry.field "fstype" = .str mount.fstype)
      (options : entry.field "options" = .str mount.options) (hparent : mount.parent = parent)
      (hchildren : entry.field "children" (.arr []) = .arr children)
      (hbelow : MountsInOrder (some mount.target) children below)
      (rest : MountsInOrder parent entries mounts) :
      MountsInOrder parent (entry :: entries) (mount :: below ++ mounts)

/-- The size that a value stands for: null for none, an integer for itself, and another value for
the integer that it counts as. -/
structure ReportedSize (value : Json) (size : Option ℕ) : Prop where
  absent : value = .null → size = none
  integer : ∀ i : ℤ, value = .int i → ∃ n : ℕ, (n : ℤ) = i ∧ size = some n
  other : value ≠ .null → (∀ i : ℤ, value ≠ .int i) →
    ∃ n : ℕ, rt.coerceInt value = .ok n ∧ size = some n

/-- The partition that an entry of `lsblk`, at its position among the children, gives together with
the entries of `blkid` and the mounts. -/
structure MergedPartition (blkid : List Json) (mounts : List MountEntry) (entry : Json)
    (position : ℕ) (p : Partition) : Prop where
  name : entry.field "name" = .str p.name
  path : p.path = "/dev/" ++ p.name
  number_of_partn : ∀ i : ℤ, entry.field "partn" = .int i → (p.number : ℤ) = i
  number_of_position : (∀ i : ℤ, entry.field "partn" ≠ .int i) → (p.number : ℕ) = position
  size : ReportedSize rt (entry.field "size") p.sizeBytes
  partuuid : p.partuuid = reported rt (lastNamed blkid p.path) "partuuid"
  parttype : p.parttype = reported rt (lastNamed blkid p.path) "parttype"
  filesystem_none : p.filesystem = none ↔ ∀ facts, lastNamed blkid p.path = some facts →
    textOf rt (facts.field "type") = none ∧ textOf rt (facts.field "uuid") = none ∧
      textOf rt (facts.field "label") = none
  filesystem : ∀ filesystem, p.filesystem = some filesystem → filesystem = {
    fsType := reported rt (lastNamed blkid p.path) "type"
    uuid := reported rt (lastNamed blkid p.path) "uuid"
    label := reported rt (lastNamed blkid p.path) "label"
    mountOptions := (lastMount mounts p.path).map MountEntry.options
    mountPoint := (lastMount mounts p.path).map MountEntry.target }
  mountPoint : p.mountPoint = mergedMountPoint rt mounts p.path entry

/-- The device that an entry of `lsblk` gives together with the entries of `blkid` and the
mounts. -/
structure MergedDevice (blkid : List Json) (mounts : List MountEntry) (entry : Json)
    (d : BlockDevice) : Prop where
  name : entry.field "name" = .str d.name
  path : d.path = "/dev/" ++ d.name
  size : ReportedSize rt (entry.field "size") d.sizeBytes
  partitions : ∃ children, entry.field "children" (.arr []) = .arr children ∧
    List.Forall₂ (fun child p => MergedPartition rt blkid mounts child.1 child.2 p)
      (children.zipIdx 1) d.partitions
  numbers : (d.partitions.map Partition.number).Nodup
  mountPoint : d.mountPoint = mergedMountPoint rt mounts d.path entry

/-- The topology that the entries of the three tools give. -/
structure Merged (lsblk blkid findmnt : List Json) (c : StorageConfiguration) : Prop where
  devices : List.Forall₂ (MergedDevice rt blkid c.mounts) lsblk c.devices
  paths : (c.devices.map BlockDevice.path).Nodup
  mounts : MountsInOrder none findmnt c.mounts

/-! ### The parsers -/

section Parsers

variable {rt}

theorem requireStr_ok {entry : Json} {key tool context s : String}
    (h : requireStr rt entry key tool context = .ok s) : entry.field key = .str s := by
  obtain ⟨value, hvalue, h⟩ := bind_eq_ok_iff.mp h
  rw [Json.field_of_get hvalue]
  cases value with
  | str t =>
    by_cases ht : t = ""
    · simp [ht] at h
    · simpa [ht] using h
  | _ => cases h

theorem childrenOf_ok {entry : Json} {problem : String} {children : List Json}
    (h : childrenOf entry problem = .ok children) :
    entry.field "children" (.arr []) = .arr children := by
  obtain ⟨value, hvalue, h⟩ := bind_eq_ok_iff.mp h
  rw [Json.field_of_get hvalue]
  cases value with
  | arr items => exact congrArg Json.arr (Except.ok.inj h)
  | _ => cases h

theorem optionalStr_ok {entry : Json} {key : String} {s : Option String}
    (h : optionalStr rt entry key = .ok s) : s = textOf rt (entry.field key) := by
  obtain ⟨value, hvalue, h⟩ := bind_eq_ok_iff.mp h
  rw [Json.field_of_get hvalue]
  exact (Except.ok.inj h).symm

theorem extractMountPoint_ok {entry : Json} {s : Option String}
    (h : extractMountPoint rt entry = .ok s) : s = lsblkMountPoint rt entry := by
  obtain ⟨value, hvalue, h⟩ := bind_eq_ok_iff.mp h
  rw [lsblkMountPoint, Json.field_of_get hvalue]
  cases value with
  | arr points => exact (Except.ok.inj h).symm
  | _ =>
    obtain ⟨single, hsingle, h⟩ := bind_eq_ok_iff.mp h
    rw [Json.field_of_get hsingle]
    exact (Except.ok.inj h).symm

/-- A size that is validated is the one that the value stands for. -/
theorem reportedSize_of_sizeField {field : String} {value : Json} {size : Option ℕ}
    (h : sizeField rt field value = .ok size) : ReportedSize rt value size where
  absent hvalue := sizeField_null rt (hvalue ▸ h)
  integer i hvalue := by
    subst hvalue
    obtain ⟨n, hn, hsize⟩ := sizeField_ok rt Json.noConfusion h
    exact ⟨n, (Except.ok.inj hn).symm, hsize⟩
  other hnull hint := by
    obtain ⟨n, hn, hsize⟩ := sizeField_ok rt hnull h
    refine ⟨n, ?_, hsize⟩
    rwa [countsAs] at hn
    exact hint

/-- A partition has the number that is reported of it. -/
theorem partitionNumber_of_int {partn : Json} {i : ℤ} (h : partn = .int i) (position : ℕ) :
    partitionNumber partn position = i := by
  rw [h, partitionNumber]

/-- A partition of which no number is reported has its position as its number. -/
theorem partitionNumber_of_not_int {partn : Json} (h : ∀ i : ℤ, partn ≠ .int i) (position : ℕ) :
    partitionNumber partn position = position := by
  rw [partitionNumber]
  exact h

/-- A list that is read is a list of objects in the output. -/
theorem lists_of_ok {text key tool : String} {root : Json} {entries : List Json}
    (hroot : loadJson rt text tool = .ok root)
    (hentries : requireList rt root key tool = .ok entries) : Lists rt text key entries := by
  obtain ⟨fields, hloads, rfl⟩ := (loadJson_eq_ok_iff text tool root).mp hroot
  exact ⟨fields, hloads, (requireList_obj_eq_ok_iff fields key tool entries).mp hentries⟩

/-! ### The models -/

theorem MountEntry.make_ok {source target fstype options : String} {parent : Option String}
    {mount : MountEntry} (h : MountEntry.make rt source target fstype options parent = .ok mount) :
    mount = { source, target, fstype, options, parent } := by
  obtain ⟨⟨source', target', fstype', options', parent'⟩, hfields, hreturn⟩ :=
    bind_eq_ok_iff.mp ((construct_eq_ok_iff rt).mp h)
  simp only [both_eq_ok_iff] at hfields
  obtain ⟨hsource, htarget, hfstype, hoptions, hparent⟩ := hfields
  obtain rfl := textField_ok rt hsource
  obtain rfl := textField_ok rt htarget
  obtain rfl := textField_ok rt hfstype
  obtain rfl := textField_ok rt hoptions
  obtain rfl := optionalTextField_ok rt hparent
  exact (Except.ok.inj hreturn).symm

theorem FilesystemInfo.make_ok {fsType uuid label : Option String} {filesystem : FilesystemInfo}
    (h : FilesystemInfo.make rt fsType uuid label = .ok filesystem) :
    filesystem = { fsType, uuid, label } := by
  obtain ⟨⟨fsType', uuid', label'⟩, hfields, hreturn⟩ :=
    bind_eq_ok_iff.mp ((construct_eq_ok_iff rt).mp h)
  simp only [both_eq_ok_iff] at hfields
  obtain ⟨hfsType, huuid, hlabel⟩ := hfields
  obtain rfl := optionalTextField_ok rt hfsType
  obtain rfl := optionalTextField_ok rt huuid
  obtain rfl := optionalTextField_ok rt hlabel
  exact (Except.ok.inj hreturn).symm

theorem Partition.make_ok {name path : String} {number : ℤ} {sizeBytes : Json}
    {mountPoint : Option String} {p : Partition}
    (h : Partition.make rt name path number sizeBytes mountPoint = .ok p) :
    ∃ (n : ℕ+) (size : Option ℕ), (n : ℤ) = number ∧
      sizeField rt "sizeBytes" sizeBytes = .ok size ∧
      p = { name, path, number := n, sizeBytes := size, mountPoint } := by
  obtain ⟨⟨name', path', n, size, mountPoint'⟩, hfields, hreturn⟩ :=
    bind_eq_ok_iff.mp ((construct_eq_ok_iff rt).mp h)
  simp only [both_eq_ok_iff] at hfields
  obtain ⟨hname, hpath, hnumber, hsize, hmountPoint⟩ := hfields
  obtain rfl := textField_ok rt hname
  obtain rfl := textField_ok rt hpath
  obtain rfl := optionalTextField_ok rt hmountPoint
  exact ⟨n, size, positiveField_ok hnumber, hsize, (Except.ok.inj hreturn).symm⟩

/-- A constructed device has what it is constructed from. -/
theorem BlockDevice.make_ok {name path deviceType : String} {sizeBytes model vendor serial : Json}
    {isRemovable isReadOnly isNvme : Bool} {partitions : List Partition}
    {mountPoint : Option String} {d : BlockDevice}
    (h : BlockDevice.make rt name path deviceType sizeBytes isRemovable isReadOnly isNvme model
      vendor serial partitions mountPoint = .ok d) :
    d.name = name ∧ d.path = path ∧ sizeField rt "sizeBytes" sizeBytes = .ok d.sizeBytes ∧
      d.partitions = partitions ∧ d.mountPoint = mountPoint := by
  obtain ⟨⟨name', path', deviceType', size, model', vendor', serial', mountPoint'⟩, hfields,
    hreturn⟩ := bind_eq_ok_iff.mp ((construct_eq_ok_iff rt).mp h)
  simp only [both_eq_ok_iff] at hfields
  obtain ⟨hname, hpath, -, hsize, -, -, -, hmountPoint⟩ := hfields
  obtain rfl := textField_ok rt hname
  obtain rfl := textField_ok rt hpath
  obtain rfl := optionalTextField_ok rt hmountPoint
  dsimp only at hreturn
  split_ifs at hreturn with hnumbers
  obtain rfl := Except.ok.inj hreturn
  exact ⟨rfl, rfl, hsize, rfl, rfl⟩

/-! ### The mounts -/

/-- A mount is followed by those below it. -/
theorem mountsInOrder_of_parse {limit : ℕ} {parent : Option String} {entries : List Json}
    {mounts : List (List MountEntry)}
    (h : entries.mapM (fun entry => parseMountEntry rt limit entry parent) = .ok mounts) :
    MountsInOrder parent entries mounts.flatten := by
  induction limit generalizing parent entries mounts with
  | zero =>
    cases (mapM_eq_ok_iff _ _ _).mp h with
    | nil => exact .nil parent
    | cons hentry _ => cases hentry
  | succ limit ih =>
    have hall := (mapM_eq_ok_iff _ _ _).mp h
    clear h
    induction hall with
    | nil => exact .nil parent
    | cons hentry _ ihrest =>
      rw [parseMountEntry] at hentry
      obtain ⟨target, htarget, hentry⟩ := bind_eq_ok_iff.mp hentry
      obtain ⟨source, hsource, hentry⟩ := bind_eq_ok_iff.mp hentry
      obtain ⟨fstype, hfstype, hentry⟩ := bind_eq_ok_iff.mp hentry
      obtain ⟨options, hoptions, hentry⟩ := bind_eq_ok_iff.mp hentry
      obtain ⟨mount, hmount, hentry⟩ := bind_eq_ok_iff.mp hentry
      obtain ⟨children, hchildren, hentry⟩ := bind_eq_ok_iff.mp hentry
      obtain ⟨below, hbelow, hentry⟩ := bind_eq_ok_iff.mp hentry
      obtain rfl := MountEntry.make_ok hmount
      obtain rfl := Except.ok.inj hentry
      exact .cons (requireStr_ok htarget) (requireStr_ok hsource) (requireStr_ok hfstype)
        (requireStr_ok hoptions) rfl (childrenOf_ok hchildren) (ih hbelow) ihrest

theorem parseFindmnt_ok {text : String} {mounts : List MountEntry}
    (h : parseFindmnt rt text = .ok mounts) :
    ∃ entries, Lists rt text "filesystems" entries ∧ MountsInOrder none entries mounts := by
  obtain ⟨root, hroot, h⟩ := bind_eq_ok_iff.mp h
  obtain ⟨entries, hentries, h⟩ := bind_eq_ok_iff.mp h
  obtain ⟨walks, hwalks, h⟩ := bind_eq_ok_iff.mp h
  obtain rfl := Except.ok.inj h
  exact ⟨entries, lists_of_ok hroot hentries, mountsInOrder_of_parse hwalks⟩

/-- A source leads to its last mount. -/
theorem lookup_mountsBySource (mounts : List MountEntry) (source : String) :
    (mountsBySource mounts).lookup source = lastMount mounts source := by
  have hlookup := lookup_foldl_assocSet MountEntry.source (fun mount => mount) mounts [] source
  rwa [List.lookup_nil, Option.or_none, Option.map_id'] at hlookup

/-! ### The filesystems -/

theorem parseBlkidEntry_ok {entry : Json} {byName : String × BlkidFacts}
    (h : parseBlkidEntry rt entry = .ok byName) :
    entry.field "name" = .str byName.1 ∧ byName.2 = factsOf rt entry := by
  obtain ⟨name, hname, h⟩ := bind_eq_ok_iff.mp h
  obtain ⟨fsType, hfsType, h⟩ := bind_eq_ok_iff.mp h
  obtain ⟨uuid, huuid, h⟩ := bind_eq_ok_iff.mp h
  obtain ⟨label, hlabel, h⟩ := bind_eq_ok_iff.mp h
  obtain ⟨partuuid, hpartuuid, h⟩ := bind_eq_ok_iff.mp h
  obtain ⟨parttype, hparttype, h⟩ := bind_eq_ok_iff.mp h
  obtain rfl := optionalStr_ok hfsType
  obtain rfl := optionalStr_ok huuid
  obtain rfl := optionalStr_ok hlabel
  obtain rfl := optionalStr_ok hpartuuid
  obtain rfl := optionalStr_ok hparttype
  obtain rfl := Except.ok.inj h
  exact ⟨requireStr_ok hname, rfl⟩

/-- A name leads to the facts of the last entry that has it. -/
theorem parseBlkid_ok {text : String} {facts : List (String × BlkidFacts)}
    (h : parseBlkid rt text = .ok facts) :
    ∃ entries, Lists rt text "blockdevices" entries ∧
      ∀ name, facts.lookup name = (lastNamed entries name).map (factsOf rt) := by
  obtain ⟨root, hroot, h⟩ := bind_eq_ok_iff.mp h
  obtain ⟨entries, hentries, h⟩ := bind_eq_ok_iff.mp h
  obtain ⟨byNames, hbyNames, h⟩ := bind_eq_ok_iff.mp h
  obtain rfl := Except.ok.inj h
  refine ⟨entries, lists_of_ok hroot hentries, fun name => ?_⟩
  have hall := List.forall₂_reverse_iff.mpr ((mapM_eq_ok_iff _ _ _).mp hbyNames)
  have hname (entry : Json) (byName : String × BlkidFacts)
      (hentry : parseBlkidEntry rt entry = .ok byName) :
      isText name (entry.field "name") = decide (byName.1 = name) := by
    rw [(parseBlkidEntry_ok hentry).1, isText]
  rw [lastNamed, map_find?_eq_of_forall₂ hall hname fun entry byName hentry =>
    (parseBlkidEntry_ok hentry).2.symm]
  have hlookup := lookup_foldl_assocSet Prod.fst Prod.snd byNames [] name
  rwa [List.lookup_nil, Option.or_none] at hlookup

/-! ### The partitions -/

theorem parsePartition_ok {entry : Json} {position : ℕ} {p : Partition}
    (h : parsePartition rt entry position = .ok p) :
    ∃ (name : String) (n : ℕ+) (size : Option ℕ), entry.field "name" = .str name ∧
      (n : ℤ) = partitionNumber (entry.field "partn") position ∧
      sizeField rt "sizeBytes" (entry.field "size") = .ok size ∧
      p = { name, path := "/dev/" ++ name, number := n, sizeBytes := size,
            mountPoint := lsblkMountPoint rt entry } := by
  obtain ⟨name, hname, h⟩ := bind_eq_ok_iff.mp h
  obtain ⟨partn, hpartn, h⟩ := bind_eq_ok_iff.mp h
  obtain ⟨sizeBytes, hsize, h⟩ := bind_eq_ok_iff.mp h
  obtain ⟨mountPoint, hmountPoint, h⟩ := bind_eq_ok_iff.mp h
  obtain ⟨n, size, hn, hsizeBytes, rfl⟩ := Partition.make_ok h
  obtain rfl := extractMountPoint_ok hmountPoint
  rw [Json.field_of_get hpartn, Json.field_of_get hsize]
  exact ⟨name, n, size, requireStr_ok hname, hn, hsizeBytes, rfl⟩

/-- The annotation with facts replaces the identifiers and the filesystem. -/
theorem annotatePartitionWithBlkid_ok {p p' : Partition} {facts : BlkidFacts}
    (h : annotatePartitionWithBlkid rt p (some facts) = .ok p') :
    p' = { p with
      partuuid := facts.partuuid
      parttype := facts.parttype
      filesystem := if facts.hasFilesystemData then
        some { fsType := facts.fsType, uuid := facts.uuid, label := facts.label } else none } := by
  rw [annotatePartitionWithBlkid] at h
  split_ifs at h with hdata
  · obtain ⟨filesystem, hfilesystem, h⟩ := bind_eq_ok_iff.mp h
    obtain rfl := Except.ok.inj h
    cases hmake : FilesystemInfo.make rt facts.fsType facts.uuid facts.label with
    | error e =>
      rw [hmake] at hfilesystem
      cases hfilesystem
    | ok made =>
      rw [hmake] at hfilesystem
      obtain rfl := Except.ok.inj hfilesystem
      rw [FilesystemInfo.make_ok hmake, if_pos hdata]
  · rw [if_neg hdata]
    exact (Except.ok.inj h).symm

/-- There is no filesystem data when the type, the uuid and the label are absent. -/
theorem hasFilesystemData_eq_false_iff (facts : BlkidFacts) :
    facts.hasFilesystemData = false ↔
      facts.fsType = none ∧ facts.uuid = none ∧ facts.label = none := by
  simp [BlkidFacts.hasFilesystemData, and_assoc]

/-- A parsed partition that has been annotated with the facts of its path is merged with the
entries of `blkid`. -/
theorem mergedPartition_of_annotate {entry : Json} {position : ℕ} {p p' : Partition}
    {blkid : List Json} {facts : List (String × BlkidFacts)}
    (hfacts : ∀ name, facts.lookup name = (lastNamed blkid name).map (factsOf rt))
    (hp : parsePartition rt entry position = .ok p)
    (hp' : annotatePartitionWithBlkid rt p (facts.lookup p.path) = .ok p') :
    MergedPartition rt blkid [] entry position p' := by
  obtain ⟨name, n, size, hname, hn, hsize, rfl⟩ := parsePartition_ok hp
  have hpartn (i : ℤ) (hi : entry.field "partn" = .int i) : (n : ℤ) = i :=
    hn.trans (partitionNumber_of_int hi position)
  have hposition (hi : ∀ i : ℤ, entry.field "partn" ≠ .int i) : (n : ℕ) = position :=
    Int.ofNat_inj.mp (hn.trans (partitionNumber_of_not_int hi position))
  rw [hfacts] at hp'
  dsimp only at hp'
  cases hlast : lastNamed blkid ("/dev/" ++ name) with
  | none =>
    rw [hlast] at hp'
    obtain rfl := Except.ok.inj hp'
    exact {
      name := hname
      path := rfl
      number_of_partn := hpartn
      number_of_position := hposition
      size := reportedSize_of_sizeField hsize
      partuuid := by simp only [hlast]; rfl
      parttype := by simp only [hlast]; rfl
      filesystem_none := by simp [hlast]
      filesystem := fun filesystem h => by cases h
      mountPoint := rfl }
  | some last =>
    rw [hlast] at hp'
    obtain rfl := annotatePartitionWithBlkid_ok hp'
    exact {
      name := hname
      path := rfl
      number_of_partn := hpartn
      number_of_position := hposition
      size := reportedSize_of_sizeField hsize
      partuuid := by simp only [hlast]; rfl
      parttype := by simp only [hlast]; rfl
      filesystem_none := by
        simp only [hlast, Option.some.injEq, forall_eq', ite_eq_right_iff, reduceCtorEq, imp_false,
          Bool.not_eq_true, hasFilesystemData_eq_false_iff]
        rfl
      filesystem := fun filesystem h => by
        dsimp only at h
        split_ifs at h
        rw [← Option.some.inj h]
        simp only [hlast]
        rfl
      mountPoint := rfl }

/-- The annotation with the last mount of its path merges a partition with the mounts. -/
theorem MergedPartition.annotate {blkid : List Json} {entry : Json} {position : ℕ} {p : Partition}
    (h : MergedPartition rt blkid [] entry position p) (mounts : List MountEntry) :
    MergedPartition rt blkid mounts entry position
      (annotatePartitionWithMount p (lastMount mounts p.path)) := by
  have hown : p.mountPoint = lsblkMountPoint rt entry := h.mountPoint
  cases hlast : lastMount mounts p.path with
  | none =>
    change MergedPartition rt blkid mounts entry position p
    exact { h with
      filesystem := fun filesystem hfilesystem => by
        rw [hlast]
        exact h.filesystem filesystem hfilesystem
      mountPoint := by
        rw [mergedMountPoint, hlast]
        exact hown }
  | some mount =>
    exact { h with
      filesystem_none := by
        rw [annotatePartitionWithMount, Option.map_eq_none_iff]
        exact h.filesystem_none
      filesystem := fun filesystem hfilesystem => by
        obtain ⟨before, hbefore, rfl⟩ := Option.map_eq_some_iff.mp hfilesystem
        rw [h.filesystem before hbefore]
        simp only [annotatePartitionWithMount, hlast]
        rfl
      mountPoint := by
        rw [mergedMountPoint, annotatePartitionWithMount, hlast]
        rfl }

/-! ### The devices -/

theorem parseBlockDevice_ok {entry : Json} {d : BlockDevice}
    (h : parseBlockDevice rt entry = .ok d) :
    entry.field "name" = .str d.name ∧ d.path = "/dev/" ++ d.name ∧
      sizeField rt "sizeBytes" (entry.field "size") = .ok d.sizeBytes ∧
      (∃ children, entry.field "children" (.arr []) = .arr children ∧
        List.Forall₂ (fun child p => parsePartition rt child.1 child.2 = .ok p)
          (children.zipIdx 1) d.partitions) ∧
      d.mountPoint = lsblkMountPoint rt entry := by
  obtain ⟨name, hname, h⟩ := bind_eq_ok_iff.mp h
  obtain ⟨deviceType, hdeviceType, h⟩ := bind_eq_ok_iff.mp h
  obtain ⟨isReadOnly, hisReadOnly, h⟩ := bind_eq_ok_iff.mp h
  obtain ⟨isRemovable, hisRemovable, h⟩ := bind_eq_ok_iff.mp h
  obtain ⟨children, hchildren, h⟩ := bind_eq_ok_iff.mp h
  obtain ⟨partitions, hpartitions, h⟩ := bind_eq_ok_iff.mp h
  obtain ⟨sizeBytes, hsizeBytes, h⟩ := bind_eq_ok_iff.mp h
  obtain ⟨model, hmodel, h⟩ := bind_eq_ok_iff.mp h
  obtain ⟨vendor, hvendor, h⟩ := bind_eq_ok_iff.mp h
  obtain ⟨serial, hserial, h⟩ := bind_eq_ok_iff.mp h
  obtain ⟨mountPoint, hmountPoint, h⟩ := bind_eq_ok_iff.mp h
  obtain ⟨rfl, hpath, hsize, rfl, rfl⟩ := BlockDevice.make_ok h
  rw [Json.field_of_get hsizeBytes]
  exact ⟨requireStr_ok hname, hpath, hsize,
    ⟨children, childrenOf_ok hchildren, (mapM_eq_ok_iff _ _ _).mp hpartitions⟩,
    extractMountPoint_ok hmountPoint⟩

/-- The annotation with the filesystems changes the partitions only. -/
theorem annotateDeviceWithBlkid_ok {facts : List (String × BlkidFacts)} {d d' : BlockDevice}
    (h : annotateDeviceWithBlkid rt facts d = .ok d') :
    ∃ partitions hnumbers, d' = d.withPartitions partitions hnumbers ∧
      List.Forall₂ (fun p p' =>
          annotatePartitionWithBlkid rt p (facts.lookup p.path) = .ok p')
        d.partitions partitions := by
  rw [annotateDeviceWithBlkid] at h
  split at h
  case h_1 => cases h
  case h_2 partitions hpartitions =>
    exact ⟨partitions, _, (Except.ok.inj h).symm, (mapM_eq_ok_iff _ _ _).mp hpartitions⟩

/-- A parsed device that has been annotated with the facts is merged with the entries of
`blkid`. -/
theorem mergedDevice_of_annotate {entry : Json} {d d' : BlockDevice} {blkid : List Json}
    {facts : List (String × BlkidFacts)}
    (hfacts : ∀ name, facts.lookup name = (lastNamed blkid name).map (factsOf rt))
    (hd : parseBlockDevice rt entry = .ok d)
    (hd' : annotateDeviceWithBlkid rt facts d = .ok d') :
    MergedDevice rt blkid [] entry d' := by
  obtain ⟨hname, hpath, hsize, ⟨children, hchildren, hparsed⟩, hmountPoint⟩ :=
    parseBlockDevice_ok hd
  obtain ⟨partitions, hnumbers, rfl, hannotated⟩ := annotateDeviceWithBlkid_ok hd'
  exact {
    name := hname
    path := hpath
    size := reportedSize_of_sizeField hsize
    partitions := ⟨children, hchildren, forall₂_trans hparsed hannotated
      fun child p p' hp hp' => mergedPartition_of_annotate hfacts hp hp'⟩
    numbers := (d.withPartitions partitions hnumbers).numbers_nodup
    mountPoint := hmountPoint }

/-- The annotation with the mounts changes the partitions and the mount point only. -/
theorem annotateDeviceWithMounts_eq (mounts : List MountEntry) (d : BlockDevice) :
    (annotateDeviceWithMounts mounts d).name = d.name ∧
      (annotateDeviceWithMounts mounts d).path = d.path ∧
      (annotateDeviceWithMounts mounts d).sizeBytes = d.sizeBytes ∧
      (annotateDeviceWithMounts mounts d).partitions = d.partitions.map (fun p =>
        annotatePartitionWithMount p (lastMount mounts p.path)) ∧
      (annotateDeviceWithMounts mounts d).mountPoint =
        ((lastMount mounts d.path).map MountEntry.target).or d.mountPoint := by
  simp only [annotateDeviceWithMounts, lookup_mountsBySource]
  cases lastMount mounts d.path with
  | none => exact ⟨rfl, rfl, rfl, rfl, rfl⟩
  | some mount => exact ⟨rfl, rfl, rfl, rfl, rfl⟩

/-- The annotation with the mounts merges a device with them. -/
theorem MergedDevice.annotate {blkid : List Json} {entry : Json} {d : BlockDevice}
    (h : MergedDevice rt blkid [] entry d) (mounts : List MountEntry) :
    MergedDevice rt blkid mounts entry (annotateDeviceWithMounts mounts d) := by
  obtain ⟨children, hchildren, hparsed⟩ := h.partitions
  obtain ⟨hname, hpath, hsize, hpartitions, hmountPoint⟩ := annotateDeviceWithMounts_eq mounts d
  have hown : d.mountPoint = lsblkMountPoint rt entry := h.mountPoint
  have hmerged : List.Forall₂ (fun child p => MergedPartition rt blkid mounts child.1 child.2 p)
      (children.zipIdx 1) (annotateDeviceWithMounts mounts d).partitions := by
    rw [hpartitions, List.forall₂_map_right_iff]
    exact hparsed.imp fun child p hp => hp.annotate mounts
  exact {
    name := hname ▸ h.name
    path := by rw [hpath, hname, h.path]
    size := hsize ▸ h.size
    partitions := ⟨children, hchildren, hmerged⟩
    numbers := (annotateDeviceWithMounts mounts d).numbers_nodup
    mountPoint := by rw [hmountPoint, hpath, hown, mergedMountPoint] }

/-! ### The topology -/

/-- What is parsed from the outputs of the three tools has the devices and the mounts that their
entries give. -/
theorem devices_and_mounts_of_parse {lsblkOutput blkidOutput findmntOutput : String}
    {c : StorageConfiguration}
    (h : parseStorageTopology rt lsblkOutput blkidOutput findmntOutput = .ok c) :
    ∃ lsblk blkid findmnt, Lists rt lsblkOutput "blockdevices" lsblk ∧
      Lists rt blkidOutput "blockdevices" blkid ∧ Lists rt findmntOutput "filesystems" findmnt ∧
      List.Forall₂ (MergedDevice rt blkid c.mounts) lsblk c.devices ∧
      MountsInOrder none findmnt c.mounts := by
  obtain ⟨parsed, hparsed, h⟩ := bind_eq_ok_iff.mp h
  obtain ⟨facts, hfacts, h⟩ := bind_eq_ok_iff.mp h
  obtain ⟨annotated, hannotated, h⟩ := bind_eq_ok_iff.mp h
  obtain ⟨mounts, hmounts, h⟩ := bind_eq_ok_iff.mp h
  obtain ⟨root, hroot, hparsed⟩ := bind_eq_ok_iff.mp hparsed
  obtain ⟨lsblk, hlsblk, hparsed⟩ := bind_eq_ok_iff.mp hparsed
  obtain ⟨blkid, hblkid, hlookup⟩ := parseBlkid_ok hfacts
  obtain ⟨findmnt, hfindmnt, hwalk⟩ := parseFindmnt_ok hmounts
  rw [StorageConfiguration.make, construct_eq_ok_iff] at h
  split_ifs at h
  obtain rfl := Except.ok.inj h
  refine ⟨lsblk, blkid, findmnt, lists_of_ok hroot hlsblk, hblkid, hfindmnt, ?_, hwalk⟩
  rw [List.forall₂_map_right_iff]
  exact forall₂_trans ((mapM_eq_ok_iff _ _ _).mp hparsed) ((mapM_eq_ok_iff _ _ _).mp hannotated)
    fun entry d d' hd hd' => (mergedDevice_of_annotate hlookup hd hd').annotate mounts

/-- The topology that is parsed from the outputs of the three tools is the one that their entries
give. -/
theorem parseStorageTopology_merged {lsblkOutput blkidOutput findmntOutput : String}
    {c : StorageConfiguration}
    (h : parseStorageTopology rt lsblkOutput blkidOutput findmntOutput = .ok c) :
    ∃ lsblk blkid findmnt, Lists rt lsblkOutput "blockdevices" lsblk ∧
      Lists rt blkidOutput "blockdevices" blkid ∧ Lists rt findmntOutput "filesystems" findmnt ∧
      Merged rt lsblk blkid findmnt c := by
  obtain ⟨lsblk, blkid, findmnt, hlsblk, hblkid, hfindmnt, hdevices, hmounts⟩ :=
    devices_and_mounts_of_parse h
  exact ⟨lsblk, blkid, findmnt, hlsblk, hblkid, hfindmnt, hdevices, c.paths_nodup, hmounts⟩

end Parsers

/-- The runtime that reads the outputs of the tools on a machine with one disk, whose partition is
mounted at the root. -/
def oneDiskRuntime : ModelRuntime where
  text := asciiText
  loads
    | "lsblk" => .ok (.obj [("blockdevices", .arr [.obj [("name", .str "sda"),
        ("type", .str "disk"), ("ro", .bool false), ("rm", .bool false), ("size", .int 2048),
        ("children", .arr [.obj [("name", .str "sda1")]])]])])
    | "blkid" => .ok (.obj [("blockdevices", .arr [.obj [("name", .str "/dev/sda1"),
        ("type", .str "ext4")]])])
    | "findmnt" => .ok (.obj [("filesystems", .arr [.obj [("target", .str "/"),
        ("source", .str "/dev/sda1"), ("fstype", .str "ext4"), ("options", .str "rw")]])])
    | _ => .error "Expecting value: line 1 column 1 (char 0)"
  reprJson value := value.typeName
  acceptsText _ := true
  coerceInt
    | .int i => .ok i
    | _ => .error "Input should be a valid integer"
  renderProblems model problems :=
    toString problems.length ++ " validation errors for " ++ model
  recursionLimit := 1000

/-- The runtime of a machine whose disk has two partitions. The first has a number of its own and is
mounted at the root, the second is mounted where `lsblk` says. -/
def twoPartitionsRuntime : ModelRuntime where
  __ := oneDiskRuntime
  loads
    | "lsblk" => .ok (.obj [("blockdevices", .arr [.obj [("name", .str "sda"),
        ("type", .str "disk"), ("ro", .bool false), ("rm", .bool false), ("size", .int 4096),
        ("children", .arr [
          .obj [("name", .str "sda5"), ("partn", .int 5), ("size", .int 2048)],
          .obj [("name", .str "sda1"), ("mountpoint", .str "/mnt")]])]])])
    | "blkid" => .ok (.obj [("blockdevices", .arr [.obj [("name", .str "/dev/sda5"),
        ("type", .str "ext4"), ("partuuid", .str "0b5e")]])])
    | "findmnt" => .ok (.obj [("filesystems", .arr [.obj [("target", .str "/"),
        ("source", .str "/dev/sda5"), ("fstype", .str "ext4"), ("options", .str "rw")]])])
    | _ => .error "Expecting value: line 1 column 1 (char 0)"

/-- Its partitions. -/
def twoPartitions : List Partition :=
  [{ name := "sda5", path := "/dev/sda5", number := ⟨5, by decide⟩, sizeBytes := some 2048,
     partuuid := some "0b5e", mountPoint := some "/",
     filesystem := some {
       fsType := some "ext4", mountOptions := some "rw", mountPoint := some "/" } },
   { name := "sda1", path := "/dev/sda1", number := ⟨2, by decide⟩, mountPoint := some "/mnt" }]

/-- The topology of this machine is the one that its outputs give. -/
theorem parseStorageTopology_merged_twoPartitions :
    ∃ c, parseStorageTopology twoPartitionsRuntime "lsblk" "blkid" "findmnt" = .ok c ∧
      c.devices.map (fun d => (d.path, d.sizeBytes, d.partitions)) =
        [("/dev/sda", some 4096, twoPartitions)] ∧
      ∃ lsblk blkid findmnt, Lists twoPartitionsRuntime "lsblk" "blockdevices" lsblk ∧
        Lists twoPartitionsRuntime "blkid" "blockdevices" blkid ∧
        Lists twoPartitionsRuntime "findmnt" "filesystems" findmnt ∧
        Merged twoPartitionsRuntime lsblk blkid findmnt c := by
  obtain ⟨c, hparse, hdevices⟩ : ∃ c,
      parseStorageTopology twoPartitionsRuntime "lsblk" "blkid" "findmnt" = .ok c ∧
        c.devices.map (fun d => (d.path, d.sizeBytes, d.partitions)) =
          [("/dev/sda", some 4096, twoPartitions)] := by decide +kernel
  exact ⟨c, hparse, hdevices, parseStorageTopology_merged hparse⟩

end ClassroomSuite.Platform.Storage
