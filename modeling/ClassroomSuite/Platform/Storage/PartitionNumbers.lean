import ClassroomSuite.Library.Numbering
import ClassroomSuite.Platform.Storage.DeviceTree

/-!
# The numbers of the partitions

A partition has the number that `lsblk` reports of it, or else its position among the partitions of
the device. Positions and reported numbers are in one namespace, and a device with a number twice is
rejected. Well-formed output is read exactly when no position that is fallen back to is reported of
another partition.

Source: `cli/src/bcs/platform/adapters/storage/parser.py`.

## Main definitions

* `WellFormedEntry`, `WellFormedDevice`: what the parser asks of an entry, the numbers apart.
* `explicitNumber`: the number that is reported of a partition.
* `Collides`: a position that is fallen back to is reported of another partition.
* `Numbered`: the partitions of a device keep the reported numbers and have distinct ones.

## Main results

* `parseLsblk_numbered_iff`.
-/

namespace ClassroomSuite.Platform.Storage

open Python Library

variable (rt : ModelRuntime)

/-- The entry has a text under the key, which the models accept. -/
def HasAcceptedText (entry : Json) (key : String) (s : String) : Prop :=
  entry.field key = .str s ∧ s ≠ "" ∧ rt.acceptsText s = true

/-- What the parser asks of the entry of a partition, its number apart. -/
structure WellFormedEntry (entry : Json) : Prop where
  isObj : entry.isObj = true
  name : ∃ name, HasAcceptedText rt entry "name" name ∧ rt.acceptsText ("/dev/" ++ name) = true
  size : ∃ size, sizeField rt "sizeBytes" (entry.field "size") = .ok size
  mountPoint : ∀ mountPoint, lsblkMountPoint rt entry = some mountPoint →
    rt.acceptsText mountPoint = true

/-- What the parser asks of the entry of a device, the numbers of its partitions apart. -/
structure WellFormedDevice (entry : Json) : Prop extends WellFormedEntry rt entry where
  deviceType : ∃ deviceType, HasAcceptedText rt entry "type" deviceType
  readOnly : ∃ b, entry.field "ro" = .bool b
  removable : ∃ b, entry.field "rm" = .bool b
  model : ∃ model, optionalTextField rt "model" (entry.field "model") = .ok model
  vendor : ∃ vendor, optionalTextField rt "vendor" (entry.field "vendor") = .ok vendor
  serial : ∃ serial, optionalTextField rt "serial" (entry.field "serial") = .ok serial
  children : entry.field "children" (.arr []) = .arr (children entry)
  partitions : ∀ child ∈ Storage.children entry, WellFormedEntry rt child

/-- The number that is reported of a partition. -/
def explicitNumber (entry : Json) : Option ℤ :=
  match entry.field "partn" with
  | .int number => some number
  | _ => none

/-- The numbers that are reported of the partitions of a device. -/
def explicitNumbers (entry : Json) : List ℤ := (children entry).filterMap explicitNumber

/-- The numbers of the partitions of a device. -/
def assignedNumbers (entry : Json) : List ℤ :=
  numbers explicitNumber (fun position => (position : ℤ)) (children entry) 1

/-- A partition of which no number is reported is at the position that is the number reported of
another. -/
def Collides (entry : Json) : Prop :=
  ∃ child ∈ (children entry).zipIdx 1, explicitNumber child.1 = none ∧
    (child.2 : ℤ) ∈ explicitNumbers entry

instance (entry : Json) : Decidable (Collides entry) :=
  inferInstanceAs (Decidable (∃ child ∈ (children entry).zipIdx 1, explicitNumber child.1 = none ∧
    (child.2 : ℤ) ∈ explicitNumbers entry))

/-- The device has a partition for every entry below the one of the device, with the number reported
of it, if there is one, and no number twice. -/
structure Numbered (entry : Json) (d : BlockDevice) : Prop where
  explicit : List.Forall₂ (fun child p => ∀ number, explicitNumber child = some number →
    (Partition.number p : ℤ) = number) (children entry) d.partitions
  nodup : (d.partitions.map Partition.number).Nodup

variable {rt}

theorem partitionNumber_eq (entry : Json) (position : ℕ) :
    partitionNumber (entry.field "partn") position = (explicitNumber entry).getD position := by
  rw [explicitNumber]
  cases entry.field "partn" <;> rfl

/-! ### Reading well-formed entries -/

theorem requireStr_of_hasAcceptedText {entry : Json} {key s : String} (hobj : entry.isObj = true)
    (h : HasAcceptedText rt entry key s) (tool context : String) :
    requireStr rt entry key tool context = .ok s := by
  rw [requireStr, Json.get_eq_field hobj, h.1, ok_bind]
  exact if_neg h.2.1

theorem requireBool_of_field {entry : Json} {key : String} {b : Bool} (hobj : entry.isObj = true)
    (h : entry.field key = .bool b) (tool context : String) :
    requireBool rt entry key tool context = .ok b := by
  rw [requireBool, Json.get_eq_field hobj, h]
  rfl

theorem childrenOf_of_field {entry : Json} {items : List Json} (hobj : entry.isObj = true)
    (h : entry.field "children" (.arr []) = .arr items) (problem : String) :
    childrenOf entry problem = .ok items := by
  rw [childrenOf, Json.get_eq_field hobj, h]
  rfl

theorem extractMountPoint_of_isObj {entry : Json} (h : entry.isObj = true) :
    extractMountPoint rt entry = .ok (lsblkMountPoint rt entry) := by
  rw [extractMountPoint, lsblkMountPoint, Json.get_eq_field h, Json.get_eq_field h]
  cases entry.field "mountpoints" <;> rfl

/-- Reading a well-formed partition succeeds if its number is positive. -/
theorem WellFormedEntry.exists_parsePartition {entry : Json} (h : WellFormedEntry rt entry)
    {position : ℕ} (hnumber : 1 ≤ partitionNumber (entry.field "partn") position) :
    ∃ p, parsePartition rt entry position = .ok p := by
  obtain ⟨name, hname, hpath⟩ := h.name
  obtain ⟨size, hsize⟩ := h.size
  obtain ⟨number, hnumber⟩ := positiveField_of_le hnumber "number"
  rw [parsePartition, requireStr_of_hasAcceptedText h.isObj hname,
    Json.get_eq_field h.isObj, Json.get_eq_field h.isObj, extractMountPoint_of_isObj h.isObj]
  refine ⟨{
    name := name
    path := "/dev/" ++ name
    number := number
    sizeBytes := size
    mountPoint := lsblkMountPoint rt entry }, ?_⟩
  simp only [ok_bind, Partition.make, construct_eq_ok_iff,
    textField_of_accepts rt hname.2.2, textField_of_accepts rt hpath, hnumber, hsize,
    optionalTextField_of_accepts rt h.mountPoint, Checked.both, pure_eq_ok]

/-! ### The numbers of a device -/

/-- The partitions that are read have the numbers assigned to them. -/
theorem numbers_eq_of_parse {items : List Json} {partitions : List Partition}
    (h : List.Forall₂ (fun child p => parsePartition rt child.1 child.2 = .ok p)
      (items.zipIdx 1) partitions) :
    numbers explicitNumber (fun position => (position : ℤ)) items 1 =
      partitions.map fun p => (p.number : ℤ) := by
  rw [numbers, ← List.forall₂_eq_eq_eq, List.forall₂_map_left_iff, List.forall₂_map_right_iff]
  refine h.imp fun child p hp => ?_
  obtain ⟨name, number, size, -, hnumber, -, rfl⟩ := parsePartition_ok hp
  rw [hnumber, partitionNumber_eq]

theorem nodup_number_iff {items : List Json} {partitions : List Partition}
    (h : List.Forall₂ (fun child p => parsePartition rt child.1 child.2 = .ok p)
      (items.zipIdx 1) partitions) :
    (partitions.map Partition.number).Nodup ↔
      (numbers explicitNumber (fun position => (position : ℤ)) items 1).Nodup := by
  have hinjective : Function.Injective fun number : ℕ+ => (number : ℤ) :=
    fun _ _ h => Subtype.ext (Int.ofNat_inj.mp h)
  rw [numbers_eq_of_parse h, ← List.nodup_map_iff hinjective, List.map_map]
  rfl

/-- A number is positive if those that are reported are, as the positions are. -/
theorem one_le_partitionNumber {entry : Json}
    (hnumbers : ∀ number ∈ explicitNumbers entry, 1 ≤ number) {child : Json × ℕ}
    (hchild : child ∈ (children entry).zipIdx 1) :
    1 ≤ partitionNumber (child.1.field "partn") child.2 := by
  obtain ⟨hposition, -⟩ := List.mem_zipIdx hchild
  rw [partitionNumber_eq]
  cases hnumber : explicitNumber child.1 with
  | none => exact Int.ofNat_le.mpr hposition
  | some number =>
    have hmem : child.1 ∈ children entry := List.fst_mem_of_mem_zipIdx hchild
    exact hnumbers number (List.mem_filterMap.mpr ⟨child.1, hmem, hnumber⟩)

/-- Reading a well-formed device succeeds exactly when the numbers assigned to its partitions are
distinct. -/
theorem WellFormedDevice.parseBlockDevice_iff {entry : Json} (h : WellFormedDevice rt entry)
    (hnumbers : ∀ number ∈ explicitNumbers entry, 1 ≤ number) :
    (∃ d, parseBlockDevice rt entry = .ok d) ↔ (assignedNumbers entry).Nodup := by
  constructor
  · rintro ⟨d, hd⟩
    obtain ⟨-, -, -, ⟨items, hitems, hpartitions⟩, -⟩ := parseBlockDevice_ok hd
    rw [assignedNumbers, children_eq hitems, ← nodup_number_iff hpartitions]
    exact d.numbers_nodup
  · intro hnodup
    obtain ⟨partitions, hpartitions⟩ := (exists_mapM_eq_ok_iff
      (fun child : Json × ℕ => parsePartition rt child.1 child.2) _).mpr fun child hchild =>
        (h.partitions child.1 (List.fst_mem_of_mem_zipIdx hchild)).exists_parsePartition
          (one_le_partitionNumber hnumbers hchild)
    have hdistinct := (nodup_number_iff ((mapM_eq_ok_iff _ _ _).mp hpartitions)).mpr hnodup
    obtain ⟨name, hname, hpath⟩ := h.name
    obtain ⟨deviceType, hdeviceType⟩ := h.deviceType
    obtain ⟨readOnly, hreadOnly⟩ := h.readOnly
    obtain ⟨removable, hremovable⟩ := h.removable
    obtain ⟨size, hsize⟩ := h.size
    obtain ⟨model, hmodel⟩ := h.model
    obtain ⟨vendor, hvendor⟩ := h.vendor
    obtain ⟨serial, hserial⟩ := h.serial
    rw [parseBlockDevice]
    simp only [requireStr_of_hasAcceptedText h.isObj hname,
      requireStr_of_hasAcceptedText h.isObj hdeviceType, requireBool_of_field h.isObj hreadOnly,
      requireBool_of_field h.isObj hremovable, childrenOf_of_field h.isObj h.children, ok_bind,
      hpartitions, Json.get_eq_field h.isObj, extractMountPoint_of_isObj h.isObj,
      BlockDevice.make, construct_eq_ok_iff]
    simp only [textField_of_accepts rt hname.2.2, textField_of_accepts rt hpath, hsize, hmodel,
      textField_of_accepts rt hdeviceType.2.2, hvendor, hserial,
      optionalTextField_of_accepts rt h.mountPoint, Checked.both, ok_bind, pure_eq_ok,
      dif_pos hdistinct]
    exact ⟨_, rfl⟩

/-- The numbers of a device are distinct exactly when none collides. -/
theorem nodup_assignedNumbers_iff {entry : Json} (h : (explicitNumbers entry).Nodup) :
    (assignedNumbers entry).Nodup ↔ ¬ Collides entry := by
  rw [assignedNumbers, nodup_numbers_iff (fun _ _ h => Int.ofNat_inj.mp h) h]
  constructor
  · rintro hall ⟨child, hchild, hnone, hmem⟩
    exact hall _ hmem ⟨child, hchild, hnone, rfl⟩
  · rintro hnot _ hmem ⟨child, hchild, hnone, rfl⟩
    exact hnot ⟨child, hchild, hnone, hmem⟩

/-- A device that is read keeps the reported numbers. -/
theorem numbered_of_parse {entry : Json} {d : BlockDevice} (h : parseBlockDevice rt entry = .ok d) :
    Numbered entry d := by
  obtain ⟨-, -, -, ⟨items, hitems, hpartitions⟩, -⟩ := parseBlockDevice_ok h
  refine ⟨?_, d.numbers_nodup⟩
  rw [children_eq hitems, ← List.zipIdx_map_fst 1 items, List.forall₂_map_left_iff]
  refine hpartitions.imp fun child p hp number hnumber => ?_
  obtain ⟨name, n, size, -, hn, -, rfl⟩ := parsePartition_ok hp
  rw [hn, partitionNumber_eq, hnumber]
  rfl

/-! ### The numbers of all devices -/

theorem parseLsblk_eq {text : String} {entries : List Json}
    (h : Lists rt text "blockdevices" entries) :
    parseLsblk rt text = entries.mapM (parseBlockDevice rt) := by
  obtain ⟨fields, hloads, hlookup, hall⟩ := h
  rw [parseLsblk, (loadJson_eq_ok_iff text "lsblk" _).mpr ⟨fields, hloads, rfl⟩, ok_bind,
    (requireList_obj_eq_ok_iff fields "blockdevices" "lsblk" entries).mpr ⟨hlookup, hall⟩, ok_bind]

/-- Well-formed output in which the numbers reported of the partitions of a device are positive and
distinct is read, with these numbers and distinct ones for all partitions, if and only if no number
collides. -/
theorem parseLsblk_numbered_iff {text : String} {entries : List Json}
    (hlists : Lists rt text "blockdevices" entries)
    (hwell : ∀ entry ∈ entries, WellFormedDevice rt entry)
    (hpositive : ∀ entry ∈ entries, ∀ number ∈ explicitNumbers entry, 1 ≤ number)
    (hnodup : ∀ entry ∈ entries, (explicitNumbers entry).Nodup) :
    (∃ devices, parseLsblk rt text = .ok devices ∧ List.Forall₂ Numbered entries devices) ↔
      ∀ entry ∈ entries, ¬ Collides entry := by
  have hdevice : ∀ entry ∈ entries,
      ((∃ d, parseBlockDevice rt entry = .ok d) ↔ ¬ Collides entry) := fun entry hentry => by
    rw [(hwell entry hentry).parseBlockDevice_iff (hpositive entry hentry),
      nodup_assignedNumbers_iff (hnodup entry hentry)]
  rw [parseLsblk_eq hlists, ← forall₂_congr hdevice, ← exists_mapM_eq_ok_iff]
  refine exists_congr fun devices => and_iff_left_of_imp fun h => ?_
  exact ((mapM_eq_ok_iff _ _ _).mp h).imp fun entry d hd => numbered_of_parse hd

/-- A disk with two partitions, a number being reported of the first one only. -/
def halfNumberedEntry (number : ℤ) : Json :=
  .obj [("name", .str "sda"), ("type", .str "disk"), ("ro", .bool false), ("rm", .bool false),
    ("children", .arr [.obj [("name", .str "sda1"), ("partn", .int number)],
      .obj [("name", .str "sda2")]])]

/-- The machine with this disk. -/
def halfNumberedRuntime (number : ℤ) : ModelRuntime where
  __ := oneDiskRuntime
  loads
    | "lsblk" => .ok (.obj [("blockdevices", .arr [halfNumberedEntry number])])
    | text => oneDiskRuntime.loads text

theorem lists_halfNumbered (number : ℤ) :
    Lists (halfNumberedRuntime number) "lsblk" "blockdevices" [halfNumberedEntry number] :=
  ⟨_, rfl, rfl, fun _ hentry => List.mem_singleton.mp hentry ▸ rfl⟩

theorem wellFormedDevice_halfNumbered (number : ℤ) :
    WellFormedDevice (halfNumberedRuntime number) (halfNumberedEntry number) where
  isObj := rfl
  name := ⟨"sda", ⟨rfl, by decide, rfl⟩, rfl⟩
  size := ⟨none, rfl⟩
  mountPoint _ _ := rfl
  deviceType := ⟨"disk", rfl, by decide, rfl⟩
  readOnly := ⟨false, rfl⟩
  removable := ⟨false, rfl⟩
  model := ⟨none, rfl⟩
  vendor := ⟨none, rfl⟩
  serial := ⟨none, rfl⟩
  children := rfl
  partitions := List.forall_mem_cons.mpr ⟨⟨rfl, ⟨"sda1", ⟨rfl, by decide, rfl⟩, rfl⟩, ⟨none, rfl⟩,
    fun _ _ => rfl⟩, List.forall_mem_singleton.mpr ⟨rfl, ⟨"sda2", ⟨rfl, by decide, rfl⟩, rfl⟩,
    ⟨none, rfl⟩, fun _ _ => rfl⟩⟩

/-- The disk is read where the number of its first partition is the position of this one. -/
theorem parseLsblk_numbered_first :
    ∃ devices, parseLsblk (halfNumberedRuntime 1) "lsblk" = .ok devices ∧
      List.Forall₂ Numbered [halfNumberedEntry 1] devices := by
  refine (parseLsblk_numbered_iff (lists_halfNumbered 1)
    (List.forall_mem_singleton.mpr (wellFormedDevice_halfNumbered 1))
    (List.forall_mem_singleton.mpr ?_) (List.forall_mem_singleton.mpr ?_)).mpr
    (List.forall_mem_singleton.mpr ?_)
  · decide +kernel
  · decide +kernel
  · decide +kernel

/-- The disk is not read where the number of its first partition is the position of the second. -/
theorem not_parseLsblk_numbered_second :
    Lists (halfNumberedRuntime 2) "lsblk" "blockdevices" [halfNumberedEntry 2] ∧
      WellFormedDevice (halfNumberedRuntime 2) (halfNumberedEntry 2) ∧
      explicitNumbers (halfNumberedEntry 2) = [2] ∧
      parseLsblk (halfNumberedRuntime 2) "lsblk" =
        .error (.validationError "1 validation errors for BlockDevice") := by
  refine ⟨lists_halfNumbered 2, wellFormedDevice_halfNumbered 2, rfl, ?_⟩
  rw [parseLsblk_eq (lists_halfNumbered 2)]
  rfl

end ClassroomSuite.Platform.Storage
