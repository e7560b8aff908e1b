import Mathlib.Data.List.Basic
import ClassroomSuite.Python.Lines
import ClassroomSuite.Python.Text

/-!
# Collecting facts from the mount table

The kernel's mount table is read as a text, line by line, and each line as the words that white
space separates in it. From it the collectors take the mount point of a disk, which is looked up by
how the name of its device begins, and the partition that is mounted as the EFI system partition.
The disk of a partition is found by two patterns on its path, tried in order.

Source: `cli/src/bcs/inventory/collectors.py`, `cli/src/bcs/inventory/models.py`.

## Main definitions

* `readText`, `rows`.
* `findMountedPartition`, `readEspMount`.
* `matchNvme`, `matchGeneric`, `parentDisk`.
* `Directory`, `Host`, `EfiSystemPartition`, `collectEfiSystemPartition`.

## Main results

* `matchNvme_eq_some_iff`, `matchGeneric_eq_some_iff`: what the patterns match.
-/

namespace ClassroomSuite.Inventory

open Python Library

/-- What passes through the collectors: a text that is not UTF-8, and a path that could not be
looked up, listed or resolved. -/
inductive CollectorError where
  | unicodeDecodeError
  | osError
  deriving DecidableEq, Repr

/-- The text of a pseudo-file without the white space around it, or nothing if there is none. A file
that the system does not let be read is given by no bytes. -/
def readText : Option (List UInt8) → Except CollectorError (Option (List Char))
  | none => .ok none
  | some bytes =>
    match Python.readText bytes with
    | none => .error .unicodeDecodeError
    | some text =>
      let stripped := strip isSpace text.toList
      .ok (if stripped.isEmpty then none else some stripped)

/-- The words of each line. -/
def rows (text : List Char) : List (List (List Char)) := (splitLines text).map (words isSpace)

/-! ### Mounts -/

/-- The second word of a row whose first word begins with `path`. -/
def mountPointIn (path : List Char) : List (List Char) → Option String
  | device :: mountPoint :: _ =>
    if path.isPrefixOf device then some (String.ofList mountPoint) else none
  | _ => none

/-- The path of a disk. -/
def devicePath (diskName : String) : List Char := "/dev/".toList ++ diskName.toList

/-- Where the first device is mounted whose path begins with that of the disk
(`_find_mounted_partition`). -/
def findMountedPartition (procMounts : Option (List UInt8)) (diskName : String) :
    Except CollectorError (Option String) := do
  match ← readText procMounts with
  | none => return none
  | some text => return (rows text).findSome? (mountPointIn (devicePath diskName))

/-- `_ESP_MOUNT_POINT`. -/
def espMountPoint : String := "/boot/efi"

/-- The device and the filesystem of a row for the mount point of the EFI system partition. -/
def espMountIn : List (List Char) → Option (List Char × List Char)
  | source :: mountPoint :: filesystem :: _ =>
    if mountPoint = espMountPoint.toList then some (source, filesystem) else none
  | _ => none

/-- The last row for that mount point counts. -/
def readEspMount (procMounts : Option (List UInt8)) :
    Except CollectorError (Option (List Char × List Char)) := do
  match ← readText procMounts with
  | none => return none
  | some text => return (rows text).foldl (fun found row => (espMountIn row).or found) none

/-! ### The disk of a partition -/

variable (t : Numerals)

/-- `\d`. -/
def isDecimal (c : Char) : Bool := (t.value c).isSome

/-- `$`: the end of the text, or a line feed before it. -/
def isAtEnd (cs : List Char) : Bool := cs == [] || cs == ['\n']

/-- `^(?P<disk>/dev/nvme\d+n\d+)p\d+$`. What follows each run is not of its class, so that no part
of a run is ever given back. -/
def matchNvme (partition : List Char) : Option (List Char) := do
  let rest ← partition.dropPrefix? "/dev/nvme".toList
  let (controller, rest) ← takeRun (isDecimal t) rest
  let rest ← rest.dropPrefix? ['n']
  let (namespaceId, rest) ← takeRun (isDecimal t) rest
  let rest ← rest.dropPrefix? ['p']
  let (_, rest) ← takeRun (isDecimal t) rest
  if isAtEnd rest then some ("/dev/nvme".toList ++ (controller ++ 'n' :: namespaceId)) else none

/-- `^(?P<disk>/dev/[a-zA-Z]+)\d+$`. -/
def matchGeneric (partition : List Char) : Option (List Char) := do
  let rest ← partition.dropPrefix? "/dev/".toList
  let (letters, rest) ← takeRun Char.isAlpha rest
  let (_, rest) ← takeRun (isDecimal t) rest
  if isAtEnd rest then some ("/dev/".toList ++ letters) else none

/-- The path of the disk of a partition (`_parent_disk`). -/
def parentDisk (partition : List Char) : Option (List Char) :=
  (matchNvme t partition).or (matchGeneric t partition)

variable {t}

/-- A character of ASCII that is no digit is no decimal one. -/
theorem isDecimal_eq_false {c : Char} (hascii : c.toNat < 128) (h : c.isDigit = false) :
    isDecimal t c = false := by
  rw [isDecimal, t.value_ascii c hascii, h]
  rfl

theorem isDecimal_of_isDigit {c : Char} (h : c.isDigit = true) : isDecimal t c = true := by
  rw [isDecimal, Numerals.value_of_isDigit h]
  rfl

theorem isDecimal_n : isDecimal t 'n' = false := isDecimal_eq_false (by decide) (by decide)

theorem isDecimal_p : isDecimal t 'p' = false := isDecimal_eq_false (by decide) (by decide)

/-- What follows the last digits has none at its beginning. -/
theorem isDecimal_of_isAtEnd {rest : List Char} (h : isAtEnd rest = true) :
    ∀ c ∈ rest.head?, isDecimal t c = false := by
  simp only [isAtEnd, Bool.or_eq_true, beq_iff_eq] at h
  rcases h with rfl | rfl
  · exact fun c hc => nomatch hc
  · intro c hc
    obtain rfl : '\n' = c := Option.some.inj hc
    exact isDecimal_eq_false (by decide) (by decide)

theorem isNumber_iff {cs : List Char} :
    t.isNumber cs = true ↔ cs ≠ [] ∧ ∀ c ∈ cs, isDecimal t c = true := by
  simp [Numerals.isNumber, isDecimal]

/-- A number is taken where no digit follows it. -/
theorem takeRun_isDecimal {cs run rest : List Char} :
    takeRun (isDecimal t) cs = some (run, rest) ↔
      cs = run ++ rest ∧ t.isNumber run = true ∧ ∀ c ∈ rest.head?, isDecimal t c = false := by
  rw [takeRun_eq_some_iff, isNumber_iff, and_assoc]

theorem matchNvme_eq_some_iff {partition disk : List Char} :
    matchNvme t partition = some disk ↔ ∃ controller namespaceId number rest,
      partition = "/dev/nvme".toList ++
        (controller ++ 'n' :: (namespaceId ++ 'p' :: (number ++ rest))) ∧
      t.isNumber controller = true ∧ t.isNumber namespaceId = true ∧ t.isNumber number = true ∧
      isAtEnd rest = true ∧
      disk = "/dev/nvme".toList ++ (controller ++ 'n' :: namespaceId) := by
  simp only [matchNvme, Option.bind_eq_bind, Option.bind_eq_some_iff, Prod.exists,
    dropPrefix?_eq_some_iff, takeRun_isDecimal]
  constructor
  · rintro ⟨rest, rfl, controller, rest, ⟨rfl, hcontroller, -⟩, rest, rfl, namespaceId, rest,
      ⟨rfl, hnamespace, -⟩, rest, rfl, number, rest, ⟨rfl, hnumber, -⟩, h⟩
    split_ifs at h with hend
    exact ⟨controller, namespaceId, number, rest, rfl, hcontroller, hnamespace, hnumber, hend,
      (Option.some.inj h).symm⟩
  · rintro ⟨controller, namespaceId, number, rest, rfl, hcontroller, hnamespace, hnumber, hend, rfl⟩
    refine ⟨_, rfl, controller, _, ⟨rfl, hcontroller, ?_⟩, _, rfl, namespaceId, _,
      ⟨rfl, hnamespace, ?_⟩, _, rfl, number, rest, ⟨rfl, hnumber, isDecimal_of_isAtEnd hend⟩,
      if_pos hend⟩
    · exact fun c hc => Option.some.inj hc ▸ isDecimal_n
    · exact fun c hc => Option.some.inj hc ▸ isDecimal_p

theorem matchGeneric_eq_some_iff {partition disk : List Char} :
    matchGeneric t partition = some disk ↔ ∃ letters number rest,
      partition = "/dev/".toList ++ (letters ++ (number ++ rest)) ∧
      letters ≠ [] ∧ (∀ c ∈ letters, c.isAlpha = true) ∧ t.isNumber number = true ∧
      (∀ c ∈ (number ++ rest).head?, c.isAlpha = false) ∧ isAtEnd rest = true ∧
      disk = "/dev/".toList ++ letters := by
  simp only [matchGeneric, Option.bind_eq_bind, Option.bind_eq_some_iff, Prod.exists,
    dropPrefix?_eq_some_iff, takeRun_isDecimal, takeRun_eq_some_iff (p := Char.isAlpha)]
  constructor
  · rintro ⟨rest, rfl, letters, rest, ⟨rfl, hne, hletters, hhead⟩, number, rest,
      ⟨rfl, hnumber, -⟩, h⟩
    split_ifs at h with hend
    exact ⟨letters, number, rest, rfl, hne, hletters, hnumber, hhead, hend,
      (Option.some.inj h).symm⟩
  · rintro ⟨letters, number, rest, rfl, hne, hletters, hnumber, hhead, hend, rfl⟩
    exact ⟨_, rfl, letters, _, ⟨rfl, hne, hletters, hhead⟩, number, rest,
      ⟨rfl, hnumber, isDecimal_of_isAtEnd hend⟩, if_pos hend⟩

/-! ### The EFI system partition -/

variable (t)

/-- What the system says of a path as a directory: there is none, the path cannot be looked up (as
where a directory on the way to it may not be searched), the directory cannot be listed, or these
are the names in it. -/
inductive Directory where
  | absent
  | unknown
  | denied
  | listed (names : List String)

/-- Whether there is such a directory (`Path.is_dir`). -/
def Directory.isDir : Directory → Except CollectorError Bool
  | absent => .ok false
  | unknown => .error .osError
  | denied | listed _ => .ok true

/-- The names in a directory, sorted (`sorted(path.iterdir())`). -/
def Directory.entries : Directory → Except CollectorError (List String)
  | absent | unknown | denied => .error .osError
  | listed names => .ok (sortedTexts names)

/-- What `statvfs` reports of a filesystem. -/
structure Statvfs where
  frsize : ℕ
  blocks : ℕ
  bavail : ℕ

/-- What the collector asks of the host: the bytes of the mount table, the directory of the
filesystems by their identifiers, and the functions that resolve a path and report of a filesystem.
They give nothing where the system refuses. -/
structure Host where
  procMounts : Option (List UInt8)
  byUuid : Directory
  realpath : String → Option String
  statvfs : Option (String → Option Statvfs)

/-- The EFI system partition, as observed. -/
structure EfiSystemPartition where
  present : Bool
  device : Option String := none
  partition : Option String := none
  uuid : Option String := none
  filesystem : Option String := none
  mountPoint : Option String := none
  sizeBytes : Option ℕ := none
  freeBytes : Option ℕ := none
  mounted : Bool
  deriving DecidableEq, Repr

/-- The first of the names that resolves to the target. -/
def findUuid (host : Host) (target : String) : List String → Except CollectorError (Option String)
  | [] => .ok none
  | name :: names =>
    match host.realpath ("/dev/disk/by-uuid/" ++ name) with
    | none => .error .osError
    | some path => if path = target then .ok (some name) else findUuid host target names

/-- The identifier of a partition's filesystem, as the directory of the identifiers has it. -/
def partitionUuid (host : Host) (partition : String) : Except CollectorError (Option String) := do
  if ← host.byUuid.isDir then
    match host.realpath partition with
    | none => return none
    | some target =>
      let names ← host.byUuid.entries
      findUuid host target names
  else return none

/-- The total and the free bytes of a mounted filesystem. -/
def partitionUsage (host : Host) (mountPoint : String) : Option ℕ × Option ℕ :=
  match host.statvfs with
  | none => (none, none)
  | some statvfs =>
    match statvfs mountPoint with
    | none => (none, none)
    | some stats => (some (stats.frsize * stats.blocks), some (stats.frsize * stats.bavail))

/-- `collect_efi_system_partition`. -/
def collectEfiSystemPartition (host : Host) : Except CollectorError EfiSystemPartition := do
  match ← readEspMount host.procMounts with
  | none => return { present := false, mounted := false }
  | some (partition, filesystem) =>
    let (total, free) := partitionUsage host espMountPoint
    let uuid ← partitionUuid host (String.ofList partition)
    return {
      present := true
      device := (parentDisk t partition).map String.ofList
      partition := some (String.ofList partition)
      uuid
      filesystem := some (String.ofList filesystem)
      mountPoint := some espMountPoint
      sizeBytes := total
      freeBytes := free
      mounted := true }

end ClassroomSuite.Inventory
