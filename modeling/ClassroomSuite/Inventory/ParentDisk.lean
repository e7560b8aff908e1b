import Mathlib.Data.PNat.Defs
import ClassroomSuite.Inventory.Collectors

/-!
# The disk of a partition

A partition is named after its disk, with its number after the name or, if the name ends in a digit,
after a `p`. The patterns know the names that consist of letters and those of the namespaces of NVMe
controllers. The disk of a partition is found exactly for these: the partition of any other disk
whose name has a digit in it, such as a memory card or a loop device, has no disk or another one.

Source: `cli/src/bcs/inventory/collectors.py`.

## Main definitions

* `DiskName`, `partitionPath`: the names of disks, and the paths of their partitions.
* `InvertsNaming`: the disk that is found and reported is the one of the partition.
* `DiskName.IsMatched`: the names that the patterns know.

## Main results

* `parentDisk_eq_some_iff`.
* `invertsNaming_iff`.
-/

namespace ClassroomSuite.Inventory

open Python Library

/-- Letters and digits of ASCII, of which the first is a letter. -/
structure DiskName where
  chars : List Char
  isAlpha_head : ∃ c ∈ chars.head?, c.isAlpha = true
  isAlphanum_chars : ∀ c ∈ chars, c.isAlphanum = true

/-- Whether a name ends in a digit. -/
def endsInDigit (name : List Char) : Bool := name.getLast?.any Char.isDigit

/-- What follows the name of a disk in that of its partition. -/
def partitionSuffix (name : List Char) (n : ℕ+) : List Char :=
  (if endsInDigit name then ['p'] else []) ++ Nat.toDigits 10 n

/-- The path of a partition of a disk. -/
def partitionPath (name : List Char) (n : ℕ+) : List Char :=
  "/dev/".toList ++ (name ++ partitionSuffix name n)

variable (t : Numerals)

/-- The disk of the partition is found, and reported where the partition is mounted as the EFI
system partition. -/
structure InvertsNaming (d : DiskName) (n : ℕ+) : Prop where
  parent : parentDisk t (partitionPath d.chars n) = some ("/dev/".toList ++ d.chars)
  reported : ∀ host filesystem esp,
    readEspMount host.procMounts = .ok (some (partitionPath d.chars n, filesystem)) →
      collectEfiSystemPartition t host = .ok esp →
        esp.device = some (String.ofList ("/dev/".toList ++ d.chars))

/-- The name consists of letters, or is that of a namespace of an NVMe controller. -/
def DiskName.IsMatched (d : DiskName) : Prop :=
  (∀ c ∈ d.chars, c.isAlpha = true) ∨
    ∃ controller namespaceId, asciiNumerals.isNumber controller = true ∧
      asciiNumerals.isNumber namespaceId = true ∧
        d.chars = "nvme".toList ++ (controller ++ 'n' :: namespaceId)

variable {t}

/-! ### Digits of ASCII -/

theorem isNumber_asciiNumerals_iff {cs : List Char} :
    asciiNumerals.isNumber cs = true ↔ cs ≠ [] ∧ ∀ c ∈ cs, c.isDigit = true := by
  rw [isNumber_iff]
  refine and_congr_right fun _ => forall₂_congr fun c _ => ?_
  cases h : c.isDigit <;> simp [isDecimal, asciiNumerals, h]

/-- Digits of ASCII are digits. -/
theorem isNumber_of_asciiNumerals {cs : List Char} (h : asciiNumerals.isNumber cs = true) :
    t.isNumber cs = true := by
  obtain ⟨hne, hdigits⟩ := isNumber_asciiNumerals_iff.mp h
  exact isNumber_iff.mpr ⟨hne, fun c hc => isDecimal_of_isDigit (hdigits c hc)⟩

/-- Digits that are characters of ASCII are its digits. -/
theorem isNumber_asciiNumerals {cs : List Char} (h : t.isNumber cs = true)
    (hascii : ∀ c ∈ cs, c.toNat < 128) : asciiNumerals.isNumber cs = true := by
  obtain ⟨hne, hdigits⟩ := isNumber_iff.mp h
  refine isNumber_asciiNumerals_iff.mpr ⟨hne, fun c hc => ?_⟩
  by_contra hdigit
  have hnot := isDecimal_eq_false (t := t) (hascii c hc) (Bool.not_eq_true _ ▸ hdigit)
  rw [hdigits c hc] at hnot
  cases hnot

/-- The letters by their numbers. -/
theorem isAlpha_iff_toNat {c : Char} : c.isAlpha = true ↔
    (65 ≤ c.toNat ∧ c.toNat ≤ 90) ∨ 97 ≤ c.toNat ∧ c.toNat ≤ 122 := by
  show (decide ('A'.val ≤ c.val ∧ c.val ≤ 'Z'.val) ||
    (decide ('a'.val ≤ c.val) && decide (c.val ≤ 'z'.val))) = true ↔ _
  simp only [Bool.or_eq_true, Bool.and_eq_true, decide_eq_true_eq, UInt32.le_iff_toNat_le]
  rfl

theorem isAlphanum_iff {c : Char} :
    c.isAlphanum = true ↔ c.isAlpha = true ∨ c.isDigit = true := by
  show (c.isAlpha || c.isDigit) = true ↔ _
  rw [Bool.or_eq_true]

/-- Letters and digits are characters of ASCII, and no character is both. -/
theorem toNat_lt_of_isAlphanum {c : Char} (h : c.isAlphanum = true) : c.toNat < 128 := by
  rcases isAlphanum_iff.mp h with halpha | hdigit
  · have hletter := isAlpha_iff_toNat.mp halpha
    omega
  · obtain ⟨-, hle⟩ := Char.isDigit_iff_toNat.mp hdigit
    exact lt_of_le_of_lt hle (by decide)

theorem isDigit_of_isAlpha {c : Char} (h : c.isAlpha = true) : c.isDigit = false := by
  by_contra hdigit
  obtain ⟨hge, hle⟩ := Char.isDigit_iff_toNat.mp (Bool.not_eq_false _ ▸ hdigit)
  have hletter := isAlpha_iff_toNat.mp h
  simp at hge hle
  omega

/-- A decimal character is no letter. -/
theorem isAlpha_of_isDecimal {c : Char} (h : isDecimal t c = true) : c.isAlpha = false := by
  by_contra halpha
  have halpha' : c.isAlpha = true := Bool.not_eq_false _ ▸ halpha
  rw [isDecimal_eq_false (toNat_lt_of_isAlphanum (isAlphanum_iff.mpr (.inl halpha')))
    (isDigit_of_isAlpha halpha')] at h
  cases h

theorem dropWhile_isAlpha {letters number rest : List Char}
    (hletters : ∀ c ∈ letters, c.isAlpha = true) (hnumber : t.isNumber number = true) :
    (letters ++ (number ++ rest)).dropWhile Char.isAlpha = number ++ rest := by
  obtain ⟨hne, hdecimal⟩ := isNumber_iff.mp hnumber
  obtain ⟨c, number, rfl⟩ := List.exists_cons_of_ne_nil hne
  have hc := isAlpha_of_isDecimal (hdecimal c List.mem_cons_self)
  rw [List.dropWhile_append_of_pos hletters, List.cons_append,
    List.dropWhile_cons_of_neg (by simp [hc])]

/-! ### The patterns on the paths of partitions -/

theorem partitionPath_eq (name : List Char) (n : ℕ+) :
    partitionPath name n = "/dev/".toList ++ (name ++ partitionSuffix name n) := rfl

theorem nvmePath_eq : "/dev/nvme".toList = "/dev/".toList ++ "nvme".toList := rfl

/-- Letters and a number are no partition of a namespace. -/
theorem matchNvme_of_letters {letters number : List Char}
    (hletters : ∀ c ∈ letters, c.isAlpha = true) (hnumber : asciiNumerals.isNumber number = true) :
    matchNvme t ("/dev/".toList ++ (letters ++ number)) = none := by
  cases hmatch : matchNvme t ("/dev/".toList ++ (letters ++ number)) with
  | none => rfl
  | some disk =>
    obtain ⟨controller, namespaceId, k, rest, hpath, hcontroller, -⟩ :=
      matchNvme_eq_some_iff.mp hmatch
    rw [nvmePath_eq, List.append_assoc, List.append_cancel_left_eq] at hpath
    -- Behind the letters there is the number on one side, and an `n` on the other.
    have hdrop := congrArg (List.dropWhile Char.isAlpha) hpath
    rw [dropWhile_isAlpha (List.all_eq_true.mp (by decide)) hcontroller] at hdrop
    rw [← List.append_nil number, dropWhile_isAlpha hletters hnumber, List.append_nil] at hdrop
    have hn : 'n' ∈ number := by
      rw [hdrop]
      exact List.mem_append_right _ List.mem_cons_self
    exact absurd ((isNumber_asciiNumerals_iff.mp hnumber).2 'n' hn) (by decide)

theorem parentDisk_of_letters {letters number : List Char} (hne : letters ≠ [])
    (hletters : ∀ c ∈ letters, c.isAlpha = true) (hnumber : asciiNumerals.isNumber number = true) :
    parentDisk t ("/dev/".toList ++ (letters ++ number)) = some ("/dev/".toList ++ letters) := by
  rw [parentDisk, matchNvme_of_letters hletters hnumber, Option.none_or]
  refine matchGeneric_eq_some_iff.mpr ⟨letters, number, [], by rw [List.append_nil], hne, hletters,
    isNumber_of_asciiNumerals hnumber, fun c hc => ?_, rfl, rfl⟩
  rw [List.append_nil] at hc
  exact isAlpha_of_isDecimal (t := asciiNumerals)
    ((isNumber_iff.mp hnumber).2 c (List.mem_of_mem_head? hc))

theorem parentDisk_of_namespace {controller namespaceId number : List Char}
    (hcontroller : asciiNumerals.isNumber controller = true)
    (hnamespace : asciiNumerals.isNumber namespaceId = true)
    (hnumber : asciiNumerals.isNumber number = true) :
    parentDisk t ("/dev/nvme".toList ++ (controller ++ 'n' :: (namespaceId ++ 'p' :: number))) =
      some ("/dev/nvme".toList ++ (controller ++ 'n' :: namespaceId)) := by
  rw [parentDisk, matchNvme_eq_some_iff.mpr ⟨controller, namespaceId, number, [],
    by rw [List.append_nil], isNumber_of_asciiNumerals hcontroller,
    isNumber_of_asciiNumerals hnamespace, isNumber_of_asciiNumerals hnumber, rfl, rfl⟩]
  rfl

theorem endsInDigit_of_letters {letters : List Char} (h : ∀ c ∈ letters, c.isAlpha = true) :
    endsInDigit letters = false := by
  rw [endsInDigit]
  cases hlast : letters.getLast? with
  | none => rfl
  | some c => exact isDigit_of_isAlpha (h c (List.mem_of_mem_getLast? hlast))

theorem endsInDigit_append {name number : List Char}
    (hnumber : asciiNumerals.isNumber number = true) : endsInDigit (name ++ number) = true := by
  obtain ⟨hne, hdigits⟩ := isNumber_asciiNumerals_iff.mp hnumber
  rw [endsInDigit, List.getLast?_append_of_ne_nil name hne, List.getLast?_eq_some_getLast hne]
  exact hdigits _ (List.getLast_mem hne)

/-- The patterns find no other disk for a partition than one whose name they know. -/
theorem isMatched_of_parentDisk {d : DiskName} {partition : List Char}
    (h : parentDisk t partition = some ("/dev/".toList ++ d.chars)) : d.IsMatched := by
  rcases Option.or_eq_some_iff.mp h with hmatch | ⟨-, hmatch⟩
  · obtain ⟨controller, namespaceId, number, rest, -, hcontroller, hnamespace, -, -, hdisk⟩ :=
      matchNvme_eq_some_iff.mp hmatch
    rw [nvmePath_eq, List.append_assoc, List.append_cancel_left_eq] at hdisk
    have hascii (c : Char) (hc : c ∈ controller ∨ c ∈ namespaceId) : c.toNat < 128 := by
      refine toNat_lt_of_isAlphanum (d.isAlphanum_chars c ?_)
      rw [hdisk]
      rcases hc with hc | hc <;> simp [hc]
    exact Or.inr ⟨controller, namespaceId,
      isNumber_asciiNumerals hcontroller fun c hc => hascii c (Or.inl hc),
      isNumber_asciiNumerals hnamespace fun c hc => hascii c (Or.inr hc), hdisk⟩
  · obtain ⟨letters, number, rest, -, -, hletters, -, -, -, hdisk⟩ :=
      matchGeneric_eq_some_iff.mp hmatch
    rw [List.append_cancel_left_eq] at hdisk
    exact Or.inl (hdisk ▸ hletters)

theorem parentDisk_eq_some_iff (d : DiskName) (n : ℕ+) :
    parentDisk t (partitionPath d.chars n) = some ("/dev/".toList ++ d.chars) ↔ d.IsMatched := by
  refine ⟨isMatched_of_parentDisk, ?_⟩
  have hnumber : asciiNumerals.isNumber (Nat.toDigits 10 n) = true := Numerals.isNumber_toDigits n
  rintro (hletters | ⟨controller, namespaceId, hcontroller, hnamespace, hname⟩)
  · obtain ⟨c, hc, -⟩ := d.isAlpha_head
    have hne : d.chars ≠ [] := List.ne_nil_of_mem (List.mem_of_mem_head? hc)
    rw [partitionPath_eq, partitionSuffix, endsInDigit_of_letters hletters]
    exact parentDisk_of_letters hne hletters hnumber
  · have hends : endsInDigit d.chars = true := by
      have happend : d.chars = ("nvme".toList ++ (controller ++ ['n'])) ++ namespaceId := by
        rw [hname]
        simp
      rw [happend]
      exact endsInDigit_append hnamespace
    have hpath : partitionPath d.chars n =
        "/dev/nvme".toList ++ (controller ++ 'n' :: (namespaceId ++ 'p' :: Nat.toDigits 10 n)) := by
      rw [partitionPath_eq, partitionSuffix, hends, hname, nvmePath_eq]
      simp
    rw [hpath, parentDisk_of_namespace hcontroller hnamespace hnumber, hname, nvmePath_eq,
      List.append_assoc]

/-! ### The EFI system partition -/

/-- The device that is reported is the disk that is found. -/
theorem device_of_collect {host : Host} {partition filesystem : List Char}
    {esp : EfiSystemPartition}
    (hmount : readEspMount host.procMounts = .ok (some (partition, filesystem)))
    (h : collectEfiSystemPartition t host = .ok esp) :
    esp.device = (parentDisk t partition).map String.ofList := by
  rw [collectEfiSystemPartition, hmount, ok_bind] at h
  obtain ⟨uuid, -, hesp⟩ := bind_eq_ok_iff.mp h
  rw [← Except.ok.inj hesp]

/-- The disk of a partition is found and reported if and only if its name consists of letters or is
that of a namespace of an NVMe controller. -/
theorem invertsNaming_iff (t : Numerals) (d : DiskName) (n : ℕ+) :
    InvertsNaming t d n ↔ d.IsMatched := by
  rw [← parentDisk_eq_some_iff (t := t) d n]
  refine ⟨InvertsNaming.parent, fun h => ⟨h, fun host filesystem esp hmount hcollect => ?_⟩⟩
  rw [device_of_collect hmount hcollect, h, Option.map_some]

/-- A memory card. -/
def memoryCard : DiskName where
  chars := "mmcblk0".toList
  isAlpha_head := ⟨'m', rfl, by decide⟩
  isAlphanum_chars := List.all_eq_true.mp (by decide)

/-- The first partition of a memory card has no disk. -/
theorem not_invertsNaming_memoryCard :
    ¬ ∀ (t : Numerals) (d : DiskName) (n : ℕ+), InvertsNaming t d n := by
  intro h
  have hparent := (h asciiNumerals memoryCard 1).parent
  have hnone : parentDisk asciiNumerals (partitionPath memoryCard.chars 1) = none := by
    decide +kernel
  rw [hnone] at hparent
  cases hparent

end ClassroomSuite.Inventory
