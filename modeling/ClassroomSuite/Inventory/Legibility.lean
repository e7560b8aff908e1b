import ClassroomSuite.Inventory.Machine

/-!
# What the collectors can read

The collectors are meant to give an unknown value where they cannot find out, and never to raise an
exception. They do raise one on a file that is no UTF-8, a directory that cannot be looked up or
listed, and digits that are no number. The conditions say, in terms of the files of the machine,
exactly when each collector returns.

Source: `cli/src/bcs/inventory/collectors.py`.

## Main definitions

* `Machine.Decodes`, `Machine.LooksUp`, `Machine.Lists`, `Converts`: what a collector needs of a
  file, of a directory, and of digits.
* `Machine.FirmwareLegible`, `Machine.HardwareLegible`, `Machine.NetworkLegible`,
  `Machine.SectionsLegible`.

## Main results

* `collectFirmware_returns_iff`, `collectStorage_returns_iff`, `hardware_returns_iff`,
  `collectNetwork_returns_iff`, `collectSections_returns_iff`.
-/

namespace ClassroomSuite.Inventory

open Python Library Platform

/-! ### The conditions -/

section Conditions

variable (rt : CollectorRuntime) (m : Machine)

/-- The file, if it can be read, is UTF-8. -/
def Machine.Decodes (path : String) : Prop :=
  ∀ bytes, m.readBytes path = some bytes → ∃ text, Python.readText bytes = some text

/-- The system says whether there is such a directory. -/
def Machine.LooksUp (path : String) : Prop := m.directory path ≠ .unknown

/-- The directory can be looked up and, if there is one, be listed. -/
def Machine.Lists (path : String) : Prop :=
  m.LooksUp path ∧ m.directory path ≠ .denied

/-- The names in a directory that is listed, sorted. -/
def Machine.listing (path : String) : Option (List String) :=
  match m.directory path with
  | .listed names => some (sortedTexts names)
  | _ => none

/-- The names in a directory, of which one that is not listed has none. -/
def Machine.names (path : String) : List String := (m.listing path).getD []

/-- The text of a file that is UTF-8, without the white space around it, if any is left. -/
def Machine.textOf (path : String) : Option (List Char) :=
  match m.readText path with
  | .ok text => text
  | .error _ => none

/-- If the characters count as digits, they are those of a number within the limit. -/
def Converts (cs : List Char) : Prop :=
  isDigits rt cs = true → rt.numerals.isNumber cs = true ∧ rt.numerals.fits cs = true

/-- If the line is about one of the two sizes of the memory, its second word converts. -/
def MeminfoLegible (line : List Char) : Prop :=
  (beginsWith "MemTotal:".toList line || beginsWith "MemAvailable:".toList line) = true →
    ∀ first number rest, words isSpace line = first :: number :: rest → Converts rt number

namespace Machine

/-- There is a directory of the firmware or none and, if there is one, the same of its variables. -/
structure FirmwareLegible : Prop where
  efi : m.LooksUp "/sys/firmware/efi"
  efivars : m.isDir "/sys/firmware/efi" = .ok true → m.LooksUp "/sys/firmware/efi/efivars"

/-- The processor and the memory can be read. -/
structure HardwareLegible : Prop where
  cpuinfo : m.Decodes "/proc/cpuinfo"
  meminfo : m.Decodes "/proc/meminfo"
  sizes : ∀ text, m.textOf "/proc/meminfo" = some text →
    ∀ line ∈ splitLines text, MeminfoLegible rt line

/-- The interfaces can be read. -/
structure NetworkLegible : Prop where
  lists : m.Lists "/sys/class/net"
  operstate : ∀ name ∈ m.names "/sys/class/net",
    m.Decodes ("/sys/class/net/" ++ name ++ "/operstate")
  address : ∀ name ∈ m.names "/sys/class/net",
    m.Decodes ("/sys/class/net/" ++ name ++ "/address")

/-- The interface has a hardware address that is not null. -/
def HasMac (name : String) : Prop :=
  ∃ mac, m.textOf ("/sys/class/net/" ++ name ++ "/address") = some mac ∧
    rt.text.lower (String.ofList mac) ≠ nullMac

/-- The hardware addresses can be read up to the first that is not null, the loopback interface
apart. -/
structure IdentityLegible : Prop where
  lists : m.Lists "/sys/class/net"
  addresses : HoldsWhile (fun name => name ≠ "lo" → ¬ m.HasMac rt name)
    (fun name => name ≠ "lo" → m.Decodes ("/sys/class/net/" ++ name ++ "/address"))
    (m.names "/sys/class/net")
  uuid : m.Decodes "/sys/class/dmi/id/product_uuid"

/-- The directory of the identifiers can be looked up and, if the partition resolves to a target,
they can be listed and resolve up to the first that is this target. -/
structure UuidLegible (partition : String) : Prop where
  looksUp : m.LooksUp "/dev/disk/by-uuid"
  lists : ∀ target, m.realpath partition = some target → m.Lists "/dev/disk/by-uuid"
  resolves : ∀ target, m.realpath partition = some target →
    HoldsWhile (fun name => m.realpath ("/dev/disk/by-uuid/" ++ name) ≠ some target)
      (fun name => ∃ path, m.realpath ("/dev/disk/by-uuid/" ++ name) = some path)
      (m.names "/dev/disk/by-uuid")

/-- The mount table and, if it has an EFI system partition, the identifiers can be read. -/
structure EspLegible : Prop where
  mounts : m.Decodes "/proc/mounts"
  uuid : ∀ partition filesystem,
    readEspMount (m.readBytes "/proc/mounts") = .ok (some (partition, filesystem)) →
      m.UuidLegible (String.ofList partition)

/-- The device is removable and attached by USB. -/
def UsbRemovable (name : String) : Prop :=
  m.textOf ("/sys/block/" ++ name ++ "/removable") = some ['1'] ∧
    ∃ path, m.realpath ("/sys/block/" ++ name) = some path ∧
      ∃ part ∈ (PurePath.ofString path).parts, beginsWith "usb".toList part.toList = true

/-- The facts about a device can be read. -/
structure DeviceLegible (name : String) : Prop where
  size : m.Decodes ("/sys/block/" ++ name ++ "/size")
  converts : ∀ text, m.textOf ("/sys/block/" ++ name ++ "/size") = some text → Converts rt text
  mounts : m.Decodes "/proc/mounts"
  vendor : m.Decodes ("/sys/block/" ++ name ++ "/device/vendor")
  model : m.Decodes ("/sys/block/" ++ name ++ "/device/model")

/-- The block devices can be read, those attached by USB with all their facts. -/
structure UsbLegible : Prop where
  lists : m.Lists "/sys/block"
  removable : ∀ name ∈ m.names "/sys/block", m.Decodes ("/sys/block/" ++ name ++ "/removable")
  device : ∀ name ∈ m.names "/sys/block", m.UsbRemovable name → m.DeviceLegible rt name

/-- The sections that always come from collectors can be read. -/
structure SectionsLegible : Prop where
  identity : m.IdentityLegible rt
  osRelease : m.Decodes "/etc/os-release"
  esp : m.EspLegible
  usb : m.UsbLegible rt

end Machine

end Conditions

/-! ### Files and directories -/

variable {rt : CollectorRuntime} {m : Machine} {α β : Type}

theorem returns_bind_iff {ε : Type} {x : Except ε α} {f : α → Except ε β} :
    (∃ b, x >>= f = .ok b) ↔ ∃ a, x = .ok a ∧ ∃ b, f a = .ok b := by
  cases x <;> simp

theorem returns_liftPy_iff {x : Except PyError α} : (∃ a, liftPy x = .ok a) ↔ ∃ a, x = .ok a := by
  cases x <;> simp [liftPy]

theorem liftPy_eq_ok_iff {x : Except PyError α} {a : α} : liftPy x = .ok a ↔ x = .ok a := by
  cases x <;> simp [liftPy]

theorem returns_map_iff {ε : Type} {x : Except ε α} {f : α → β} :
    (∃ b, x.map f = .ok b) ↔ ∃ a, x = .ok a := by
  cases x <;> simp [Except.map]

namespace Machine

/-- The text of a file that is UTF-8 is read. -/
theorem readText_eq_ok_iff {path : String} {text : Option (List Char)} :
    m.readText path = .ok text ↔ m.Decodes path ∧ text = m.textOf path := by
  have hok : ∀ found : Option (List Char), m.readText path = .ok found →
      (m.readText path = .ok text ↔ text = m.textOf path) := by
    intro found hfound
    rw [textOf, hfound, Except.ok.injEq, eq_comm]
  cases hbytes : m.readBytes path with
  | none =>
    have hdecodes : m.Decodes path := fun bytes h => by simp [hbytes] at h
    have hread : m.readText path = .ok none := by
      rw [readText, hbytes]
      rfl
    rw [hok _ hread, and_iff_right hdecodes]
  | some bytes =>
    cases htext : Python.readText bytes with
    | none =>
      have hdecodes : ¬ m.Decodes path := fun h => by simpa [htext] using h bytes hbytes
      have hread : m.readText path = .error undecodable := by
        rw [readText, hbytes, Inventory.readText, htext]
        rfl
      rw [hread]
      exact iff_of_false (fun h => by cases h) fun h => hdecodes h.1
    | some decoded =>
      have hdecodes : m.Decodes path := fun bytes' h => by
        obtain rfl : bytes = bytes' := Option.some.inj (hbytes.symm.trans h)
        exact ⟨decoded, htext⟩
      obtain ⟨found, hread⟩ : ∃ found, m.readText path = .ok found := by
        rw [readText, hbytes, Inventory.readText, htext]
        exact ⟨_, rfl⟩
      rw [hok found hread, and_iff_right hdecodes]

/-- Reading a file, and going on with its text. -/
theorem readText_bind_iff {path : String} {f : Option (List Char) → Except PyError β} :
    (∃ b, m.readText path >>= f = .ok b) ↔ m.Decodes path ∧ ∃ b, f (m.textOf path) = .ok b := by
  simp only [returns_bind_iff, readText_eq_ok_iff]
  exact ⟨fun ⟨_, ⟨h, rfl⟩, hb⟩ => ⟨h, hb⟩, fun ⟨h, hb⟩ => ⟨_, ⟨h, rfl⟩, hb⟩⟩

/-- Listing a directory, and going on with its names. -/
theorem entries_bind_iff {path : String}
    {f : Option (List String) → Except InventoryError β} :
    (∃ b, m.entries path >>= f = .ok b) ↔
      m.Lists path ∧ ∃ b, f (m.listing path) = .ok b := by
  rw [Lists, LooksUp, listing, entries]
  cases m.directory path <;> simp

theorem isDir_returns_iff {path : String} :
    (∃ answer, m.isDir path = .ok answer) ↔ m.LooksUp path := by
  rw [isDir, returns_mapError_iff, LooksUp]
  cases m.directory path <;> simp [Directory.isDir]

/-! ### The collectors -/

theorem readSecureBootState_returns_iff :
    (∃ state, m.readSecureBootState = .ok state) ↔ m.LooksUp "/sys/firmware/efi/efivars" := by
  rw [readSecureBootState, ← isDir_returns_iff, returns_bind_iff]
  refine exists_congr fun answer => and_iff_left ?_
  cases answer <;> exact ⟨_, rfl⟩

/-- The firmware is collected if its directories can be looked up. -/
theorem collectFirmware_returns_iff :
    (∃ firmware, m.collectFirmware = .ok firmware) ↔ m.FirmwareLegible := by
  have hlegible : m.FirmwareLegible ↔ m.LooksUp "/sys/firmware/efi" ∧
      (m.isDir "/sys/firmware/efi" = .ok true → m.LooksUp "/sys/firmware/efi/efivars") :=
    ⟨fun h => ⟨h.efi, h.efivars⟩, fun h => ⟨h.1, h.2⟩⟩
  rw [hlegible, ← isDir_returns_iff, ← readSecureBootState_returns_iff, collectFirmware,
    returns_bind_iff]
  cases hdir : m.isDir "/sys/firmware/efi" with
  | error e => simp
  | ok answer =>
    cases answer with
    | false => simp
    | true => simp [returns_bind_iff]

/-- The storage is collected if its directory can be looked up. -/
theorem collectStorage_returns_iff :
    (∃ devices, m.collectStorage = .ok devices) ↔ m.LooksUp "/dev" := by
  rw [collectStorage, LooksUp]
  cases m.directory "/dev" <;> simp

theorem sizeOfText_returns_iff {unit : ℕ} {cs : List Char} :
    (∃ size, sizeOfText rt unit cs = .ok size) ↔ Converts rt cs := by
  rw [sizeOfText, Converts]
  split_ifs with hdigits
  · rw [returns_map_iff, toInt]
    split_ifs with hnumber
    · rw [Numerals.int]
      split_ifs with hfits <;> simp [hdigits, hnumber, hfits]
    · simp [hdigits, hnumber]
  · simp [hdigits]

theorem meminfoLine_returns_iff (info : MemoryInfo) (line : List Char) :
    (∃ info', meminfoLine rt info line = .ok info') ↔ MeminfoLegible rt line := by
  have hsize : (∃ size, parseMeminfoKbLine rt line = .ok size) ↔
      ∀ first number rest, words isSpace line = first :: number :: rest → Converts rt number := by
    rw [parseMeminfoKbLine]
    rcases hwords : words isSpace line with _ | ⟨first, _ | ⟨number, rest⟩⟩
    · simp
    · simp
    · rw [sizeOfText_returns_iff]
      simp
  rw [meminfoLine, MeminfoLegible]
  cases htotal : beginsWith "MemTotal:".toList line with
  | true =>
    rw [if_pos rfl, returns_map_iff, hsize, Bool.true_or]
    exact ⟨fun h _ => h, fun h => h rfl⟩
  | false =>
    rw [if_neg Bool.false_ne_true, Bool.false_or]
    cases beginsWith "MemAvailable:".toList line with
    | true =>
      rw [if_pos rfl, returns_map_iff, hsize]
      exact ⟨fun h _ => h, fun h => h rfl⟩
    | false => simp

theorem collectMemory_returns_iff :
    (∃ memory, m.collectMemory rt = .ok memory) ↔ m.Decodes "/proc/meminfo" ∧
      ∀ text, m.textOf "/proc/meminfo" = some text →
        ∀ line ∈ splitLines text, MeminfoLegible rt line := by
  rw [collectMemory, readText_bind_iff]
  refine and_congr_right fun _ => ?_
  cases m.textOf "/proc/meminfo" with
  | none => simp
  | some text =>
    dsimp only
    rw [exists_foldlM_eq_ok_iff meminfoLine_returns_iff]
    simp

theorem collectCpu_returns_iff :
    (∃ cpu, m.collectCpu rt = .ok cpu) ↔ m.Decodes "/proc/cpuinfo" := by
  rw [collectCpu, returns_bind_iff]
  simp only [pure_eq_ok, Except.ok.injEq, exists_eq', and_true]
  rw [readCpuModel, readText_bind_iff]
  refine and_iff_left ?_
  cases m.textOf "/proc/cpuinfo" <;> exact ⟨_, rfl⟩

/-- The processor and the memory are collected if they can be read. -/
theorem hardware_returns_iff :
    ((∃ cpu, m.collectCpu rt = .ok cpu) ∧ ∃ memory, m.collectMemory rt = .ok memory) ↔
      m.HardwareLegible rt := by
  rw [collectCpu_returns_iff, collectMemory_returns_iff]
  exact ⟨fun ⟨hcpu, hmeminfo, hsizes⟩ => ⟨hcpu, hmeminfo, hsizes⟩,
    fun ⟨hcpu, hmeminfo, hsizes⟩ => ⟨hcpu, hmeminfo, hsizes⟩⟩

theorem interfaceEntry_returns_iff (name : String) :
    (∃ iface, m.interfaceEntry name = .ok iface) ↔
      m.Decodes ("/sys/class/net/" ++ name ++ "/operstate") ∧
        m.Decodes ("/sys/class/net/" ++ name ++ "/address") := by
  rw [interfaceEntry, readText_bind_iff, readText_bind_iff]
  simp

/-- The interfaces are collected if they can be read. -/
theorem collectNetwork_returns_iff :
    (∃ interfaces, m.collectNetwork = .ok interfaces) ↔ m.NetworkLegible := by
  rw [collectNetwork, entries_bind_iff]
  refine (and_congr_right fun _ => (?_ : _ ↔ ∀ name ∈ m.names "/sys/class/net",
    m.Decodes ("/sys/class/net/" ++ name ++ "/operstate") ∧
      m.Decodes ("/sys/class/net/" ++ name ++ "/address"))).trans ?_
  · rw [names]
    cases m.listing "/sys/class/net" with
    | none => simp
    | some names =>
      simp only [Option.getD_some, returns_liftPy_iff, exists_mapM_eq_ok_iff,
        interfaceEntry_returns_iff]
  · constructor
    · rintro ⟨hlists, h⟩
      exact ⟨hlists, fun name hname => (h name hname).1, fun name hname => (h name hname).2⟩
    · intro h
      exact ⟨h.lists, fun name hname => ⟨h.operstate name hname, h.address name hname⟩⟩

/-- What is read of an address, and whether it counts. -/
theorem hasMac_iff {name : String} :
    m.HasMac rt name ↔ ∃ mac, m.textOf ("/sys/class/net/" ++ name ++ "/address") = some mac ∧
      rt.text.lower (String.ofList mac) ≠ nullMac := Iff.rfl

theorem firstMac_returns_iff (names : List String) :
    (∃ mac, m.firstMac rt names = .ok mac) ↔
      HoldsWhile (fun name => name ≠ "lo" → ¬ m.HasMac rt name)
        (fun name => name ≠ "lo" → m.Decodes ("/sys/class/net/" ++ name ++ "/address")) names := by
  induction names with
  | nil => exact iff_of_true ⟨none, rfl⟩ (holdsWhile_nil _ _)
  | cons name names ih =>
    rw [firstMac, holdsWhile_cons_iff, ← ih]
    by_cases hlo : name = "lo"
    · simp [hlo]
    · rw [if_neg hlo, readText_bind_iff, hasMac_iff]
      refine and_congr (by simp [hlo]) ?_
      cases m.textOf ("/sys/class/net/" ++ name ++ "/address") with
      | none => simp [hlo]
      | some mac =>
        dsimp only
        by_cases hnull : rt.text.lower (String.ofList mac) = nullMac
        · simp [hlo, hnull]
        · simp [hlo, hnull]

/-- The identity is collected if it can be read. -/
theorem collectIdentity_returns_iff :
    (∃ identity, m.collectIdentity rt = .ok identity) ↔ m.IdentityLegible rt := by
  have huuid (mac : Option String) : (∃ identity, (do
      let dmiProductUuid ← liftPy (m.readText "/sys/class/dmi/id/product_uuid")
      return ({ primaryMacAddress := mac, dmiProductUuid := dmiProductUuid.map String.ofList } :
        HostIdentity)) = .ok identity) ↔ m.Decodes "/sys/class/dmi/id/product_uuid" := by
    rw [returns_bind_iff]
    simp [liftPy_eq_ok_iff, readText_eq_ok_iff]
  have hmac : (∃ mac, m.primaryMacAddress rt = .ok mac) ↔ m.Lists "/sys/class/net" ∧
      HoldsWhile (fun name => name ≠ "lo" → ¬ m.HasMac rt name)
        (fun name => name ≠ "lo" → m.Decodes ("/sys/class/net/" ++ name ++ "/address"))
        (m.names "/sys/class/net") := by
    rw [primaryMacAddress, entries_bind_iff, ← firstMac_returns_iff, names]
    refine and_congr_right fun _ => ?_
    cases m.listing "/sys/class/net" with
    | none => simp [firstMac]
    | some names => simp only [Option.getD_some, returns_liftPy_iff]
  rw [collectIdentity, returns_bind_iff]
  simp only [huuid]
  constructor
  · rintro ⟨mac, hmac', huuid'⟩
    obtain ⟨hlists, haddresses⟩ := hmac.mp ⟨mac, hmac'⟩
    exact ⟨hlists, haddresses, huuid'⟩
  · intro h
    obtain ⟨mac, hmac'⟩ := hmac.mpr ⟨h.lists, h.addresses⟩
    exact ⟨mac, hmac', h.uuid⟩

theorem collectOperatingSystem_returns_iff :
    (∃ os, m.collectOperatingSystem = .ok os) ↔ m.Decodes "/etc/os-release" := by
  rw [collectOperatingSystem, returns_bind_iff]
  simp only [pure_eq_ok, Except.ok.injEq, exists_eq', and_true]
  rw [readOsReleasePrettyName, readText_bind_iff]
  refine and_iff_left ?_
  cases m.textOf "/etc/os-release" <;> exact ⟨_, rfl⟩

/-! ### The EFI system partition -/

theorem find_returns_iff (target : String) (names : List String) :
    (∃ uuid, findUuid m.host target names = .ok uuid) ↔
      HoldsWhile (fun name => m.realpath ("/dev/disk/by-uuid/" ++ name) ≠ some target)
        (fun name => ∃ path, m.realpath ("/dev/disk/by-uuid/" ++ name) = some path) names := by
  induction names with
  | nil => exact iff_of_true ⟨none, rfl⟩ (holdsWhile_nil _ _)
  | cons name names ih =>
    have hrealpath : m.host.realpath = m.realpath := rfl
    rw [findUuid, holdsWhile_cons_iff, ← ih, hrealpath]
    cases m.realpath ("/dev/disk/by-uuid/" ++ name) with
    | none => simp
    | some path =>
      dsimp only
      split_ifs with heq
      · simp [heq]
      · simp [heq]

theorem partitionUuid_returns_iff (partition : String) :
    (∃ uuid, partitionUuid m.host partition = .ok uuid) ↔ m.UuidLegible partition := by
  have hlegible : m.UuidLegible partition ↔ m.LooksUp "/dev/disk/by-uuid" ∧
      ∀ target, m.realpath partition = some target → m.Lists "/dev/disk/by-uuid" ∧
        ∃ uuid, findUuid m.host target (m.names "/dev/disk/by-uuid") = .ok uuid := by
    simp only [find_returns_iff]
    exact ⟨fun h => ⟨h.looksUp, fun target ht => ⟨h.lists target ht, h.resolves target ht⟩⟩,
      fun h => ⟨h.1, fun target ht => (h.2 target ht).1, fun target ht => (h.2 target ht).2⟩⟩
  have hbyUuid : m.host.byUuid = m.directory "/dev/disk/by-uuid" := rfl
  have hrealpath : m.host.realpath = m.realpath := rfl
  rw [hlegible, partitionUuid, hbyUuid, hrealpath, Lists, LooksUp, names, listing]
  cases m.directory "/dev/disk/by-uuid" <;> cases m.realpath partition <;>
    simp [Directory.isDir, Directory.entries, findUuid]

/-- The text of a file, as the collectors read it, is read if the file is UTF-8. -/
theorem collectorText_eq_ok_iff {path : String} {text : Option (List Char)} :
    Inventory.readText (m.readBytes path) = .ok text ↔ m.Decodes path ∧ text = m.textOf path := by
  rw [← readText_eq_ok_iff, readText, mapError_eq_ok_iff]

theorem readEspMount_returns_iff :
    (∃ mount, readEspMount (m.readBytes "/proc/mounts") = .ok mount) ↔
      m.Decodes "/proc/mounts" := by
  rw [readEspMount, returns_bind_iff]
  simp only [collectorText_eq_ok_iff]
  refine ⟨fun ⟨_, hread, _⟩ => hread.1, fun h => ⟨_, ⟨h, rfl⟩, ?_⟩⟩
  cases m.textOf "/proc/mounts" <;> exact ⟨_, rfl⟩

/-- The EFI system partition is collected if it can be read. -/
theorem collectEfiSystemPartition_returns_iff :
    (∃ esp, m.collectEfiSystemPartition rt = .ok esp) ↔ m.EspLegible := by
  rw [collectEfiSystemPartition, returns_mapError_iff, Inventory.collectEfiSystemPartition,
    returns_bind_iff]
  constructor
  · rintro ⟨mount, hmount, hesp⟩
    refine ⟨readEspMount_returns_iff.mp ⟨mount, hmount⟩, fun partition filesystem h => ?_⟩
    obtain rfl : mount = some (partition, filesystem) := Except.ok.inj (hmount.symm.trans h)
    obtain ⟨uuid, huuid, -⟩ := returns_bind_iff.mp hesp
    exact (partitionUuid_returns_iff _).mp ⟨uuid, huuid⟩
  · intro h
    obtain ⟨mount, hmount⟩ := readEspMount_returns_iff.mpr h.mounts
    refine ⟨mount, hmount, ?_⟩
    rcases mount with _ | ⟨partition, filesystem⟩
    · exact ⟨_, rfl⟩
    · obtain ⟨uuid, huuid⟩ :=
        (partitionUuid_returns_iff _).mpr (h.uuid partition filesystem hmount)
      exact returns_bind_iff.mpr ⟨uuid, huuid, _, rfl⟩

/-! ### USB storage -/

/-- Whether a device is removable and attached by USB is found out if its file can be read. -/
theorem isUsbRemovable_eq_ok_iff {name : String} {answer : Bool} :
    m.isUsbRemovable name = .ok answer ↔
      m.Decodes ("/sys/block/" ++ name ++ "/removable") ∧
        (answer = true ↔ m.UsbRemovable name) := by
  rw [isUsbRemovable, bind_eq_ok_iff]
  simp only [readText_eq_ok_iff, and_assoc]
  rw [exists_and_left, exists_eq_left, UsbRemovable]
  refine and_congr_right fun _ => ?_
  split_ifs with hremovable
  · cases m.realpath ("/sys/block/" ++ name) with
    | none => simp [hremovable]
    | some path =>
      simp only [pure_eq_ok, Except.ok.injEq, hremovable, Option.some.injEq, exists_eq_left',
        true_and, ← List.any_eq_true]
      rw [Bool.eq_iff_iff]
      exact iff_comm
  · simp [hremovable]

/-- The mount point of a disk is looked up if the mount table can be read. -/
theorem findMountedPartition_eq_ok_iff {name : String} {mountPoint : Option String} :
    m.findMountedPartition name = .ok mountPoint ↔ m.Decodes "/proc/mounts" ∧
      mountPoint = (m.textOf "/proc/mounts").bind fun text =>
        (rows text).findSome? (mountPointIn (devicePath name)) := by
  rw [findMountedPartition, mapError_eq_ok_iff, Inventory.findMountedPartition, bind_eq_ok_iff]
  simp only [collectorText_eq_ok_iff, and_assoc]
  rw [exists_and_left, exists_eq_left]
  refine and_congr_right fun _ => ?_
  cases m.textOf "/proc/mounts" <;> simp [eq_comm]

theorem readUsbStorageDevice_returns_iff (name : String) :
    (∃ device, m.readUsbStorageDevice rt name = .ok device) ↔ m.DeviceLegible rt name := by
  have hmount {f : Option String → Except PyError UsbStorageDevice} :
      (∃ device, m.findMountedPartition name >>= f = .ok device) ↔ m.Decodes "/proc/mounts" ∧
        ∃ device, f (((m.textOf "/proc/mounts").bind fun text =>
          (rows text).findSome? (mountPointIn (devicePath name)))) = .ok device := by
    rw [returns_bind_iff]
    simp only [findMountedPartition_eq_ok_iff]
    exact ⟨fun ⟨_, ⟨h, rfl⟩, hdevice⟩ => ⟨h, hdevice⟩, fun ⟨h, hdevice⟩ => ⟨_, ⟨h, rfl⟩, hdevice⟩⟩
  rw [readUsbStorageDevice, readText_bind_iff, returns_bind_iff]
  simp only [hmount, readText_bind_iff, pure_eq_ok, Except.ok.injEq, exists_eq', and_true,
    exists_and_right, sizeOfText_returns_iff]
  have hconverts : Converts rt ((m.textOf ("/sys/block/" ++ name ++ "/size")).getD []) ↔
      ∀ text, m.textOf ("/sys/block/" ++ name ++ "/size") = some text → Converts rt text := by
    cases m.textOf ("/sys/block/" ++ name ++ "/size") with
    | none => simp [Converts, isDigits]
    | some text => simp
  rw [hconverts]
  exact ⟨fun ⟨hsize, hconverts, hmounts, hvendor, hmodel⟩ =>
    ⟨hsize, hconverts, hmounts, hvendor, hmodel⟩, fun h =>
    ⟨h.size, h.converts, h.mounts, h.vendor, h.model⟩⟩

theorem usbEntry_returns_iff (name : String) :
    (∃ entry, m.usbEntry rt name = .ok entry) ↔
      m.Decodes ("/sys/block/" ++ name ++ "/removable") ∧
        (m.UsbRemovable name → m.DeviceLegible rt name) := by
  rw [usbEntry, returns_bind_iff]
  simp only [isUsbRemovable_eq_ok_iff]
  constructor
  · rintro ⟨answer, ⟨hdecodes, hanswer⟩, hentry⟩
    refine ⟨hdecodes, fun husb => ?_⟩
    rw [if_pos (hanswer.mpr husb)] at hentry
    obtain ⟨device, hdevice, -⟩ := returns_bind_iff.mp hentry
    exact (readUsbStorageDevice_returns_iff name).mp ⟨device, hdevice⟩
  · rintro ⟨hdecodes, hdevice⟩
    by_cases husb : m.UsbRemovable name
    · obtain ⟨device, hdevice⟩ := (readUsbStorageDevice_returns_iff name).mpr (hdevice husb)
      exact ⟨true, ⟨hdecodes, by simp [husb]⟩, returns_bind_iff.mpr ⟨device, hdevice, _, rfl⟩⟩
    · exact ⟨false, ⟨hdecodes, by simp [husb]⟩, _, rfl⟩

/-- The USB storage is collected if it can be read. -/
theorem collectUsbStorage_returns_iff :
    (∃ devices, m.collectUsbStorage rt = .ok devices) ↔ m.UsbLegible rt := by
  rw [collectUsbStorage, entries_bind_iff]
  refine (and_congr_right fun _ => (?_ : _ ↔ ∀ name ∈ m.names "/sys/block",
    m.Decodes ("/sys/block/" ++ name ++ "/removable") ∧
      (m.UsbRemovable name → m.DeviceLegible rt name))).trans ?_
  · rw [names]
    cases m.listing "/sys/block" with
    | none => simp
    | some names =>
      dsimp only
      rw [returns_bind_iff]
      simp only [Option.getD_some, pure_eq_ok, Except.ok.injEq, exists_eq', and_true,
        returns_liftPy_iff, exists_mapM_eq_ok_iff, usbEntry_returns_iff]
  · constructor
    · rintro ⟨hlists, h⟩
      exact ⟨hlists, fun name hname => (h name hname).1, fun name hname => (h name hname).2⟩
    · intro h
      exact ⟨h.lists, fun name hname => ⟨h.removable name hname, h.device name hname⟩⟩

/-- The sections that always come from collectors are collected if they can be read. -/
theorem collectSections_returns_iff :
    (∃ sections, m.collectSections rt = .ok sections) ↔ m.SectionsLegible rt := by
  rw [collectSections, returns_bind_iff]
  simp only [returns_bind_iff, liftPy_eq_ok_iff, pure_eq_ok, Except.ok.injEq, exists_eq', and_true,
    exists_and_right]
  rw [collectIdentity_returns_iff, collectOperatingSystem_returns_iff,
    collectEfiSystemPartition_returns_iff, collectUsbStorage_returns_iff]
  exact ⟨fun ⟨hidentity, hos, hesp, husb⟩ => ⟨hidentity, hos, hesp, husb⟩,
    fun h => ⟨h.identity, h.osRelease, h.esp, h.usb⟩⟩

end Machine

end ClassroomSuite.Inventory
