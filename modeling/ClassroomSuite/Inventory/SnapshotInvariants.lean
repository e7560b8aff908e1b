import Mathlib.Data.List.ReduceOption
import ClassroomSuite.Inventory.MainInventory

/-!
# What holds of every inventory

The sections of an inventory are collected one after the other, each from its own files. They fit
together all the same: where there is no orchestrator, the identity of the host has the hardware
address of the first of its interfaces that has one; a device is mounted if it has a mount point;
and the EFI system partition is present if it is mounted, and nothing else is said of it otherwise.
An orchestrator changes no more of the inventory than what its adapters returned.

Source: `cli/src/bcs/inventory/collectors.py`, `cli/src/bcs/inventory/service.py`.

## Main definitions

* `StorageCoherent`, `EspCoherent`, `UsbCoherent`, `IdentityCoherent`, `Coherent`.
* `Machine.facts`: what the collectors find.
* `HostInventory.overlay`: an inventory with what a discovery returned.

## Main results

* `coherent_of_collected`.
* `collectHostInventory_refines`: the inventory of a machine is that of what its collectors find.
* `collectHostInventory_eq_overlay`.
-/

namespace ClassroomSuite.Inventory

open Python Library Platform

/-! ### The invariants -/

/-- The devices are sorted by their names, which are those of NVMe namespaces; each is found under
its name. -/
structure StorageCoherent (devices : List StorageDevice) : Prop where
  sorted : (devices.map StorageDevice.name).Pairwise (· ≤ ·)
  nvme : ∀ device ∈ devices, device.isNvme = true ∧ isNvmeName device.name.toList = true
  path : ∀ device ∈ devices, device.path = "/dev/" ++ device.name

/-- The partition is present if it is mounted, then at its mount point, and its disk is the
beginning of its path; of one that is not present nothing is known. -/
structure EspCoherent (esp : EfiSystemPartition) : Prop where
  present : esp.present = esp.mounted
  absent : esp.present = false → esp = { present := false, mounted := false }
  mountPoint : esp.present = true → esp.mountPoint = some espMountPoint
  disk : ∀ device, esp.device = some device → ∃ partition, esp.partition = some partition ∧
    device.toList <+: partition.toList
  usage : esp.sizeBytes.isSome = esp.freeBytes.isSome

/-- The devices are sorted by their names; each is found under its name, is mounted if it has a
mount point, and has a size in whole sectors. -/
structure UsbCoherent (devices : List UsbStorageDevice) : Prop where
  sorted : (devices.map UsbStorageDevice.name).Pairwise (· ≤ ·)
  path : ∀ device ∈ devices, device.path = "/dev/" ++ device.name
  mounted : ∀ device ∈ devices, device.mounted = device.mountPoint.isSome
  sectors : ∀ device ∈ devices, ∀ size, device.sizeBytes = some size → 512 ∣ size

/-- The hardware address of an interface, if it counts as one. -/
def NetworkInterface.mac (rt : CollectorRuntime) (iface : NetworkInterface) : Option String :=
  if iface.isLoopback then none
  else iface.macAddress.filter fun mac => decide (rt.text.lower mac ≠ nullMac)

/-- The interfaces are sorted by their names, and only `lo` is a loopback interface; the identity
has the first hardware address among them. -/
structure IdentityCoherent (rt : CollectorRuntime) (identity : HostIdentity)
    (interfaces : List NetworkInterface) : Prop where
  sorted : (interfaces.map NetworkInterface.name).Pairwise (· ≤ ·)
  loopback : ∀ iface ∈ interfaces, (iface.isLoopback = true ↔ iface.name = "lo")
  primary : identity.primaryMacAddress = interfaces.findSome? (NetworkInterface.mac rt)

/-- The sections of an inventory fit together. -/
structure Coherent (rt : CollectorRuntime) (inventory : HostInventory machineTypes) : Prop where
  firmware : inventory.firmware.uefi = false ↔ inventory.firmware.secureBoot = .unsupported
  memory : ∀ size, inventory.memory.totalBytes = some size ∨
    inventory.memory.availableBytes = some size → 1024 ∣ size
  storage : StorageCoherent inventory.storage
  identity : IdentityCoherent rt inventory.sections.identity inventory.network
  esp : EspCoherent inventory.sections.efiSystemPartition
  usb : UsbCoherent inventory.sections.usbStorage
  tooling : inventory.sections.tooling.map ToolStatus.name = expectedTools ∧
    ∀ tool ∈ inventory.sections.tooling, tool.found = tool.path.isSome

variable {rt : CollectorRuntime} {m : Machine}

/-! ### Sizes -/

/-- A size that is read is a multiple of its unit. -/
theorem dvd_of_sizeOfText {unit : ℕ} {cs : List Char} {size : ℕ}
    (h : sizeOfText rt unit cs = .ok (some size)) : unit ∣ size := by
  rw [sizeOfText] at h
  split_ifs at h
  · cases hn : toInt rt cs with
    | error e => simp [hn, Except.map] at h
    | ok n =>
      obtain rfl : n * unit = size := by simpa [hn, Except.map] using h
      exact Nat.dvd_mul_left unit n
  · cases h

/-- The sizes of the memory are in whole kilobytes. -/
def InKilobytes (info : MemoryInfo) : Prop :=
  ∀ size, info.totalBytes = some size ∨ info.availableBytes = some size → 1024 ∣ size

theorem dvd_of_parseMeminfoKbLine {line : List Char} {size : ℕ}
    (h : parseMeminfoKbLine rt line = .ok (some size)) : 1024 ∣ size := by
  rw [parseMeminfoKbLine] at h
  split at h
  · exact dvd_of_sizeOfText h
  · simp at h

theorem inKilobytes_meminfoLine {info info' : MemoryInfo} {line : List Char}
    (hinfo : InKilobytes info) (h : meminfoLine rt info line = .ok info') : InKilobytes info' := by
  rw [meminfoLine] at h
  split_ifs at h
  · cases hsize : parseMeminfoKbLine rt line with
    | error e => simp [hsize, Except.map] at h
    | ok size =>
      obtain rfl : { info with totalBytes := size } = info' := by
        simpa [hsize, Except.map] using h
      rintro n (rfl | hn)
      · exact dvd_of_parseMeminfoKbLine hsize
      · exact hinfo n (Or.inr hn)
  · cases hsize : parseMeminfoKbLine rt line with
    | error e => simp [hsize, Except.map] at h
    | ok size =>
      obtain rfl : { info with availableBytes := size } = info' := by
        simpa [hsize, Except.map] using h
      rintro n (hn | rfl)
      · exact hinfo n (Or.inl hn)
      · exact dvd_of_parseMeminfoKbLine hsize
  · exact Except.ok.inj h ▸ hinfo

/-- Whatever the lines say, the sizes that are left are in whole kilobytes. -/
theorem inKilobytes_of_foldlM {lines : List (List Char)} {info info' : MemoryInfo}
    (hinfo : InKilobytes info) (h : lines.foldlM (meminfoLine rt) info = .ok info') :
    InKilobytes info' := by
  induction lines generalizing info with
  | nil => exact Except.ok.inj h ▸ hinfo
  | cons line lines ih =>
    rw [List.foldlM_cons] at h
    obtain ⟨info'', hline, hlines⟩ := bind_eq_ok_iff.mp h
    exact ih (inKilobytes_meminfoLine hinfo hline) hlines

theorem inKilobytes_of_collectMemory {memory : MemoryInfo} (h : m.collectMemory rt = .ok memory) :
    InKilobytes memory := by
  have hnone : InKilobytes {} := by
    rintro size (h | h) <;> cases h
  rw [Machine.collectMemory] at h
  obtain ⟨text, -, h⟩ := bind_eq_ok_iff.mp h
  cases text with
  | none => exact Except.ok.inj h ▸ hnone
  | some text => exact inKilobytes_of_foldlM hnone h

/-! ### Directories -/

/-- The names in a directory that is there are listed in their order. -/
theorem entries_eq_ok {path : String} {listing : Option (List String)}
    (h : m.entries path = .ok listing) : listing = m.listing path := by
  rw [Machine.listing]
  rw [Machine.entries] at h
  cases hdirectory : m.directory path with
  | absent | listed names => simpa [hdirectory, eq_comm] using h
  | unknown | denied => simp [hdirectory] at h

/-- The names that a directory has are sorted. -/
theorem pairwise_names (m : Machine) (path : String) : (m.names path).Pairwise (· ≤ ·) := by
  rw [Machine.names, Machine.listing]
  cases m.directory path with
  | listed names => exact pairwise_sortedTexts names
  | _ => exact List.Pairwise.nil

/-- What is collected from the entries of a directory, of which a missing one has none. -/
theorem collect_of_entries {α : Type} {path : String}
    (collect : List String → Except InventoryError (List α)) (hnil : collect [] = .ok [])
    {found : List α}
    (h : (m.entries path >>= fun listing => match listing with
      | none => return []
      | some names => collect names) = .ok found) :
    collect (m.names path) = .ok found := by
  obtain ⟨listing, hlisting, hfound⟩ := bind_eq_ok_iff.mp h
  rw [entries_eq_ok hlisting] at hfound
  rw [Machine.names]
  cases hdir : m.listing path with
  | some names => simpa [hdir] using hfound
  | none =>
    rw [Option.getD_none, hnil]
    simpa [hdir] using hfound

/-! ### Interfaces and identity -/

/-- Each interface is read from the entry with its name. -/
theorem forall₂_of_collectNetwork {interfaces : List NetworkInterface}
    (h : m.collectNetwork = .ok interfaces) :
    List.Forall₂ (fun name iface => m.interfaceEntry name = .ok iface) (m.names "/sys/class/net")
      interfaces := by
  rw [Machine.collectNetwork] at h
  have hnames := collect_of_entries (fun names => liftPy (names.mapM m.interfaceEntry)) rfl h
  exact (mapM_eq_ok_iff _ _ _).mp (liftPy_eq_ok_iff.mp hnames)

/-- What is read of an interface. -/
theorem interfaceEntry_eq_ok {name : String} {iface : NetworkInterface}
    (h : m.interfaceEntry name = .ok iface) :
    iface.name = name ∧ iface.isLoopback = decide (name = "lo") ∧
      m.readText ("/sys/class/net/" ++ name ++ "/address") =
        .ok (iface.macAddress.map String.toList) := by
  rw [Machine.interfaceEntry] at h
  obtain ⟨operstate, -, h⟩ := bind_eq_ok_iff.mp h
  obtain ⟨address, haddress, h⟩ := bind_eq_ok_iff.mp h
  obtain rfl := Except.ok.inj h
  refine ⟨rfl, rfl, ?_⟩
  rw [haddress, Option.map_map]
  have hid : String.toList ∘ String.ofList = id := funext fun _ => String.toList_ofList
  rw [hid, Option.map_id_fun, id]

/-- The first hardware address that is read is the first among the interfaces. -/
theorem firstMac_eq {names : List String} {interfaces : List NetworkInterface}
    (h : List.Forall₂ (fun name iface => m.interfaceEntry name = .ok iface) names interfaces) :
    m.firstMac rt names = .ok (interfaces.findSome? (NetworkInterface.mac rt)) := by
  induction h with
  | nil => rfl
  | @cons name iface names interfaces hiface _ ih =>
    obtain ⟨-, hloopback, haddress⟩ := interfaceEntry_eq_ok hiface
    rw [Machine.firstMac, List.findSome?_cons, NetworkInterface.mac, hloopback]
    by_cases hlo : name = "lo"
    · simpa [hlo] using ih
    · rw [if_neg hlo, haddress, ok_bind]
      cases hmac : iface.macAddress with
      | none => simpa [hlo] using ih
      | some mac =>
        by_cases hnull : rt.text.lower mac = nullMac
        · simpa [hlo, hnull, Option.filter] using ih
        · simp [hlo, hnull, Option.filter]

/-- The interfaces have the names of their entries. -/
theorem map_name_eq {names : List String} {interfaces : List NetworkInterface}
    (h : List.Forall₂ (fun name iface => m.interfaceEntry name = .ok iface) names interfaces) :
    interfaces.map NetworkInterface.name = names := by
  induction h with
  | nil => rfl
  | cons hiface _ ih => rw [List.map_cons, ih, (interfaceEntry_eq_ok hiface).1]

/-- The identity has the first hardware address of the interfaces. -/
theorem identityCoherent_of_collected {interfaces : List NetworkInterface}
    {identity : HostIdentity} (hnetwork : m.collectNetwork = .ok interfaces)
    (hidentity : m.collectIdentity rt = .ok identity) :
    IdentityCoherent rt identity interfaces := by
  have hall := forall₂_of_collectNetwork hnetwork
  refine ⟨(map_name_eq hall).symm ▸ pairwise_names m _, fun iface hiface => ?_, ?_⟩
  · obtain ⟨name, -, hentry⟩ := exists_mem_of_forall₂ hall.flip hiface
    obtain ⟨hname, hloopback, -⟩ := interfaceEntry_eq_ok hentry
    rw [hloopback, hname, decide_eq_true_eq]
  · rw [Machine.collectIdentity] at hidentity
    obtain ⟨mac, hmac, hidentity⟩ := bind_eq_ok_iff.mp hidentity
    obtain ⟨uuid, -, hidentity⟩ := bind_eq_ok_iff.mp hidentity
    obtain rfl := Except.ok.inj hidentity
    rw [Machine.primaryMacAddress] at hmac
    obtain ⟨listing, hlisting, hmac⟩ := bind_eq_ok_iff.mp hmac
    rw [entries_eq_ok hlisting] at hmac
    rw [Machine.names] at hall
    cases hdir : m.listing "/sys/class/net" with
    | some names =>
      rw [hdir] at hmac hall
      rw [Option.getD_some] at hall
      rw [liftPy_eq_ok_iff, firstMac_eq hall] at hmac
      exact (Except.ok.inj hmac).symm
    | none =>
      rw [hdir] at hmac hall
      cases hall
      exact (Except.ok.inj hmac).symm

/-! ### The EFI system partition -/

/-- The disk that is found is the beginning of the partition's path. -/
theorem isPrefix_of_parentDisk {partition disk : List Char}
    (h : parentDisk rt.numerals partition = some disk) : disk <+: partition := by
  rw [parentDisk, Option.or_eq_some_iff] at h
  rcases h with hnvme | ⟨-, hgeneric⟩
  · obtain ⟨controller, namespaceId, number, rest, rfl, -, -, -, -, rfl⟩ :=
      matchNvme_eq_some_iff.mp hnvme
    exact ⟨'p' :: (number ++ rest), by simp⟩
  · obtain ⟨letters, number, rest, rfl, -, -, -, -, -, rfl⟩ := matchGeneric_eq_some_iff.mp hgeneric
    exact ⟨number ++ rest, by simp⟩

/-- Both sizes of a filesystem are known, or none. -/
theorem isSome_partitionUsage (host : Host) (mountPoint : String) :
    (partitionUsage host mountPoint).1.isSome = (partitionUsage host mountPoint).2.isSome := by
  rw [partitionUsage]
  cases host.statvfs with
  | none => rfl
  | some statvfs =>
    dsimp only
    cases statvfs mountPoint <;> rfl

theorem espCoherent_of_collected {esp : EfiSystemPartition}
    (h : m.collectEfiSystemPartition rt = .ok esp) : EspCoherent esp := by
  rw [Machine.collectEfiSystemPartition, mapError_eq_ok_iff, collectEfiSystemPartition] at h
  obtain ⟨mount, -, h⟩ := bind_eq_ok_iff.mp h
  rcases mount with _ | ⟨partition, filesystem⟩
  · obtain rfl := Except.ok.inj h
    refine ⟨rfl, fun _ => rfl, ?_, ?_, rfl⟩
    · rintro ⟨⟩
    · rintro _ ⟨⟩
  · obtain ⟨uuid, -, h⟩ := bind_eq_ok_iff.mp h
    obtain rfl := Except.ok.inj h
    refine ⟨rfl, ?_, fun _ => rfl, fun device hdevice => ?_, isSome_partitionUsage _ _⟩
    · rintro ⟨⟩
    obtain ⟨disk, hdisk, rfl⟩ := Option.map_eq_some_iff.mp hdevice
    exact ⟨_, rfl, by simpa using isPrefix_of_parentDisk hdisk⟩

/-! ### USB storage -/

/-- What is read of a device. -/
theorem readUsbStorageDevice_eq_ok {name : String} {device : UsbStorageDevice}
    (h : m.readUsbStorageDevice rt name = .ok device) :
    device.name = name ∧ device.path = "/dev/" ++ name ∧
      device.mounted = device.mountPoint.isSome ∧
      ∀ size, device.sizeBytes = some size → 512 ∣ size := by
  rw [Machine.readUsbStorageDevice] at h
  obtain ⟨sizeText, -, h⟩ := bind_eq_ok_iff.mp h
  obtain ⟨sizeBytes, hsize, h⟩ := bind_eq_ok_iff.mp h
  obtain ⟨mountPoint, -, h⟩ := bind_eq_ok_iff.mp h
  obtain ⟨vendor, -, h⟩ := bind_eq_ok_iff.mp h
  obtain ⟨model, -, h⟩ := bind_eq_ok_iff.mp h
  obtain rfl := Except.ok.inj h
  exact ⟨rfl, rfl, rfl, fun size heq => dvd_of_sizeOfText (hsize.trans (congrArg _ heq))⟩

/-- What an entry gives, if it gives anything, is read from the device with its name. -/
theorem usbEntry_eq_ok {name : String} {entry : Option UsbStorageDevice}
    (h : m.usbEntry rt name = .ok entry) :
    ∀ device ∈ entry, m.readUsbStorageDevice rt name = .ok device := by
  rw [Machine.usbEntry] at h
  obtain ⟨removable, -, h⟩ := bind_eq_ok_iff.mp h
  split_ifs at h
  · obtain ⟨device, hdevice, h⟩ := bind_eq_ok_iff.mp h
    obtain rfl := Except.ok.inj h
    rintro _ ⟨⟩
    exact hdevice
  · obtain rfl := Except.ok.inj h
    rintro _ ⟨⟩

/-- The devices have the names of some of the entries, in their order. -/
theorem sublist_names {names : List String} {entries : List (Option UsbStorageDevice)}
    (h : List.Forall₂ (fun name entry => m.usbEntry rt name = .ok entry) names entries) :
    (entries.reduceOption.map UsbStorageDevice.name).Sublist names := by
  induction h with
  | nil => exact List.Sublist.slnil
  | @cons name entry names entries hentry _ ih =>
    cases entry with
    | none =>
      rw [List.reduceOption_cons_of_none]
      exact ih.cons name
    | some device =>
      obtain ⟨hname, -⟩ := readUsbStorageDevice_eq_ok (usbEntry_eq_ok hentry device rfl)
      rw [List.reduceOption_cons_of_some, List.map_cons, hname]
      exact ih.cons_cons name

theorem usbCoherent_of_collected {devices : List UsbStorageDevice}
    (h : m.collectUsbStorage rt = .ok devices) : UsbCoherent devices := by
  rw [Machine.collectUsbStorage] at h
  have hnames := collect_of_entries (fun names => do
    let entries ← liftPy (names.mapM (m.usbEntry rt))
    return entries.reduceOption) rfl h
  obtain ⟨entries, hentries, hdevices⟩ := bind_eq_ok_iff.mp hnames
  obtain rfl := Except.ok.inj hdevices
  have hall := (mapM_eq_ok_iff _ _ _).mp (liftPy_eq_ok_iff.mp hentries)
  have hread : ∀ device ∈ entries.reduceOption, ∃ name,
      m.readUsbStorageDevice rt name = .ok device := by
    intro device hdevice
    obtain ⟨name, -, hentry⟩ :=
      exists_mem_of_forall₂ hall.flip (List.reduceOption_mem_iff.mp hdevice)
    exact ⟨name, usbEntry_eq_ok hentry device rfl⟩
  refine ⟨(pairwise_names m _).sublist (sublist_names hall), ?_, ?_, ?_⟩
  all_goals
    intro device hdevice
    obtain ⟨name, hname⟩ := hread device hdevice
    obtain ⟨rfl, hpath, hmounted, hsize⟩ := readUsbStorageDevice_eq_ok hname
  · exact hpath
  · exact hmounted
  · exact hsize

/-! ### The inventory -/

/-- The variables of the firmware say nothing of the state of Secure Boot. -/
theorem readSecureBootState_eq_ok {state : SecureBootState}
    (h : m.readSecureBootState = .ok state) : state = .unknown := by
  rw [Machine.readSecureBootState] at h
  obtain ⟨answer, -, h⟩ := bind_eq_ok_iff.mp h
  cases answer <;> exact (Except.ok.inj h).symm

/-- What is collected of the firmware. -/
theorem collectFirmware_eq_ok {firmware : FirmwareInfo} (h : m.collectFirmware = .ok firmware) :
    firmware = { uefi := true, secureBoot := .unknown } ∨
      firmware = { uefi := false, secureBoot := .unsupported } := by
  rw [Machine.collectFirmware] at h
  obtain ⟨answer, -, h⟩ := bind_eq_ok_iff.mp h
  cases answer with
  | false => exact Or.inr (Except.ok.inj h).symm
  | true =>
    obtain ⟨state, hstate, h⟩ := bind_eq_ok_iff.mp h
    obtain rfl := readSecureBootState_eq_ok hstate
    exact Or.inl (Except.ok.inj h).symm

theorem storageCoherent_of_collected {devices : List StorageDevice}
    (h : m.collectStorage = .ok devices) : StorageCoherent devices := by
  rw [Machine.collectStorage] at h
  have hnil : StorageCoherent [] := by
    constructor <;> simp
  cases hdirectory : m.directory "/dev" with
  | absent | denied =>
    rw [hdirectory] at h
    exact Except.ok.inj h ▸ hnil
  | unknown =>
    rw [hdirectory] at h
    cases h
  | listed listing =>
    rw [hdirectory] at h
    obtain rfl := Except.ok.inj h
    have hnames (names : List String) : (names.map fun name =>
        ({ name, path := "/dev/" ++ name, isNvme := true } : StorageDevice)).map
          StorageDevice.name = names := by
      rw [List.map_map]
      exact List.map_id names
    refine ⟨(hnames _).symm ▸ pairwise_sortedTexts _, fun device hdevice => ?_,
      fun device hdevice => ?_⟩
    · simp only [List.mem_map, mem_sortedTexts, List.mem_filter] at hdevice
      obtain ⟨name, ⟨-, hnvme⟩, rfl⟩ := hdevice
      exact ⟨rfl, hnvme⟩
    · obtain ⟨name, -, rfl⟩ := List.mem_map.mp hdevice
      rfl

/-- **What holds of every inventory**: whatever the machine, the sections of an inventory that the
collectors have taken fit together. -/
theorem coherent_of_collected {inventory : HostInventory machineTypes}
    (h : m.collectHostInventory rt none = .ok inventory) : Coherent rt inventory := by
  rw [Machine.collectHostInventory] at h
  obtain ⟨firmware, hfirmware, h⟩ := bind_eq_ok_iff.mp h
  obtain ⟨observed, hobserved, h⟩ := bind_eq_ok_iff.mp h
  obtain ⟨sections, hsections, h⟩ := bind_eq_ok_iff.mp h
  obtain rfl := Except.ok.inj h
  rw [Machine.observed, Machine.collected] at hobserved
  obtain ⟨cpu, -, hobserved⟩ := bind_eq_ok_iff.mp hobserved
  obtain ⟨memory, hmemory, hobserved⟩ := bind_eq_ok_iff.mp hobserved
  obtain ⟨network, hnetwork, hobserved⟩ := bind_eq_ok_iff.mp hobserved
  obtain ⟨storage, hstorage, hobserved⟩ := bind_eq_ok_iff.mp hobserved
  obtain rfl := Except.ok.inj hobserved
  rw [Machine.collectSections] at hsections
  obtain ⟨identity, hidentity, hsections⟩ := bind_eq_ok_iff.mp hsections
  obtain ⟨os, -, hsections⟩ := bind_eq_ok_iff.mp hsections
  obtain ⟨esp, hesp, hsections⟩ := bind_eq_ok_iff.mp hsections
  obtain ⟨usb, husb, hsections⟩ := bind_eq_ok_iff.mp hsections
  obtain rfl := Except.ok.inj hsections
  exact {
    firmware := by rcases collectFirmware_eq_ok hfirmware with rfl | rfl <;> simp
    memory := inKilobytes_of_collectMemory (liftPy_eq_ok_iff.mp hmemory)
    storage := storageCoherent_of_collected hstorage
    identity := identityCoherent_of_collected hnetwork hidentity
    esp := espCoherent_of_collected hesp
    usb := usbCoherent_of_collected husb
    tooling := by
      refine ⟨rfl, fun tool htool => ?_⟩
      obtain ⟨name, -, rfl⟩ := List.mem_map.mp htool
      rfl }

/-- The bytes of a text. -/
def bytesOf (text : String) : Option (List UInt8) := some text.toUTF8.data.toList

/-- A machine with UEFI, two disks for which there is no adapter's topology, a stick and interfaces,
whose directories are not in order. -/
def teacherMachine : Machine where
  directory
    | "/sys/firmware/efi" | "/sys/firmware/efi/efivars" => .listed []
    | "/dev" => .listed ["nvme1n1", "sda", "nvme0n1"]
    | "/dev/disk/by-uuid" => .listed ["ABCD-1234"]
    | "/sys/block" => .listed ["sdb", "nvme0n1"]
    | "/sys/class/net" => .listed ["lo", "eth1", "eth0"]
    | _ => .absent
  readBytes
    | "/proc/mounts" => bytesOf
        "/dev/nvme0n1p1 /boot/efi vfat rw 0 0\n/dev/sdb1 /media/stick vfat rw 0 0\n"
    | "/proc/meminfo" => bytesOf "MemTotal: 16 kB\nMemAvailable: 8 kB\n"
    | "/sys/block/sdb/removable" => bytesOf "1\n"
    | "/sys/block/sdb/size" => bytesOf "2048\n"
    | "/sys/class/net/eth0/operstate" => bytesOf "up\n"
    | "/sys/class/net/eth0/address" => bytesOf "00:00:00:00:00:00\n"
    | "/sys/class/net/eth1/address" => bytesOf "52:54:00:12:34:56\n"
    | _ => none
  realpath
    | "/sys/block/sdb" => some "/sys/devices/pci0000:00/usb1/block/sdb"
    | "/dev/disk/by-uuid/ABCD-1234" | "/dev/nvme0n1p1" => some "/dev/nvme0n1p1"
    | _ => none
  statvfs := some fun _ => some ⟨512, 1000, 600⟩
  which _ := none
  system := "Linux"
  version := ""
  release := "6.1"
  machine := "x86_64"
  cpuCount := some 4
  now := ⟨0, by decide, by decide⟩

/-- Its inventory is taken, in order, and fits together. -/
theorem coherent_of_collected_teacher :
    ∃ inventory, teacherMachine.collectHostInventory asciiCollectors none = .ok inventory ∧
      (inventory.firmware = { uefi := true, secureBoot := .unknown } ∧
        inventory.memory = { totalBytes := some 16384, availableBytes := some 8192 } ∧
        inventory.storage.map StorageDevice.name = ["nvme0n1", "nvme1n1"] ∧
        inventory.network.map NetworkInterface.name = ["eth0", "eth1", "lo"] ∧
        inventory.sections.identity.primaryMacAddress = some "52:54:00:12:34:56" ∧
        inventory.sections.usbStorage.map UsbStorageDevice.mountPoint = [some "/media/stick"] ∧
        inventory.sections.efiSystemPartition.device = some "/dev/nvme0n1" ∧
        inventory.sections.efiSystemPartition.uuid = some "ABCD-1234") ∧
      Coherent asciiCollectors inventory := by
  obtain ⟨inventory, h, hsections⟩ : ∃ inventory,
      teacherMachine.collectHostInventory asciiCollectors none = .ok inventory ∧
        (inventory.firmware = { uefi := true, secureBoot := .unknown } ∧
          inventory.memory = { totalBytes := some 16384, availableBytes := some 8192 } ∧
          inventory.storage.map StorageDevice.name = ["nvme0n1", "nvme1n1"] ∧
          inventory.network.map NetworkInterface.name = ["eth0", "eth1", "lo"] ∧
          inventory.sections.identity.primaryMacAddress = some "52:54:00:12:34:56" ∧
          inventory.sections.usbStorage.map UsbStorageDevice.mountPoint = [some "/media/stick"] ∧
          inventory.sections.efiSystemPartition.device = some "/dev/nvme0n1" ∧
          inventory.sections.efiSystemPartition.uuid = some "ABCD-1234") := by decide +kernel
  exact ⟨inventory, h, hsections, coherent_of_collected h⟩

/-! ### Orchestrators -/

/-- Whether there are variables of the firmware, which is only asked where there is one. -/
def Machine.hasEfivars (m : Machine) (efiDirectory : Bool) : Except InventoryError Bool :=
  if efiDirectory then m.isDir "/sys/firmware/efi/efivars" else .ok false

/-- What the collectors find. -/
def Machine.facts (m : Machine) (rt : CollectorRuntime) :
    Except InventoryError (HostFacts machineTypes) := do
  let efiDirectory ← m.isDir "/sys/firmware/efi"
  let efivarsDirectory ← m.hasEfivars efiDirectory
  let observed ← m.collected rt { uefi := efiDirectory, secureBoot := .unknown }
  let sections ← m.collectSections rt
  return {
    efiDirectory
    efivarsDirectory
    cpu := observed.cpu
    memory := observed.memory
    storage := observed.storage
    network := observed.network
    sections }

variable {facts : HostFacts machineTypes}

/-- What the collectors find, one by one. -/
theorem facts_eq_ok (h : m.facts rt = .ok facts) :
    m.collectCpu rt = .ok facts.cpu ∧ m.collectMemory rt = .ok facts.memory ∧
      m.collectNetwork = .ok facts.network ∧ m.collectSections rt = .ok facts.sections ∧
      m.collectStorage = .ok facts.storage ∧ m.collectFirmware = .ok (collectFirmware facts) := by
  rw [Machine.facts] at h
  obtain ⟨efiDirectory, hefi, h⟩ := bind_eq_ok_iff.mp h
  obtain ⟨efivarsDirectory, hefivars, h⟩ := bind_eq_ok_iff.mp h
  obtain ⟨observed, hobserved, h⟩ := bind_eq_ok_iff.mp h
  obtain ⟨sections, hsections, h⟩ := bind_eq_ok_iff.mp h
  rw [Machine.collected] at hobserved
  obtain ⟨cpu, hcpu, hobserved⟩ := bind_eq_ok_iff.mp hobserved
  obtain ⟨memory, hmemory, hobserved⟩ := bind_eq_ok_iff.mp hobserved
  obtain ⟨network, hnetwork, hobserved⟩ := bind_eq_ok_iff.mp hobserved
  obtain ⟨storage, hstorage, hobserved⟩ := bind_eq_ok_iff.mp hobserved
  obtain rfl := Except.ok.inj hobserved
  obtain rfl := Except.ok.inj h
  refine ⟨liftPy_eq_ok_iff.mp hcpu, liftPy_eq_ok_iff.mp hmemory, hnetwork, hsections, hstorage, ?_⟩
  rw [Machine.collectFirmware, hefi]
  cases efiDirectory with
  | false => rfl
  | true =>
    rw [Machine.hasEfivars, if_pos rfl] at hefivars
    change (m.readSecureBootState >>= fun secureBoot =>
      .ok ({ uefi := true, secureBoot } : FirmwareInfo)) = _
    rw [Machine.readSecureBootState, hefivars]
    cases efivarsDirectory <;> rfl

/-- Where the collectors find `facts`, whatever the orchestrator, the inventory of the machine is
that of these facts. -/
theorem collectHostInventory_refines (h : m.facts rt = .ok facts)
    (orchestrator : Option (HostDiscoveryAdapters machineTypes.discovery)) :
    m.collectHostInventory rt orchestrator =
      liftRaised (collectHostInventory facts orchestrator) := by
  obtain ⟨hcpu, hmemory, hnetwork, hsections, hstorage, hfirmware⟩ := facts_eq_ok h
  cases orchestrator with
  | none =>
    rw [Machine.collectHostInventory, hfirmware, ok_bind, hsections, Machine.observed,
      Machine.collected, hcpu, hmemory, hnetwork, hstorage]
    rfl
  | some adapters =>
    rw [Machine.collectHostInventory, hfirmware, ok_bind, hsections, Machine.observed,
      Inventory.collectHostInventory]
    cases discover adapters with
    | error e => rfl
    | ok snapshot =>
      rw [liftRaised, ok_bind, Machine.discovered, hcpu, hmemory, hnetwork, hstorage]
      obtain ⟨_, storage, secureBoot, _, network, cpu, memory, _, _⟩ := snapshot
      cases storage <;> cases secureBoot <;> cases network <;> cases cpu <;> cases memory <;> rfl

/-- An inventory with what a discovery returned in the place of what the collectors said. -/
def HostInventory.overlay (inventory : HostInventory machineTypes)
    (snapshot : HostDiscoverySnapshot machineTypes.discovery) : HostInventory machineTypes where
  firmware := { inventory.firmware with
    secureBoot := (snapshot.secureBoot.map translateSecureBootState).getD
      inventory.firmware.secureBoot }
  cpu := snapshot.cpu.getD inventory.cpu
  memory := snapshot.memory.getD inventory.memory
  storage := (snapshot.storageTopology.map translateStorageDevices).getD inventory.storage
  network := (snapshot.network.map translateNetworkInterfaces).getD inventory.network
  sections := inventory.sections

/-- Where an inventory is taken without an orchestrator, the collectors find facts. -/
theorem exists_facts_of_collected
    (h : ∃ inventory, m.collectHostInventory rt none = .ok inventory) :
    ∃ facts, m.facts rt = .ok facts := by
  obtain ⟨hfirmware, hhardware, hnetwork, hdev, hsections⟩ :=
    collectHostInventory_none_returns_iff.mp h
  obtain ⟨efiDirectory, hefi⟩ := Machine.isDir_returns_iff.mpr hfirmware.efi
  obtain ⟨efivarsDirectory, hefivars⟩ : ∃ answer, m.hasEfivars efiDirectory = .ok answer := by
    cases efiDirectory with
    | false => exact ⟨false, rfl⟩
    | true => exact Machine.isDir_returns_iff.mpr (hfirmware.efivars hefi)
  obtain ⟨observed, hobserved⟩ :=
    (collected_returns_iff { uefi := efiDirectory, secureBoot := .unknown }).mpr
      ⟨hhardware, hnetwork, hdev⟩
  obtain ⟨sections, hsections⟩ := Machine.collectSections_returns_iff.mpr hsections
  rw [Machine.facts, hefi, ok_bind, hefivars, ok_bind, hobserved, ok_bind, hsections]
  exact ⟨_, rfl⟩

/-- Where an inventory is taken without an orchestrator, the collectors find facts, and it is that
of these facts. -/
theorem exists_facts {inventory : HostInventory machineTypes}
    (h : m.collectHostInventory rt none = .ok inventory) :
    ∃ facts, m.facts rt = .ok facts ∧ inventory = collectedInventory facts := by
  have hfacts : ∃ facts, m.facts rt = .ok facts := exists_facts_of_collected ⟨inventory, h⟩
  obtain ⟨facts, hfacts⟩ := hfacts
  rw [collectHostInventory_refines hfacts, Inventory.collectHostInventory] at h
  exact ⟨facts, hfacts, (Except.ok.inj h).symm⟩

/-- What a discovery returned takes the place of what the collectors said. -/
theorem discoveredInventory_eq_overlay (facts : HostFacts machineTypes)
    (snapshot : HostDiscoverySnapshot machineTypes.discovery) :
    discoveredInventory facts snapshot = (collectedInventory facts).overlay snapshot := by
  obtain ⟨_, storage, secure, _, network, _, _, _, _⟩ := snapshot
  cases storage <;> cases secure <;> cases network <;> rfl

/-- **Fallback**: where an inventory can be taken without an orchestrator, an orchestrator raises
the first exception of its adapters that is not one of the platform layer. If there is none, the
inventory differs in what the adapters returned and in nothing else. -/
theorem collectHostInventory_eq_overlay {inventory : HostInventory machineTypes}
    (h : m.collectHostInventory rt none = .ok inventory)
    (adapters : HostDiscoveryAdapters machineTypes.discovery) :
    m.collectHostInventory rt (some adapters) = match fatalErrors adapters with
      | e :: _ => .error (.raised (.python e))
      | [] => .ok (inventory.overlay (snapshot adapters)) := by
  obtain ⟨facts, hfacts, rfl⟩ := exists_facts h
  rw [collectHostInventory_refines hfacts, Inventory.collectHostInventory, discover_eq]
  cases fatalErrors adapters with
  | nil => rw [← discoveredInventory_eq_overlay]; rfl
  | cons e es => rfl

/-- A machine of which nothing is known but its architecture. -/
def bareMachine : Machine where
  directory _ := .absent
  readBytes _ := none
  realpath _ := none
  statvfs := none
  which _ := none
  system := "Linux"
  version := ""
  release := "6.1"
  machine := "x86_64"
  cpuCount := some 4
  now := ⟨0, by decide, by decide⟩

/-- Its inventory. -/
def bareInventory : HostInventory machineTypes where
  firmware := { uefi := false, secureBoot := .unsupported }
  cpu := { architecture := "x86_64", logicalCores := some 4 }
  memory := {}
  storage := []
  network := []
  sections := {
    collectedAt := ⟨0, by decide, by decide⟩
    identity := {}
    operatingSystem := { name := "Linux", kernel := some "6.1", architecture := "x86_64" }
    efiSystemPartition := { present := false, mounted := false }
    tooling := [
      { name := "clonezilla", found := false }, { name := "partclone", found := false }] }

theorem collectHostInventory_eq_overlay_cpu :
    bareMachine.collectHostInventory asciiCollectors
        (some { cpu := some (.ok { architecture := "aarch64" }) }) =
      .ok { bareInventory with cpu := { architecture := "aarch64" } } :=
  (collectHostInventory_eq_overlay (m := bareMachine) rfl _).trans rfl

end ClassroomSuite.Inventory
