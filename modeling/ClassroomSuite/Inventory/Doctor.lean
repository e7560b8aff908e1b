import ClassroomSuite.Config.Validator
import ClassroomSuite.Inventory.Service

/-!
# The host diagnosis and the inventory

The diagnosis checks storage and network by asking the adapters themselves, and the collectors where
an adapter fails; the inventory asks the same adapters through the orchestrator. On a host on which
the adapters raise nothing but exceptions of the platform layer, the two find the same devices and
the same interfaces.

Source: `cli/src/bcs/commands/doctor.py`, the adapters of `main` in `cli/src/bcs/app.py`.

## Main definitions

* `checkStorage`, `checkNetwork`, `checkSecureBoot`.
* `mainAdapters`: the adapters that the root callback gives to the orchestrator.
* `StorageAgrees`, `NetworkAgrees`.

## Main results

* `doctor_agrees`.
-/

namespace ClassroomSuite.Inventory

open Python Library Platform Config

/-! ### The checks -/

variable {H : HostTypes} {α β : Type}

/-- Use what an adapter returned, or a fallback after an exception of the platform layer. -/
def adapterOr (adapter : Except Raised α) (use : α → β) (fallback : β) : Except Raised β :=
  match adapter with
  | .ok a => .ok (use a)
  | .error (.platform _) => .ok fallback
  | .error (.python e) => .error (.python e)

section Checks

variable (rt : ModelRuntime) (runner : CommandRunner) (environ : List (String × String))
  (facts : HostFacts H)

/-- The names of the devices that the storage check considers. -/
def storageNames : Except Raised (List String) :=
  adapterOr (Storage.readStorageTopology rt runner environ)
    (fun topology =>
      (topology.devices.filter fun device => device.deviceType = "disk").map
        Storage.BlockDevice.name)
    (facts.storage.map StorageDevice.name)

/-- What the storage check says of the devices. -/
def storageCheck (names : List String) : CheckResult :=
  if names ≠ [] then ⟨"storage", .ok, "storage device(s) found: " ++ ", ".intercalate names⟩
  else ⟨"storage", .fail, "no storage device found (PLAT-005)"⟩

/-- `_check_storage`, where the facts say what the collector finds. -/
def checkStorage : Except Raised CheckResult :=
  (storageNames rt runner environ facts).map storageCheck

/-- What the network check reads of an interface, of the adapter or of the collector. -/
structure InterfaceLike where
  name : String
  isUp : Bool
  isLoopback : Bool
  deriving DecidableEq, Repr

/-- What the network check reads of a collected interface. -/
def NetworkInterface.like (iface : NetworkInterface) : InterfaceLike :=
  ⟨iface.name, iface.isUp, iface.isLoopback⟩

/-- The interfaces that the network check considers. -/
def networkInterfaces : Except Raised (List InterfaceLike) :=
  adapterOr (Network.readNetworkInterfaces rt runner environ)
    (fun status => status.interfaces.map fun iface => ⟨iface.name, iface.isUp, iface.isLoopback⟩)
    (facts.network.map NetworkInterface.like)

/-- What the network check says of the interfaces. -/
def networkCheck (allInterfaces : List InterfaceLike) : CheckResult :=
  let interfaces := allInterfaces.filter fun iface => !iface.isLoopback
  let up := interfaces.filter InterfaceLike.isUp
  if interfaces = [] then ⟨"network", .skip, "no non-loopback network interfaces detected"⟩
  else if up ≠ [] then
    ⟨"network", .ok, toString up.length ++ " interface(s) up (" ++
      ", ".intercalate (up.map InterfaceLike.name) ++
      "); PXE/multicast reachability itself remains a placeholder (PLAT-007)"⟩
  else
    ⟨"network", .warn, toString interfaces.length ++
      " interface(s) detected but none are up (PLAT-007)"⟩

/-- `_check_network`, where the facts say what the collector finds. -/
def checkNetwork : Except Raised CheckResult :=
  (networkInterfaces rt runner environ facts).map networkCheck

/-- What the Secure Boot check says of a state. -/
def secureBootCheck (state : SecureBoot.SecureBootState) : CheckResult :=
  match state with
  | .enabled => ⟨"secure-boot", .ok, "Secure Boot is enabled (PLAT-004)"⟩
  | .disabled => ⟨"secure-boot", .warn, "Secure Boot is disabled (PLAT-004)"⟩
  | state => ⟨"secure-boot", .warn, "Secure Boot state could not be determined (" ++ state.value ++
      ") (PLAT-004)"⟩

/-- The Secure Boot check, which asks its adapter on a UEFI system only. -/
def checkSecureBoot (status : Except Raised SecureBoot.SecureBootStatus) :
    Except Raised CheckResult :=
  if (collectFirmware facts).uefi then
    match status with
    | .ok status => .ok (secureBootCheck status.state)
    | .error (.platform e) =>
      .ok ⟨"secure-boot", .warn, "Secure Boot state could not be determined (" ++ e.className ++
        ": " ++ e.message ++ ") (PLAT-004)"⟩
    | .error (.python e) => .error (.python e)
  else .ok ⟨"secure-boot", .skip, "not applicable: not running under UEFI"⟩

end Checks

/-! ### The adapters of the program -/

/-- What the slots other than storage and network do. -/
structure OtherSlots (H : HostTypes) where
  efi : Except Raised H.FirmwareBoot
  secureBoot : Except Raised SecureBoot.SecureBootStatus
  filesystem : Except Raised H.Filesystem
  cpu : Except Raised H.Cpu
  memory : Except Raised H.Memory

/-- None of these slots raises an exception outside of the platform layer. -/
structure OtherSlots.Contained (slots : OtherSlots H) : Prop where
  efi : ¬ Raises Raised.Escapes slots.efi
  secureBoot : ¬ Raises Raised.Escapes slots.secureBoot
  filesystem : ¬ Raises Raised.Escapes slots.filesystem
  cpu : ¬ Raises Raised.Escapes slots.cpu
  memory : ¬ Raises Raised.Escapes slots.memory

/-- The adapters that the root callback gives to the orchestrator; there is none for the TPM. -/
def mainAdapters (rt : ModelRuntime) (runner : CommandRunner) (environ : List (String × String))
    (slots : OtherSlots H) : HostDiscoveryAdapters H.discovery where
  efi := some slots.efi
  storage := some (Storage.readStorageTopology rt runner environ)
  secureBoot := some slots.secureBoot
  filesystem := some slots.filesystem
  network := some (Network.readNetworkInterfaces rt runner environ)
  cpu := some slots.cpu
  memory := some slots.memory

/-! ### Agreement -/

/-- What the storage check says of the devices of the inventory. -/
structure StorageAgrees (check : CheckResult) (devices : List StorageDevice) : Prop where
  ok : check.status = .ok ↔ devices ≠ []
  fail : check.status = .fail ↔ devices = []
  message : check.status = .ok → check.message =
    "storage device(s) found: " ++ ", ".intercalate (devices.map StorageDevice.name)

/-- The interface is no loopback interface and is up. -/
def NetworkInterface.Reachable (iface : NetworkInterface) : Prop :=
  iface.isLoopback = false ∧ iface.isUp = true

instance (iface : NetworkInterface) : Decidable iface.Reachable :=
  inferInstanceAs (Decidable (_ ∧ _))

/-- What the network check says of the interfaces of the inventory. -/
structure NetworkAgrees (check : CheckResult) (interfaces : List NetworkInterface) : Prop where
  skip : check.status = .skip ↔ ∀ iface ∈ interfaces, iface.isLoopback = true
  ok : check.status = .ok ↔ ∃ iface ∈ interfaces, iface.Reachable
  warn : check.status = .warn ↔ (∃ iface ∈ interfaces, iface.isLoopback = false) ∧
    ∀ iface ∈ interfaces, iface.isLoopback = false → iface.isUp = false
  up : check.status = .ok → check.message =
    toString (interfaces.countP fun iface => iface.Reachable) ++ " interface(s) up (" ++
      ", ".intercalate ((interfaces.filter fun iface => iface.Reachable).map NetworkInterface.name)
      ++ "); PXE/multicast reachability itself remains a placeholder (PLAT-007)"
  down : check.status = .warn → check.message =
    toString (interfaces.countP fun iface => !iface.isLoopback) ++
      " interface(s) detected but none are up (PLAT-007)"

theorem storageAgrees_storageCheck (devices : List StorageDevice) :
    StorageAgrees (storageCheck (devices.map StorageDevice.name)) devices := by
  unfold storageCheck
  by_cases hdevices : devices = []
  · subst hdevices
    exact ⟨by simp, by simp, by simp⟩
  · have hnames : devices.map StorageDevice.name ≠ [] := by simpa using hdevices
    rw [if_pos hnames]
    exact ⟨by simp [hdevices], by simp [hdevices], fun _ => rfl⟩

/-- The check by what holds of the interfaces of the inventory. -/
theorem networkCheck_map_like (interfaces : List NetworkInterface) :
    networkCheck (interfaces.map NetworkInterface.like) =
      if ∀ iface ∈ interfaces, iface.isLoopback = true then
        ⟨"network", .skip, "no non-loopback network interfaces detected"⟩
      else if ∃ iface ∈ interfaces, iface.Reachable then
        ⟨"network", .ok, toString (interfaces.countP fun iface => iface.Reachable) ++
          " interface(s) up (" ++ ", ".intercalate
            ((interfaces.filter fun iface => iface.Reachable).map NetworkInterface.name) ++
          "); PXE/multicast reachability itself remains a placeholder (PLAT-007)"⟩
      else
        ⟨"network", .warn, toString (interfaces.countP fun iface => !iface.isLoopback) ++
          " interface(s) detected but none are up (PLAT-007)"⟩ := by
  have hlike : (interfaces.map NetworkInterface.like).filter (fun iface => !iface.isLoopback) =
      (interfaces.filter fun iface => !iface.isLoopback).map NetworkInterface.like := by
    rw [List.filter_map]
    rfl
  have hup : ((interfaces.filter fun iface => !iface.isLoopback).map
        NetworkInterface.like).filter InterfaceLike.isUp =
      (interfaces.filter fun iface => iface.Reachable).map NetworkInterface.like := by
    rw [List.filter_map, List.filter_filter]
    refine congrArg _ (List.filter_congr fun iface _ => ?_)
    rw [Bool.eq_iff_iff]
    simp [NetworkInterface.Reachable, NetworkInterface.like, and_comm]
  have hnames : ((interfaces.filter fun iface => iface.Reachable).map
      NetworkInterface.like).map InterfaceLike.name =
      (interfaces.filter fun iface => iface.Reachable).map NetworkInterface.name := by
    rw [List.map_map]
    rfl
  have hall : (interfaces.filter fun iface => !iface.isLoopback) = [] ↔
      ∀ iface ∈ interfaces, iface.isLoopback = true := by
    simp [List.filter_eq_nil_iff]
  have hsome : (interfaces.filter fun iface => iface.Reachable) ≠ [] ↔
      ∃ iface ∈ interfaces, iface.Reachable := by
    simp [List.filter_eq_nil_iff]
  simp only [networkCheck, hlike, hup, hnames, ne_eq, List.map_eq_nil_iff, List.length_map,
    ← List.countP_eq_length_filter, hall, ← hsome]

theorem networkAgrees_networkCheck (interfaces : List NetworkInterface) :
    NetworkAgrees (networkCheck (interfaces.map NetworkInterface.like)) interfaces := by
  rw [networkCheck_map_like]
  split_ifs with hall hsome
  · exact {
      skip := iff_of_true rfl hall
      ok := iff_of_false CheckStatus.noConfusion fun ⟨iface, hmem, hreachable⟩ =>
        absurd hreachable.1 (by simp [hall iface hmem])
      warn := iff_of_false CheckStatus.noConfusion fun ⟨⟨iface, hmem, hiface⟩, _⟩ =>
        absurd hiface (by simp [hall iface hmem])
      up := CheckStatus.noConfusion
      down := CheckStatus.noConfusion }
  · obtain ⟨iface, hmem, hreachable⟩ := hsome
    exact {
      skip := iff_of_false CheckStatus.noConfusion hall
      ok := iff_of_true rfl ⟨iface, hmem, hreachable⟩
      warn := iff_of_false CheckStatus.noConfusion fun ⟨_, h⟩ =>
        absurd hreachable.2 (by simp [h iface hmem hreachable.1])
      up := fun _ => rfl
      down := CheckStatus.noConfusion }
  · have hother : ∃ iface ∈ interfaces, iface.isLoopback = false := by
      simpa using hall
    exact {
      skip := iff_of_false CheckStatus.noConfusion hall
      ok := iff_of_false CheckStatus.noConfusion hsome
      warn := iff_of_true rfl ⟨hother, fun iface hmem hloopback =>
        Bool.eq_false_iff.mpr fun hisUp => hsome ⟨iface, hmem, hloopback, hisUp⟩⟩
      up := CheckStatus.noConfusion
      down := fun _ => rfl }

/-- An adapter that stays in the platform layer is used, or replaced by the fallback. -/
theorem adapterOr_of_contained {adapter : Except Raised α} (h : ¬ Raises Raised.Escapes adapter)
    (use : α → β) (fallback : β) :
    adapterOr adapter use fallback = .ok (((returned (some adapter)).map use).getD fallback) := by
  rcases (not_escapes_iff adapter).mp h with ⟨a, rfl⟩ | ⟨e, rfl⟩ <;> rfl

variable {rt : ModelRuntime} {runner : CommandRunner} {environ : List (String × String)}

/-- The discovery of the program is not ended by adapters that stay in the platform layer. -/
theorem fatalErrors_mainAdapters {slots : OtherSlots H} (hslots : slots.Contained)
    (hstorage : ¬ Raises Raised.Escapes (Storage.readStorageTopology rt runner environ))
    (hnetwork : ¬ Raises Raised.Escapes (Network.readNetworkInterfaces rt runner environ)) :
    fatalErrors (mainAdapters rt runner environ slots) = [] := by
  simp only [fatalErrors, mainAdapters, (fatal_eq_none_iff _).mpr hslots.efi,
    (fatal_eq_none_iff _).mpr hstorage, (fatal_eq_none_iff _).mpr hslots.secureBoot,
    (fatal_eq_none_iff _).mpr hslots.filesystem, (fatal_eq_none_iff _).mpr hnetwork,
    (fatal_eq_none_iff _).mpr hslots.cpu, (fatal_eq_none_iff _).mpr hslots.memory]
  rfl

/-- The inventory of the program, where the discovery is not ended. -/
def mainInventory (rt : ModelRuntime) (runner : CommandRunner) (environ : List (String × String))
    (facts : HostFacts H) (slots : OtherSlots H) : HostInventory H :=
  discoveredInventory facts (snapshot (mainAdapters rt runner environ slots))

theorem storageNames_eq (facts : HostFacts H) (slots : OtherSlots H)
    (hstorage : ¬ Raises Raised.Escapes (Storage.readStorageTopology rt runner environ)) :
    storageNames rt runner environ facts =
      .ok ((mainInventory rt runner environ facts slots).storage.map StorageDevice.name) := by
  rw [storageNames, adapterOr_of_contained hstorage]
  simp only [mainInventory, discoveredInventory, snapshot, mainAdapters]
  cases returned (some (Storage.readStorageTopology rt runner environ)) with
  | none => rfl
  | some topology => simp [translateStorageDevices]

theorem networkInterfaces_eq (facts : HostFacts H) (slots : OtherSlots H)
    (hnetwork : ¬ Raises Raised.Escapes (Network.readNetworkInterfaces rt runner environ)) :
    networkInterfaces rt runner environ facts =
      .ok ((mainInventory rt runner environ facts slots).network.map NetworkInterface.like) := by
  rw [networkInterfaces, adapterOr_of_contained hnetwork]
  simp only [mainInventory, discoveredInventory, snapshot, mainAdapters]
  cases returned (some (Network.readNetworkInterfaces rt runner environ)) with
  | none => rfl
  | some status => simp [translateNetworkInterfaces, NetworkInterface.like]

/-- The diagnosis and the inventory find the same devices and interfaces. -/
theorem doctor_agrees {facts : HostFacts H} {slots : OtherSlots H} (hslots : slots.Contained)
    (hstorage : ¬ Raises Raised.Escapes (Storage.readStorageTopology rt runner environ))
    (hnetwork : ¬ Raises Raised.Escapes (Network.readNetworkInterfaces rt runner environ)) :
    ∃ inventory,
      collectHostInventory facts (some (mainAdapters rt runner environ slots)) = .ok inventory ∧
      storageNames rt runner environ facts = .ok (inventory.storage.map StorageDevice.name) ∧
      (∃ check, checkStorage rt runner environ facts = .ok check ∧
        StorageAgrees check inventory.storage) ∧
      ∃ check, checkNetwork rt runner environ facts = .ok check ∧
        NetworkAgrees check inventory.network := by
  refine ⟨_, collectHostInventory_some_eq_ok_iff.mpr
    ⟨fatalErrors_mainAdapters hslots hstorage hnetwork, rfl⟩, ?_⟩
  have hnames := storageNames_eq facts slots hstorage
  have hinterfaces := networkInterfaces_eq facts slots hnetwork
  refine ⟨hnames, ⟨_, ?_, storageAgrees_storageCheck _⟩, _, ?_, networkAgrees_networkCheck _⟩
  · rw [checkStorage, hnames]
    rfl
  · rw [checkNetwork, hinterfaces]
    rfl

/-- A host of whose hardware nothing else is known. -/
abbrev bareTypes : HostTypes := ⟨Unit, Unit, Unit, Unit, Unit, Unit⟩

/-- What the collectors find on a host with one disk and one interface, without UEFI. -/
def bareFacts : HostFacts bareTypes where
  efiDirectory := false
  efivarsDirectory := false
  cpu := ()
  memory := ()
  storage := [{ name := "nvme0n1", path := "/dev/nvme0n1", isNvme := true }]
  network := [{ name := "eth0", isUp := true, isLoopback := false }]
  sections := ()

/-- The runner of a host without any of the tools. -/
def noToolRunner : CommandRunner := fun request =>
  .error (.commandNotFound "no such tool" (request.command.headD ""))

/-- What the tools of a host with another disk and two interfaces print, of which one is up. The
texts stand for the values that are read from them. -/
def printedValues : List (String × Json) := [
  ("lsblk", .obj [("blockdevices", .arr [
    .obj [("name", .str "sda"), ("type", .str "disk"), ("ro", .bool false), ("rm", .bool false)],
    .obj [("name", .str "sr0"), ("type", .str "rom"), ("ro", .bool true), ("rm", .bool true)]])]),
  ("blkid", .obj [("blockdevices", .arr [])]),
  ("findmnt", .obj [("filesystems", .arr [])]),
  ("ip", .arr [
    .obj [("ifname", .str "lo"), ("flags", .arr [.str "UP", .str "LOWER_UP", .str "LOOPBACK"]),
      ("addr_info", .arr [])],
    .obj [("ifname", .str "enp1s0"), ("flags", .arr [.str "UP", .str "LOWER_UP"]),
      ("addr_info", .arr [])]])]

/-- The runtime that reads these texts. -/
def printedRuntime : ModelRuntime :=
  { ModelRuntime.reading "" .null with
    loads := fun text => match printedValues.lookup text with
      | some value => .ok value
      | none => .error "Expecting value: line 1 column 1 (char 0)" }

/-- The runner of this host, on which each tool prints its text. -/
def answeringRunner : CommandRunner := fun request =>
  match request.command with
  | [] => .error (.commandNotFound "no such tool" "")
  | tool :: args => .ok (.ended (tool :: args) (List.cons_ne_nil tool args)
      (if tool = "mokutil" then "SecureBoot enabled" else tool) "" 0 1)

/-- The diagnosis and the inventory agree where both ask the collectors, and where the tools
answer. -/
theorem doctor_agrees_hosts :
    (∃ inventory,
      collectHostInventory bareFacts (some (mainAdapters (.reading "" .null) noToolRunner []
        ⟨.ok (), .ok { state := .enabled, rawText := "" }, .ok (), .ok (), .ok ()⟩)) =
          .ok inventory ∧
      storageNames (.reading "" .null) noToolRunner [] bareFacts =
        .ok (inventory.storage.map StorageDevice.name) ∧
      (∃ check, checkStorage (.reading "" .null) noToolRunner [] bareFacts = .ok check ∧
        StorageAgrees check inventory.storage) ∧
      ∃ check, checkNetwork (.reading "" .null) noToolRunner [] bareFacts = .ok check ∧
        NetworkAgrees check inventory.network) ∧
    storageNames (.reading "" .null) noToolRunner [] bareFacts = .ok ["nvme0n1"] ∧
    (∃ inventory,
      collectHostInventory bareFacts (some (mainAdapters printedRuntime answeringRunner []
        ⟨.ok (), .ok { state := .enabled, rawText := "" }, .ok (), .ok (), .ok ()⟩)) =
          .ok inventory ∧
      storageNames printedRuntime answeringRunner [] bareFacts =
        .ok (inventory.storage.map StorageDevice.name) ∧
      (∃ check, checkStorage printedRuntime answeringRunner [] bareFacts = .ok check ∧
        StorageAgrees check inventory.storage) ∧
      ∃ check, checkNetwork printedRuntime answeringRunner [] bareFacts = .ok check ∧
        NetworkAgrees check inventory.network) ∧
    storageNames printedRuntime answeringRunner [] bareFacts = .ok ["sda"] ∧
    checkNetwork printedRuntime answeringRunner [] bareFacts = .ok ⟨"network", .ok,
      "1 interface(s) up (enp1s0); " ++
        "PXE/multicast reachability itself remains a placeholder (PLAT-007)"⟩ := by
  have hcontained : OtherSlots.Contained (H := bareTypes)
      ⟨.ok (), .ok { state := .enabled, rawText := "" }, .ok (), .ok (), .ok ()⟩ :=
    ⟨not_raises_ok _ _, not_raises_ok _ _, not_raises_ok _ _, not_raises_ok _ _,
      not_raises_ok _ _⟩
  obtain ⟨names, hnames, rfl⟩ : ∃ names,
      storageNames printedRuntime answeringRunner [] bareFacts = .ok names ∧ names = ["sda"] := by
    decide +kernel
  obtain ⟨check, hcheck, rfl⟩ : ∃ check,
      checkNetwork printedRuntime answeringRunner [] bareFacts = .ok check ∧
        check = ⟨"network", .ok, "1 interface(s) up (enp1s0); " ++
          "PXE/multicast reachability itself remains a placeholder (PLAT-007)"⟩ := by
    decide +kernel
  refine ⟨doctor_agrees hcontained ?_ ?_, rfl, doctor_agrees hcontained ?_ ?_, hnames, hcheck⟩
  · rintro ⟨e, he, hescapes⟩
    cases he
    exact hescapes
  · rintro ⟨e, he, hescapes⟩
    cases he
    exact hescapes
  · rintro ⟨e, he, -⟩
    cases he
  · rintro ⟨e, he, -⟩
    cases he

end ClassroomSuite.Inventory
