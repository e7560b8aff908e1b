import ClassroomSuite.Inventory.Legibility
import ClassroomSuite.Inventory.StorageIsolation
import ClassroomSuite.Platform.Filesystem.Classification
import ClassroomSuite.Platform.Network.Isolation

/-!
# The inventory of the program

The program takes its inventory with the adapters of five tools and the collectors of processor and
memory in the slots of the orchestrator. Of the adapters, those of storage and network let an
exception escape, when the outputs they parse have a stray; the collectors in the slots escape on
what they cannot read. `mainInventory_returns_iff` puts the conditions together.

Source: `cli/src/bcs/inventory/service.py`, `cli/src/bcs/inventory/discovery/orchestrator.py`, the
adapters of `main` in `cli/src/bcs/app.py`.

## Main definitions

* `Prints`, `StorageMeetsStray`, `NetworkMeetsStray`, `StorageUnavailable`, `NetworkUnavailable`:
  what the tools do.

## Main results

* `collectHostInventory_none_returns_iff`, `mainInventory_returns_iff`.
-/

namespace ClassroomSuite.Inventory

open Python Library Platform

/-! ### What the tools do -/

section Tools

variable (models : ModelRuntime) (runner : CommandRunner) (environ : List (String × String))

/-- The command succeeds and prints the output. -/
def Prints (command : List String) (timeoutSeconds : ℚ) (output : String) : Prop :=
  ∃ result, runner {
      command, timeoutSeconds := some timeoutSeconds, env := plainLocale environ } = .ok result ∧
    result.exitCode = some 0 ∧ result.stdout = output

/-- The three tools of the storage adapter succeed, and their outputs can be read up to a stray. -/
def StorageMeetsStray : Prop :=
  ∃ lsblkOutput blkidOutput findmntOutput,
    Prints runner environ ["lsblk", "-J", "-b"] 10 lsblkOutput ∧
    Prints runner environ ["blkid", "-p", "-o", "json"] 10 blkidOutput ∧
    Prints runner environ ["findmnt", "-J"] 10 findmntOutput ∧
    Storage.StorageStray models lsblkOutput blkidOutput findmntOutput

/-- The tool of the network adapter succeeds, and its output can be read up to a stray. -/
def NetworkMeetsStray : Prop :=
  ∃ output, Prints runner environ ["ip", "-json", "addr", "show"] 5 output ∧
    Network.NetworkStray models output

end Tools

variable {models : ModelRuntime} {runner : CommandRunner} {environ : List (String × String)}

theorem prints_iff {domain : AdapterDomain} {patterns : List String} {unavailable tool : String}
    {args : List String} {timeoutSeconds : ℚ} {text : TextRuntime} {output : String} :
    runForOutput text domain patterns unavailable runner tool args (some timeoutSeconds)
      (plainLocale environ) = .ok output ↔
        Prints runner environ (tool :: args) timeoutSeconds output :=
  runForOutput_eq_ok_iff

/-- The storage adapter lets an exception escape when its parser meets a stray. -/
theorem escapes_readStorageTopology_iff :
    Raises Raised.Escapes (Storage.readStorageTopology models runner environ) ↔
      StorageMeetsStray models runner environ := by
  have hrun (tool : String) (args : List String) :
      ¬ Raises Raised.Escapes (Storage.runTool models runner tool args (some 10)
        (plainLocale environ)) :=
    not_escapes_runForOutput _ _ _ _ _ _
  constructor
  · intro h
    obtain ⟨lsblk, hlsblk, h⟩ := (raises_bind_iff_of_not _ (hrun _ _) _).mp h
    obtain ⟨blkid, hblkid, h⟩ := (raises_bind_iff_of_not _ (hrun _ _) _).mp h
    obtain ⟨findmnt, hfindmnt, h⟩ := (raises_bind_iff_of_not _ (hrun _ _) _).mp h
    rw [escapes_parsedOutput_iff, Storage.unhandled_parseStorageTopology_iff] at h
    exact ⟨lsblk, blkid, findmnt, prints_iff.mp hlsblk, prints_iff.mp hblkid,
      prints_iff.mp hfindmnt, h⟩
  · rintro ⟨lsblk, blkid, findmnt, hlsblk, hblkid, hfindmnt, hstray⟩
    refine (raises_bind_iff_of_not _ (hrun _ _) _).mpr ⟨lsblk, prints_iff.mpr hlsblk, ?_⟩
    refine (raises_bind_iff_of_not _ (hrun _ _) _).mpr ⟨blkid, prints_iff.mpr hblkid, ?_⟩
    refine (raises_bind_iff_of_not _ (hrun _ _) _).mpr ⟨findmnt, prints_iff.mpr hfindmnt, ?_⟩
    rw [escapes_parsedOutput_iff, Storage.unhandled_parseStorageTopology_iff]
    exact hstray

/-- The network adapter lets an exception escape when its parser meets a stray. -/
theorem escapes_readNetworkInterfaces_iff :
    Raises Raised.Escapes (Network.readNetworkInterfaces models runner environ) ↔
      NetworkMeetsStray models runner environ := by
  rw [Network.readNetworkInterfaces,
    raises_bind_iff_of_not _ (not_escapes_runForOutput _ _ _ _ _ _)]
  simp only [escapes_parsedOutput_iff, Network.unhandled_parseNetworkInterfaces_iff, prints_iff,
    NetworkMeetsStray]

theorem not_escapes_readSecureBootStatus (text : TextRuntime) (runner : CommandRunner)
    (environ : List (String × String)) :
    ¬ Raises Raised.Escapes (SecureBoot.readSecureBootStatus text runner environ) := by
  have hline (line : List Char) (number : ℕ) :
      ¬ Raises PyError.Unhandled (SecureBoot.readLine text line number) := by
    rw [SecureBoot.readLine]
    split_ifs
    · exact not_raises_ok _ _
    · cases SecureBoot.matchValue "SecureBoot" (strip isSpace line) <;> simp [SecureBoot.malformed]
    · cases SecureBoot.matchValue "SetupMode" (strip isSpace line) <;> simp [SecureBoot.malformed]
    · exact not_raises_ok _ _
  refine not_raises_bind _ (not_escapes_runForOutput _ _ _ _ _ _) fun output _ =>
    not_raises_bind _ ?_ fun status _ => ?_
  · rw [escapes_parsedOutput_iff]
    exact not_raises_bind _ (not_raises_mapM _ fun _ _ => hline _ _) fun _ _ => not_raises_ok _ _
  · split_ifs <;> simp [Raised.Escapes]

theorem not_escapes_readFilesystemUsage (text : TextRuntime) (numerals : Numerals) :
    ¬ Raises Raised.Escapes (Filesystem.readFilesystemUsage text numerals runner environ) := by
  rw [Filesystem.readFilesystemUsage]
  cases runner { command := Filesystem.dfCommand, timeoutSeconds := some 10
                 env := plainLocale environ } with
  | error e => simp [Raised.Escapes]
  | ok result =>
    refine not_raises_bind _ ?_ fun report _ => ?_
    · rw [escapes_parsedOutput_iff]
      exact not_raises_bind _
        (not_raises_mapM _ fun _ _ => Filesystem.not_unhandled_parseLine text numerals _ _)
        fun _ _ => not_raises_ok _ _
    · split_ifs <;> simp [Raised.Escapes]

/-! ### The inventory -/

variable {rt : CollectorRuntime} {m : Machine}

/-- The sections without an orchestrator are collected if processor, memory and interfaces can be
read, and the directory of the devices can be looked up. -/
theorem collected_returns_iff (firmware : FirmwareInfo) :
    (∃ observed, m.collected rt firmware = .ok observed) ↔
      m.HardwareLegible rt ∧ m.NetworkLegible ∧ m.LooksUp "/dev" := by
  rw [Machine.collected, ← Machine.hardware_returns_iff, ← Machine.collectNetwork_returns_iff,
    ← Machine.collectStorage_returns_iff, returns_bind_iff]
  simp only [returns_bind_iff, liftPy_eq_ok_iff, pure_eq_ok, Except.ok.injEq, exists_eq', and_true,
    exists_and_right, and_assoc]

/-- **The inventory without an orchestrator** is taken exactly where the files and directories of
the machine can be read. -/
theorem collectHostInventory_none_returns_iff :
    (∃ inventory, m.collectHostInventory rt none = .ok inventory) ↔
      m.FirmwareLegible ∧ m.HardwareLegible rt ∧ m.NetworkLegible ∧ m.LooksUp "/dev" ∧
        m.SectionsLegible rt := by
  rw [Machine.collectHostInventory, returns_bind_iff]
  simp only [returns_bind_iff, pure_eq_ok, Except.ok.injEq, exists_eq', and_true, exists_and_right,
    Machine.observed, collected_returns_iff, Machine.collectFirmware_returns_iff,
    Machine.collectSections_returns_iff, and_assoc]

/-- A collector in a slot ends the discovery exactly where it raises an exception. -/
theorem fatal_mapError_eq_none_iff {α : Type} {x : Except PyError α} :
    fatal (some (x.mapError Raised.python)) = none ↔ ∃ a, x = .ok a := by
  cases x <;> simp [Except.mapError, fatal]

/-- The discovery of the program is ended by strays, and by a processor or a memory that cannot be
read. -/
theorem fatalErrors_main_eq_nil_iff :
    fatalErrors (mainAdapters models runner environ (m.slots rt models runner environ)) = [] ↔
      m.HardwareLegible rt ∧ ¬ StorageMeetsStray models runner environ ∧
        ¬ NetworkMeetsStray models runner environ := by
  have hefi : fatal (some (m.slots rt models runner environ).efi) = none :=
    (fatal_eq_none_iff _).mpr (Efi.not_escapes_readFirmwareBootConfiguration _ _ _)
  have hsecure : fatal (some (m.slots rt models runner environ).secureBoot) = none :=
    (fatal_eq_none_iff _).mpr (not_escapes_readSecureBootStatus _ _ _)
  have hfilesystem : fatal (some (m.slots rt models runner environ).filesystem) = none :=
    (fatal_eq_none_iff _).mpr (not_escapes_readFilesystemUsage _ _)
  have hcpu : fatal (some (m.slots rt models runner environ).cpu) = none ↔
      ∃ cpu, m.collectCpu rt = .ok cpu := fatal_mapError_eq_none_iff
  have hmemory : fatal (some (m.slots rt models runner environ).memory) = none ↔
      ∃ memory, m.collectMemory rt = .ok memory := fatal_mapError_eq_none_iff
  have hstorage := (fatal_eq_none_iff (Storage.readStorageTopology models runner environ)).trans
    (not_congr escapes_readStorageTopology_iff)
  have hnetwork := (fatal_eq_none_iff (Network.readNetworkInterfaces models runner environ)).trans
    (not_congr escapes_readNetworkInterfaces_iff)
  have htpm : fatal (mainAdapters models runner environ
      (m.slots rt models runner environ)).tpm = none := rfl
  rw [fatalErrors, htpm, ← Machine.hardware_returns_iff, ← hcpu, ← hmemory, ← hstorage, ← hnetwork]
  simp only [mainAdapters, hefi, hsecure, hfilesystem, Option.toList_none, List.nil_append,
    List.append_nil, List.append_eq_nil_iff, Option.toList_eq_nil_iff]
  tauto

end ClassroomSuite.Inventory
