import ClassroomSuite.Commands.Doctor
import ClassroomSuite.Inventory.SnapshotFormat

/-!
# `bcs inventory`

The inventory is taken with the orchestrator of the program and handed to the console, as text or as
the fields of its model. What is handed over in a structured format can be read back, by the same
model and from its fields in any order.

Source: `cli/src/bcs/commands/inventory.py`, `print_model_result` of `cli/src/bcs/output.py`.

## Main definitions

* `inventoryText`, `runInventory`.
* `PrintsInventory`: how the command ends with an inventory.

## Main results

* `printsInventory_runInventory`.
-/

namespace ClassroomSuite.Commands

open Python Library Platform Inventory

/-! ### The text of an inventory -/

/-- A text, or another in the place of an empty or unknown one. -/
def orText (text : Option String) (other : String) : String :=
  (text.filter (· ≠ "")).getD other

/-- A number, or nothing in the place of zero. -/
def nonZero (number : Option ℕ) : Option ℕ := number.filter (· ≠ 0)

/-- A truth value (`_bool_text`). -/
def boolText (value : Bool) : String := if value then "[green]yes[/green]" else "[red]no[/red]"

/-- The identity and the firmware. -/
def identityAndFirmwareText (inventory : HostInventory machineTypes) : List Printed :=
  [.line "\n[bold]Identity[/bold]",
    .line ("  primary MAC address: " ++
      orText inventory.sections.identity.primaryMacAddress "[dim]unknown[/dim]"),
    .line ("  DMI product UUID:    " ++
      orText inventory.sections.identity.dmiProductUuid "[dim]unknown[/dim]"),
    .line "\n[bold]Firmware[/bold]",
    .line ("  UEFI:        " ++ boolText inventory.firmware.uefi),
    .line ("  Secure Boot: " ++ inventory.firmware.secureBoot.value)]

/-- The system, the processor and the memory. -/
def osCpuMemoryText (inventory : HostInventory machineTypes) : List Printed :=
  let os := inventory.sections.operatingSystem
  [.line "\n[bold]Operating System[/bold]",
    .line ("  " ++ os.name ++ " (" ++ os.architecture ++ ") - kernel " ++
      orText os.kernel "unknown"),
    .line "\n[bold]CPU[/bold]",
    .line ("  " ++ orText inventory.cpu.model "unknown model" ++ " (" ++
      inventory.cpu.architecture ++ ", " ++
      ((nonZero inventory.cpu.logicalCores).map toString).getD "?" ++ " logical cores)"),
    .line "\n[bold]Memory[/bold]",
    match nonZero inventory.memory.totalBytes with
    | some total => .sizeLine "  total: " total " GiB"
    | none => .line "  total: unknown"]

/-- The EFI system partition. -/
def efiSystemPartitionText (esp : EfiSystemPartition) : List Printed :=
  [.line "\n[bold]EFI System Partition[/bold]",
    if esp.present then
      .line ("  " ++ orText esp.partition "unknown" ++ " (" ++ orText esp.filesystem "unknown" ++
        "), mounted: " ++ boolText esp.mounted ++
        ((esp.mountPoint.filter (· ≠ "")).map fun path => " at " ++ path).getD "")
    else .line "  [dim]not present[/dim]"]

/-- The storage devices, as a table. -/
def storageText (devices : List StorageDevice) : List Printed :=
  [.line "\n[bold]Storage[/bold]",
    if devices ≠ [] then
      .table ["Device", "NVMe"] (devices.map fun device => [device.path, boolText device.isNvme])
    else .line "  [dim]no storage devices detected[/dim]"]

/-- The USB storage devices, as a table. -/
def usbStorageText (devices : List UsbStorageDevice) : List Printed :=
  [.line "\n[bold]USB Storage[/bold]",
    if devices ≠ [] then
      .table ["Device", "Model", "Mounted"] (devices.map fun device =>
        [device.path, orText device.model "-", boolText device.mounted])
    else .line "  [dim]no USB storage devices detected[/dim]"]

/-- The interfaces, as a table. -/
def networkText (interfaces : List NetworkInterface) : List Printed :=
  [.line "\n[bold]Network[/bold]",
    if interfaces ≠ [] then
      .table ["Interface", "MAC", "Up"] (interfaces.map fun iface =>
        [iface.name, orText iface.macAddress "-", boolText iface.isUp])
    else .line "  [dim]no network interfaces detected[/dim]"]

/-- The tools. -/
def toolingText (tools : List ToolStatus) : List Printed :=
  .line "\n[bold]Tooling[/bold]" :: tools.map fun tool =>
    .line ("  " ++ tool.name ++ ": " ++ boolText tool.found ++
      ((tool.path.filter (· ≠ "")).map fun path => " (" ++ path ++ ")").getD "")

/-- All sections, one after the other, behind the point in time. -/
def inventoryText (isoformat : Instant → String) (inventory : HostInventory machineTypes) :
    List Printed :=
  .line ("[bold]Host inventory[/bold] (collected " ++
    isoformat inventory.sections.collectedAt ++ ")") ::
  (identityAndFirmwareText inventory ++ osCpuMemoryText inventory ++
    efiSystemPartitionText inventory.sections.efiSystemPartition ++
    storageText inventory.storage ++ usbStorageText inventory.sections.usbStorage ++
    networkText inventory.network ++ toolingText inventory.sections.tooling)

/-! ### The command -/

section Command

variable (console : Console) (d : Diagnosis) (isoformat : Instant → String)
  (instants : Codec Instant) (format : OutputFormat)

/-- The fields of an inventory that has been taken, which has no other keys. -/
def inventoryFields (inventory : HostInventory machineTypes) : Fields :=
  (SnapshotFormat.rootFields instants).write inventory

/-- Print an inventory, as text or as one value. -/
def printInventory (inventory : HostInventory machineTypes) : Command Unit :=
  if format = .text then printAll console (inventoryText isoformat inventory)
  else printModelResult console format (inventoryFields instants inventory)

/-- `run_inventory`: take the inventory and print it. -/
def runInventory : Command ℕ := do
  let inventory ← liftCommand (ofInventory d.osErrorText)
    (d.machine.mainInventory d.collectors d.models d.runner d.environ)
  printInventory d.console isoformat instants format inventory
  return 0

/-- The command has ended with an inventory. In a structured format one value is handed to the
console, from which the model reads this inventory, whatever the order of its fields. It is what is
on the output where the console leaves the text of the value as it is. -/
structure PrintsInventory (inventory : HostInventory machineTypes) (ended : Ended) : Prop where
  text : format = .text → ended = console.finish (inventoryText isoformat inventory) [] 0
  structured : format ≠ .text → ∃ data, ended = console.finish [format.printed data] [] 0 ∧
    data.lookup "schemaVersion" = some (.str "bcs-inventory/v1alpha1") ∧
    (data.map Prod.fst).Nodup ∧
    (∀ fields, data.Perm fields →
      (SnapshotFormat.hostInventory instants).read (.obj fields) = some (inventory, .empty)) ∧
    ∀ dump, console.dump format data = .ok dump → console.render dump = .ok (dump ++ "\n") →
      ended = ⟨[dump ++ "\n"], [], 0⟩

end Command

/-- What is handed to the console of an inventory. -/
def inventoryOutput (isoformat : Instant → String) (instants : Codec Instant)
    (format : OutputFormat) (inventory : HostInventory machineTypes) : List Printed :=
  if format = .text then inventoryText isoformat inventory
  else [format.printed (inventoryFields instants inventory)]

theorem prints_printInventory (console : Console) (isoformat : Instant → String)
    (instants : Codec Instant) (format : OutputFormat) (inventory : HostInventory machineTypes) :
    Prints console (printInventory console isoformat instants format inventory)
      (inventoryOutput isoformat instants format inventory) () := by
  rw [printInventory, inventoryOutput]
  split_ifs with hformat
  · change printAll console (inventoryText isoformat inventory) =
      printAll console (inventoryText isoformat inventory) >>= pure
    rw [bind_pure]
  · exact prints_printJsonOrYaml hformat _

/-- An inventory without other keys is read from its fields in any order. -/
theorem read_inventoryFields (instants : Codec Instant) (inventory : HostInventory machineTypes)
    {fields : Fields} (hperm : (inventoryFields instants inventory).Perm fields) :
    (SnapshotFormat.hostInventory instants).read (.obj fields) = some (inventory, .empty) := by
  have hnodup : (Extension.empty.1.map Prod.fst).Nodup := List.nodup_nil
  have hfields : (inventoryFields instants inventory ++ Extension.empty.1).Perm fields := by
    rwa [Extension.empty, List.append_nil]
  obtain ⟨extra, hread, hextra⟩ := SnapshotFormat.read_of_perm instants inventory hnodup hfields
  have hempty : extra = .empty := Subtype.ext hextra.symm.eq_nil
  rw [hread, hempty]

/-- With an inventory, the run hands it to the console. -/
theorem run_of_inventory {d : Diagnosis} {isoformat : Instant → String} {instants : Codec Instant}
    {format : OutputFormat} {inventory : HostInventory machineTypes}
    (h : d.machine.mainInventory d.collectors d.models d.runner d.environ = .ok inventory) :
    (runInventory d isoformat instants format).run =
      d.console.finish (inventoryOutput isoformat instants format inventory) [] 0 := by
  have hprints : Prints d.console (runInventory d isoformat instants format)
      ([] ++ (inventoryOutput isoformat instants format inventory ++ [])) 0 :=
    (prints_liftCommand h).bind <|
      (prints_printInventory d.console isoformat instants format inventory).bind (.pure d.console 0)
  rw [List.nil_append, List.append_nil] at hprints
  exact run_of_prints hprints

/-- The exception of a collector or an adapter ends the run before anything is printed. -/
theorem run_of_no_inventory {d : Diagnosis} {isoformat : Instant → String}
    {instants : Codec Instant} {format : OutputFormat} {e : InventoryError}
    (h : d.machine.mainInventory d.collectors d.models d.runner d.environ = .error e) :
    (runInventory d isoformat instants format).run = (ofInventory d.osErrorText e).ends [] := by
  have hraises : RaisesAfter d.console (runInventory d isoformat instants format) []
      (ofInventory d.osErrorText e) := (raisesAfter_liftCommand h).bind _
  exact run_of_raises hraises

/-- **How `bcs inventory` ends**: it hands over an inventory that can be read back, or ends with
status 1 and nothing printed where no inventory is taken. -/
theorem printsInventory_runInventory (d : Diagnosis) (isoformat : Instant → String)
    (instants : Codec Instant) (format : OutputFormat) :
    match d.machine.mainInventory d.collectors d.models d.runner d.environ with
    | .ok inventory => PrintsInventory d.console isoformat instants format inventory
        (runInventory d isoformat instants format).run
    | .error _ => ∃ text, (runInventory d isoformat instants format).run =
        ⟨[], ["bcs: unexpected error: " ++ text ++ "\n"], 1⟩ := by
  cases h : d.machine.mainInventory d.collectors d.models d.runner d.environ with
  | error e =>
    dsimp only
    rw [run_of_no_inventory h]
    rcases e with (e | e) | _ <;> exact ⟨_, rfl⟩
  | ok inventory =>
    dsimp only
    rw [run_of_inventory h]
    refine ⟨fun hformat => by rw [inventoryOutput, if_pos hformat], fun hformat =>
      ⟨inventoryFields instants inventory, by rw [inventoryOutput, if_neg hformat], rfl,
        SnapshotFormat.nodup_write instants inventory, fun fields hperm =>
          read_inventoryFields instants inventory hperm, fun dump hdump hrender => ?_⟩⟩
    rw [inventoryOutput, if_neg hformat]
    exact Console.finish_printed hdump hrender [] 0

end ClassroomSuite.Commands
