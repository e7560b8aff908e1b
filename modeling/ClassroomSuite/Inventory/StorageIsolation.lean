import ClassroomSuite.Inventory.Discovery
import ClassroomSuite.Platform.Storage.Strays

/-!
# Isolation of the storage adapter

Whatever the storage tools print, the parser is meant to return or to raise a value error, so that
the adapter raises exceptions of the platform layer only and the discovery of the host goes on. This
is so exactly for the outputs in which the parser meets no stray (`storageIsolated_iff`).

Source: `cli/src/bcs/platform/adapters/storage/parser.py`,
`cli/src/bcs/platform/adapters/storage/adapter.py`,
`cli/src/bcs/inventory/discovery/orchestrator.py`.

## Main definitions

* `StorageIsolated`: what is meant to hold of three outputs.

## Main results

* `storageIsolated_iff`.
-/

namespace ClassroomSuite.Inventory

open Python Library Platform Platform.Storage

/-- The outputs are parsed or raise a value error. With every runner that prints them, the adapter
returns or raises an exception of the platform layer, and a discovery with the adapter fails only
where it fails without it. -/
structure StorageIsolated (rt : ModelRuntime) (lsblkOutput blkidOutput findmntOutput : String) :
    Prop where
  parse : (∃ c, parseStorageTopology rt lsblkOutput blkidOutput findmntOutput = .ok c) ∨
    ∃ e, parseStorageTopology rt lsblkOutput blkidOutput findmntOutput = .error e ∧
      e.isValueError = true
  read (runner : CommandRunner) (environ : List (String × String)) (timeoutSeconds : Option ℚ)
    (hprints : Prints runner environ timeoutSeconds lsblkOutput blkidOutput findmntOutput) :
    (∃ c, readStorageTopology rt runner environ timeoutSeconds = .ok c) ∨
      ∃ e, readStorageTopology rt runner environ timeoutSeconds = .error (.platform e)
  discover (runner : CommandRunner) (environ : List (String × String))
    (timeoutSeconds : Option ℚ)
    (hprints : Prints runner environ timeoutSeconds lsblkOutput blkidOutput findmntOutput)
    (T : DiscoveryTypes) (adapters : HostDiscoveryAdapters T)
    (hstorage : adapters.storage = some (readStorageTopology rt runner environ timeoutSeconds))
    (e : Raised) (he : discover adapters = .error e) :
    discover { adapters with storage := none } = .error e

/-- The storage is isolated exactly from outputs in which the parser meets no stray. -/
theorem storageIsolated_iff (rt : ModelRuntime)
    (lsblkOutput blkidOutput findmntOutput : String) :
    StorageIsolated rt lsblkOutput blkidOutput findmntOutput ↔
      ¬ StorageStray rt lsblkOutput blkidOutput findmntOutput := by
  rw [← unhandled_parseStorageTopology_iff]
  constructor
  · exact fun h => (not_unhandled_iff _).mpr h.parse
  · intro h
    refine ⟨(not_unhandled_iff _).mp h, fun runner environ timeoutSeconds hprints => ?_,
      fun runner environ timeoutSeconds hprints T adapters hstorage e he => ?_⟩
    · exact (not_escapes_iff _).mp (mt (escapes_parse_of_escapes_read hprints) h)
    · refine discover_eq_error_of_fatal_storage ?_ he
      rw [hstorage, fatal_eq_none_iff]
      exact mt (escapes_parse_of_escapes_read hprints) h

/-- The text of a device tree with a disk whose one child is null. -/
def strayDeviceText : String :=
  "\x7b\"blockdevices\":[\x7b\"name\":\"sda\",\"type\":\"disk\",\"ro\":false,\"rm\":false," ++
    "\"children\":[null]\x7d]\x7d"

/-- The value that is read from the text. -/
def strayDeviceTree : Json :=
  .obj [("blockdevices", .arr [.obj [("name", .str "sda"), ("type", .str "disk"),
    ("ro", .bool false), ("rm", .bool false), ("children", .arr [.null])]])]

/-- The storage is not isolated from a device tree with a null child. -/
theorem storage_stray_child :
    ¬ ∀ (rt : ModelRuntime) (lsblkOutput blkidOutput findmntOutput : String),
      StorageIsolated rt lsblkOutput blkidOutput findmntOutput := by
  intro h
  have hparse : parseStorageTopology (.reading strayDeviceText strayDeviceTree) strayDeviceText
      "" "" = .error (.attributeError "'NoneType' object has no attribute 'get'") := by rfl
  rcases (h (.reading strayDeviceText strayDeviceTree) strayDeviceText "" "").parse with
    ⟨c, hc⟩ | ⟨e, he, hvalue⟩
  · cases hparse.symm.trans hc
  · obtain rfl := Except.error.inj (hparse.symm.trans he)
    exact absurd hvalue (by decide)

end ClassroomSuite.Inventory
