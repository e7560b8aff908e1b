import ClassroomSuite.Platform.Network.Adapter
import ClassroomSuite.Platform.Storage.Adapter

/-!
# Host discovery

The orchestrator calls every adapter it was given, in a fixed order, and collects what they return.
An exception of the platform layer leaves the field of its domain empty and becomes a caveat; every
other exception ends the discovery. An adapter is given by the outcome of calling it.

Source: `cli/src/bcs/inventory/discovery/models.py`,
`cli/src/bcs/inventory/discovery/orchestrator.py`.

## Main definitions

* `HostDiscoveryAdapters`, `HostDiscoverySnapshot`.
* `callAdapter`, `discover`.
* `snapshot`, `fatalErrors`: what a discovery returns, and what ends it.

## Main results

* `discover_eq`, `discover_eq_error_of_fatal_storage`.
-/

namespace ClassroomSuite.Inventory

open Python Library Platform

/-- The types of what the adapters return, except those of storage and network. -/
structure DiscoveryTypes where
  FirmwareBoot : Type
  SecureBoot : Type
  Filesystem : Type
  Cpu : Type
  Memory : Type
  Tpm : Type

variable {T : DiscoveryTypes} {α : Type}

/-- The adapters, one for each domain that has one. -/
structure HostDiscoveryAdapters (T : DiscoveryTypes) where
  efi : Option (Except Raised T.FirmwareBoot) := none
  storage : Option (Except Raised Storage.StorageConfiguration) := none
  secureBoot : Option (Except Raised T.SecureBoot) := none
  filesystem : Option (Except Raised T.Filesystem) := none
  network : Option (Except Raised Network.NetworkInterfaceStatus) := none
  cpu : Option (Except Raised T.Cpu) := none
  memory : Option (Except Raised T.Memory) := none
  tpm : Option (Except Raised T.Tpm) := none

/-- What the adapters returned. -/
structure HostDiscoverySnapshot (T : DiscoveryTypes) where
  firmwareBootConfiguration : Option T.FirmwareBoot := none
  storageTopology : Option Storage.StorageConfiguration := none
  secureBoot : Option T.SecureBoot := none
  filesystem : Option T.Filesystem := none
  network : Option Network.NetworkInterfaceStatus := none
  cpu : Option T.Cpu := none
  memory : Option T.Memory := none
  tpm : Option T.Tpm := none
  caveats : List String := []

/-- Call one adapter, collecting its caveat. -/
def callAdapter (domain : String) (adapter : Option (Except Raised α)) :
    StateT (List String) (Except Raised) (Option α) := fun caveats =>
  match adapter with
  | none => .ok (none, caveats)
  | some (.ok a) => .ok (some a, caveats)
  | some (.error (.platform e)) =>
    .ok (none, caveats ++ [domain ++ ": " ++ e.className ++ ": " ++ e.message])
  | some (.error (.python e)) => .error (.python e)

/-- Call all adapters. -/
def callAdapters (adapters : HostDiscoveryAdapters T) :
    StateT (List String) (Except Raised) (HostDiscoverySnapshot T) := do
  let firmwareBootConfiguration ← callAdapter "efi" adapters.efi
  let storageTopology ← callAdapter "storage" adapters.storage
  let secureBoot ← callAdapter "secure_boot" adapters.secureBoot
  let filesystem ← callAdapter "filesystem" adapters.filesystem
  let network ← callAdapter "network" adapters.network
  let cpu ← callAdapter "cpu" adapters.cpu
  let memory ← callAdapter "memory" adapters.memory
  let tpm ← callAdapter "tpm" adapters.tpm
  return {
    firmwareBootConfiguration, storageTopology, secureBoot, filesystem, network, cpu, memory, tpm }

/-- `HostDiscoveryOrchestrator.discover`: call the adapters one after the other. -/
def discover (adapters : HostDiscoveryAdapters T) : Except Raised (HostDiscoverySnapshot T) := do
  let (snapshot, caveats) ← callAdapters adapters []
  return { snapshot with caveats }

/-! ### What a discovery returns -/

/-- The exception of an adapter that ends the discovery. -/
def fatal : Option (Except Raised α) → Option PyError
  | some (.error (.python e)) => some e
  | _ => none

/-- What an adapter returned. -/
def returned : Option (Except Raised α) → Option α
  | some (.ok a) => some a
  | _ => none

/-- The caveat about an adapter. -/
def caveat (domain : String) : Option (Except Raised α) → Option String
  | some (.error (.platform e)) => some (domain ++ ": " ++ e.className ++ ": " ++ e.message)
  | _ => none

/-- The computation raises the first of the exceptions `fatals`, or returns `a` and appends
`caveats`. -/
def Collects (m : StateT (List String) (Except Raised) α) (fatals : List PyError) (a : α)
    (caveats : List String) : Prop :=
  ∀ before, m before = match fatals with
    | e :: _ => .error (.python e)
    | [] => .ok (a, before ++ caveats)

theorem Collects.pure (a : α) : Collects (pure a) [] a [] := fun before => by
  rw [List.append_nil]
  rfl

theorem Collects.bind {β : Type} {m : StateT (List String) (Except Raised) α}
    {k : α → StateT (List String) (Except Raised) β} {fatals fatals' : List PyError} {a : α}
    {b : β} {caveats caveats' : List String} (hm : Collects m fatals a caveats)
    (hk : Collects (k a) fatals' b caveats') :
    Collects (m >>= k) (fatals ++ fatals') b (caveats ++ caveats') := by
  intro before
  have hbind : (m >>= k) before = (m before >>= fun r => k r.1 r.2) := rfl
  rw [hbind, hm]
  cases fatals with
  | nil => exact (hk _).trans (by rw [List.append_assoc]; rfl)
  | cons e fatals => rfl

theorem collects_callAdapter (domain : String) (adapter : Option (Except Raised α)) :
    Collects (callAdapter domain adapter) (fatal adapter).toList (returned adapter)
      (caveat domain adapter).toList := by
  intro before
  match adapter with
  | none | some (.ok a) => simp [callAdapter, fatal, returned, caveat]
  | some (.error (.platform e)) | some (.error (.python e)) => rfl

/-- The exceptions that end the discovery, in the order of the calls. -/
def fatalErrors (adapters : HostDiscoveryAdapters T) : List PyError :=
  (fatal adapters.efi).toList ++ ((fatal adapters.storage).toList ++
  ((fatal adapters.secureBoot).toList ++ ((fatal adapters.filesystem).toList ++
  ((fatal adapters.network).toList ++ ((fatal adapters.cpu).toList ++
  ((fatal adapters.memory).toList ++ ((fatal adapters.tpm).toList ++ [])))))))

/-- What all adapters returned, and the caveats. -/
def snapshot (adapters : HostDiscoveryAdapters T) : HostDiscoverySnapshot T where
  firmwareBootConfiguration := returned adapters.efi
  storageTopology := returned adapters.storage
  secureBoot := returned adapters.secureBoot
  filesystem := returned adapters.filesystem
  network := returned adapters.network
  cpu := returned adapters.cpu
  memory := returned adapters.memory
  tpm := returned adapters.tpm
  caveats := (caveat "efi" adapters.efi).toList ++ ((caveat "storage" adapters.storage).toList ++
    ((caveat "secure_boot" adapters.secureBoot).toList ++
    ((caveat "filesystem" adapters.filesystem).toList ++
    ((caveat "network" adapters.network).toList ++ ((caveat "cpu" adapters.cpu).toList ++
    ((caveat "memory" adapters.memory).toList ++ ((caveat "tpm" adapters.tpm).toList ++ [])))))))

theorem collects_callAdapters (adapters : HostDiscoveryAdapters T) :
    Collects (callAdapters adapters) (fatalErrors adapters)
      { snapshot adapters with caveats := [] } (snapshot adapters).caveats :=
  (collects_callAdapter _ _).bind <| (collects_callAdapter _ _).bind <|
    (collects_callAdapter _ _).bind <| (collects_callAdapter _ _).bind <|
    (collects_callAdapter _ _).bind <| (collects_callAdapter _ _).bind <|
    (collects_callAdapter _ _).bind <| (collects_callAdapter _ _).bind <| .pure _

/-- A discovery raises the first exception that is not one of the platform layer. If there is none,
it returns what the adapters returned, with a caveat for each exception of the platform layer. -/
theorem discover_eq (adapters : HostDiscoveryAdapters T) :
    discover adapters = match fatalErrors adapters with
      | e :: _ => .error (.python e)
      | [] => .ok (snapshot adapters) := by
  have hdiscover : discover adapters = (callAdapters adapters [] >>= fun r =>
      pure { r.1 with caveats := r.2 }) := rfl
  rw [hdiscover, collects_callAdapters]
  cases fatalErrors adapters <;> rfl

/-- Where an adapter does not escape, the discovery fails only as it does without this adapter. -/
theorem discover_eq_error_of_fatal_storage {adapters : HostDiscoveryAdapters T}
    (h : fatal adapters.storage = none) {e : Raised} (he : discover adapters = .error e) :
    discover { adapters with storage := none } = .error e := by
  have hfatal : fatalErrors { adapters with storage := none } = fatalErrors adapters := by
    simp only [fatalErrors, h]
    rfl
  rw [discover_eq] at he ⊢
  rw [hfatal]
  cases hcases : fatalErrors adapters with
  | nil => simp [hcases] at he
  | cons e' es => simpa [hcases] using he

/-- An adapter from which no other exception escapes does not end the discovery. -/
theorem fatal_eq_none_iff (outcome : Except Raised α) :
    fatal (some outcome) = none ↔ ¬ Raises Raised.Escapes outcome := by
  match outcome with
  | .ok a => simp [fatal]
  | .error (.platform e) => simp [fatal, Raised.Escapes]
  | .error (.python e) => simp [fatal, Raised.Escapes]

end ClassroomSuite.Inventory
