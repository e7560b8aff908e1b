import Mathlib.Data.List.Nodup
import ClassroomSuite.Inventory.Discovery
import ClassroomSuite.Library.Hoare

/-!
# Isolation of the adapters

The orchestrator with its calls observed, for adapters of any kind: an adapter may return a value or
nothing, raise an exception of the platform layer of any class, or raise anything else. An exception
of the platform layer concerns its own slot only; any other exception ends the discovery where it is
raised, and leaves the calls made until then.

Source: `cli/src/bcs/inventory/discovery/models.py`,
`cli/src/bcs/inventory/discovery/orchestrator.py`.

## Main definitions

* `Slot`, `Outcome`, `Adapters`, `Snapshot`.
* `callSlot`, `discoverSlots`: the orchestrator, which records its calls.
* `Isolates`: what a discovery returns, raises and calls.

## Main results

* `discoverSlots_isolates`.
* `discover_eq_discoverSlots`: the discovery of a host is one of these.
-/

namespace ClassroomSuite.Inventory

open Python Library Platform

/-! ### The orchestrator -/

/-- The slots for adapters, one for each domain. -/
inductive Slot where
  | efi
  | storage
  | secureBoot
  | filesystem
  | network
  | cpu
  | memory
  | tpm
  deriving DecidableEq

namespace Slot

/-- The slots in the order of the calls. -/
def all : List Slot := [.efi, .storage, .secureBoot, .filesystem, .network, .cpu, .memory, .tpm]

/-- How caveats name the domain of a slot. -/
def domain : Slot → String
  | efi => "efi"
  | storage => "storage"
  | secureBoot => "secure_boot"
  | filesystem => "filesystem"
  | network => "network"
  | cpu => "cpu"
  | memory => "memory"
  | tpm => "tpm"

theorem mem_all (slot : Slot) : slot ∈ all := by
  cases slot <;> decide

theorem nodup_all : all.Nodup := by decide

end Slot

variable {ε α β : Type} {V : Slot → Type}

/-- What calling an adapter does. An exception of the platform layer is given by the name of its
class and its text. -/
inductive Outcome (ε α : Type) where
  | returned (value : Option α)
  | platform (className message : String)
  | other (e : ε)

/-- What calling the adapter in each slot does, where there is one. -/
abbrev Adapters (ε : Type) (V : Slot → Type) := (slot : Slot) → Option (Outcome ε (V slot))

/-- What the adapters returned, and the caveats. -/
structure Snapshot (V : Slot → Type) where
  firmwareBootConfiguration : Option (V .efi)
  storageTopology : Option (V .storage)
  secureBoot : Option (V .secureBoot)
  filesystem : Option (V .filesystem)
  network : Option (V .network)
  cpu : Option (V .cpu)
  memory : Option (V .memory)
  tpm : Option (V .tpm)
  caveats : List String

/-- The field of each slot. -/
def Snapshot.field (snapshot : Snapshot V) : (slot : Slot) → Option (V slot)
  | .efi => snapshot.firmwareBootConfiguration
  | .storage => snapshot.storageTopology
  | .secureBoot => snapshot.secureBoot
  | .filesystem => snapshot.filesystem
  | .network => snapshot.network
  | .cpu => snapshot.cpu
  | .memory => snapshot.memory
  | .tpm => snapshot.tpm

/-- The calls made so far, and the caveats. -/
structure Log where
  calls : List Slot := []
  caveats : List String := []

/-- Call the adapter in a slot, if there is one, collecting its caveat. -/
def callSlot (slot : Slot) : Option (Outcome ε α) → EStateM ε Log (Option α)
  | none => pure none
  | some outcome => do
    modify fun log => { log with calls := log.calls ++ [slot] }
    match outcome with
    | .returned value => pure value
    | .platform className message =>
      modify fun log => { log with
        caveats := log.caveats ++ [slot.domain ++ ": " ++ className ++ ": " ++ message] }
      pure none
    | .other e => throw e

/-- Call all adapters. -/
def discoverSlots (adapters : Adapters ε V) : EStateM ε Log (Snapshot V) := do
  let firmwareBootConfiguration ← callSlot .efi (adapters .efi)
  let storageTopology ← callSlot .storage (adapters .storage)
  let secureBoot ← callSlot .secureBoot (adapters .secureBoot)
  let filesystem ← callSlot .filesystem (adapters .filesystem)
  let network ← callSlot .network (adapters .network)
  let cpu ← callSlot .cpu (adapters .cpu)
  let memory ← callSlot .memory (adapters .memory)
  let tpm ← callSlot .tpm (adapters .tpm)
  let log ← get
  return {
    firmwareBootConfiguration, storageTopology, secureBoot, filesystem, network, cpu, memory, tpm
    caveats := log.caveats }

/-! ### What a slot contributes -/

/-- What the adapter of a slot returned. -/
def returnedBy : Option (Outcome ε α) → Option α
  | some (.returned value) => value
  | _ => none

/-- The caveat about the adapter of a slot. -/
def caveatOf (slot : Slot) : Option (Outcome ε α) → Option String
  | some (.platform className message) =>
    some (slot.domain ++ ": " ++ className ++ ": " ++ message)
  | _ => none

/-- The exception by which the adapter of a slot ends the discovery. -/
def raisedBy : Option (Outcome ε α) → Option ε
  | some (.other e) => some e
  | _ => none

/-- The log after the adapters of these slots have been called. -/
def Log.after (adapters : Adapters ε V) (slots : List Slot) (log : Log) : Log where
  calls := log.calls ++ slots.filter fun slot => (adapters slot).isSome
  caveats := log.caveats ++ slots.filterMap fun slot => caveatOf slot (adapters slot)

theorem Log.after_append (adapters : Adapters ε V) (slots slots' : List Slot) (log : Log) :
    (log.after adapters slots).after adapters slots' = log.after adapters (slots ++ slots') := by
  simp only [Log.after, List.filter_append, List.filterMap_append, List.append_assoc]

/-- The slots up to and including the first one that ends the discovery, with its exception. -/
def visit (adapters : Adapters ε V) : List Slot → List Slot × Option ε
  | [] => ([], none)
  | slot :: slots =>
    match raisedBy (adapters slot) with
    | some e => ([slot], some e)
    | none => (slot :: (visit adapters slots).1, (visit adapters slots).2)

/-- Where no slot ends the discovery, all of them are visited. -/
theorem visit_of_no_raise {adapters : Adapters ε V} {slots : List Slot}
    (h : ∀ slot ∈ slots, raisedBy (adapters slot) = none) :
    visit adapters slots = (slots, none) := by
  induction slots with
  | nil => rfl
  | cons slot slots ih =>
    obtain ⟨hslot, hslots⟩ := List.forall_mem_cons.mp h
    simp only [visit, hslot, ih hslots]

/-- The first slot that ends the discovery is the last one visited. -/
theorem visit_of_raise {adapters : Adapters ε V} {before after : List Slot} {slot : Slot} {e : ε}
    (hbefore : ∀ s ∈ before, raisedBy (adapters s) = none)
    (hslot : raisedBy (adapters slot) = some e) :
    visit adapters (before ++ slot :: after) = (before ++ [slot], some e) := by
  induction before with
  | nil => simp only [List.nil_append, visit, hslot]
  | cons s before ih =>
    obtain ⟨hs, hbefore⟩ := List.forall_mem_cons.mp hbefore
    simp only [List.cons_append, visit, hs, ih hbefore]

theorem visit_append (adapters : Adapters ε V) (slots slots' : List Slot) :
    visit adapters (slots ++ slots') = match (visit adapters slots).2 with
      | some e => ((visit adapters slots).1, some e)
      | none => (slots ++ (visit adapters slots').1, (visit adapters slots').2) := by
  induction slots with
  | nil => rfl
  | cons slot slots ih =>
    simp only [List.cons_append, visit, ih]
    cases raisedBy (adapters slot) with
    | some e => rfl
    | none => cases (visit adapters slots).2 <;> simp

/-- The computation visits the slots, and then returns what `f` makes of the log. -/
def Visits (adapters : Adapters ε V) (slots : List Slot) (m : EStateM ε Log α) (f : Log → α) :
    Prop :=
  ∀ log, m log = match (visit adapters slots).2 with
    | some e => .error e (log.after adapters (visit adapters slots).1)
    | none => .ok (f (log.after adapters slots)) (log.after adapters slots)

theorem visits_callSlot (adapters : Adapters ε V) (slot : Slot) :
    Visits adapters [slot] (callSlot slot (adapters slot))
      fun _ => returnedBy (adapters slot) := by
  intro log
  cases h : adapters slot with
  | none => simp [visit, h, raisedBy, returnedBy, callSlot, Log.after, caveatOf]
  | some outcome =>
    cases outcome with
    | returned value =>
      simp [visit, h, raisedBy, returnedBy, callSlot, Log.after, caveatOf, bind_apply]
    | platform className message =>
      simp only [visit, h, raisedBy, Log.after, caveatOf, List.filter_cons, Option.isSome_some,
        if_true, List.filter_nil, List.filterMap_cons, List.filterMap_nil]
      rfl
    | other e =>
      simp [visit, h, raisedBy, callSlot, Log.after, caveatOf, bind_apply]

theorem Visits.bind {adapters : Adapters ε V} {slots slots' : List Slot} {m : EStateM ε Log α}
    {k : α → EStateM ε Log β} {a : α} {f : Log → β} (hm : Visits adapters slots m fun _ => a)
    (hk : Visits adapters slots' (k a) f) : Visits adapters (slots ++ slots') (m >>= k) f := by
  intro log
  rw [bind_apply, hm, visit_append]
  cases hslots : (visit adapters slots).2 with
  | some e => rfl
  | none =>
    dsimp only
    rw [hk]
    cases (visit adapters slots').2 <;> simp only [Log.after_append]

/-! ### Isolation -/

/-- What a discovery returns where no adapter raises an exception of another kind. -/
def snapshotOf (adapters : Adapters ε V) : Snapshot V where
  firmwareBootConfiguration := returnedBy (adapters .efi)
  storageTopology := returnedBy (adapters .storage)
  secureBoot := returnedBy (adapters .secureBoot)
  filesystem := returnedBy (adapters .filesystem)
  network := returnedBy (adapters .network)
  cpu := returnedBy (adapters .cpu)
  memory := returnedBy (adapters .memory)
  tpm := returnedBy (adapters .tpm)
  caveats := Slot.all.filterMap fun slot => caveatOf slot (adapters slot)

theorem field_snapshotOf (adapters : Adapters ε V) (slot : Slot) :
    (snapshotOf adapters).field slot = returnedBy (adapters slot) := by
  cases slot <;> rfl

/-- A discovery visits all slots. -/
theorem discoverSlots_eq (adapters : Adapters ε V) :
    discoverSlots adapters {} = match (visit adapters Slot.all).2 with
      | some e => .error e (Log.after adapters (visit adapters Slot.all).1 {})
      | none => .ok (snapshotOf adapters) (Log.after adapters Slot.all {}) := by
  have hget {m : Log → Snapshot V} :
      Visits adapters [] (get >>= fun log => pure (m log)) m := by
    intro log
    have hafter : log.after adapters [] = log := by simp [Log.after]
    rw [hafter]
    rfl
  have hvisits : Visits adapters Slot.all (discoverSlots adapters)
      fun log => { snapshotOf adapters with caveats := log.caveats } :=
    (visits_callSlot _ .efi).bind <| (visits_callSlot _ .storage).bind <|
      (visits_callSlot _ .secureBoot).bind <| (visits_callSlot _ .filesystem).bind <|
      (visits_callSlot _ .network).bind <| (visits_callSlot _ .cpu).bind <|
      (visits_callSlot _ .memory).bind <| (visits_callSlot _ .tpm).bind hget
  rw [hvisits]
  rfl

/-- What a discovery returns, raises and calls. -/
structure Isolates (adapters : Adapters ε V) : Prop where
  /-- If no adapter raises an exception of another kind, the fields are what the adapters returned,
  and there is a caveat for each exception of the platform layer. -/
  returns : (∀ slot, raisedBy (adapters slot) = none) → ∃ snapshot log,
    discoverSlots adapters {} = .ok snapshot log ∧
    (∀ slot, snapshot.field slot = returnedBy (adapters slot)) ∧
    snapshot.caveats = Slot.all.filterMap (fun slot => caveatOf slot (adapters slot)) ∧
    log.calls = Slot.all.filter fun slot => (adapters slot).isSome
  /-- What another adapter does in one slot changes no other field and no other caveat. -/
  others : ∀ (adapters' : Adapters ε V) slot, (∀ s ≠ slot, adapters' s = adapters s) →
    ∀ snapshot log snapshot' log', discoverSlots adapters {} = .ok snapshot log →
    discoverSlots adapters' {} = .ok snapshot' log' →
    (∀ s ≠ slot, snapshot'.field s = snapshot.field s) ∧ ∃ before after,
      snapshot.caveats = before ++ (caveatOf slot (adapters slot)).toList ++ after ∧
      snapshot'.caveats = before ++ (caveatOf slot (adapters' slot)).toList ++ after
  /-- The first exception of another kind is raised, after the calls of the slots before it. -/
  raises : ∀ before slot after e, Slot.all = before ++ slot :: after →
    (∀ s ∈ before, raisedBy (adapters s) = none) → raisedBy (adapters slot) = some e →
    ∃ log, discoverSlots adapters {} = .error e log ∧
      log.calls = before.filter (fun s => (adapters s).isSome) ++ [slot]

theorem discoverSlots_of_no_raise {adapters : Adapters ε V}
    (h : ∀ slot, raisedBy (adapters slot) = none) :
    discoverSlots adapters {} = .ok (snapshotOf adapters) (Log.after adapters Slot.all {}) := by
  rw [discoverSlots_eq, visit_of_no_raise fun slot _ => h slot]

/-- A discovery that returns has returned what the adapters returned. -/
theorem discoverSlots_ok {adapters : Adapters ε V} {snapshot : Snapshot V} {log : Log}
    (h : discoverSlots adapters {} = .ok snapshot log) : snapshot = snapshotOf adapters := by
  rw [discoverSlots_eq] at h
  cases hvisit : (visit adapters Slot.all).2 with
  | some e =>
    rw [hvisit] at h
    cases h
  | none =>
    rw [hvisit] at h
    cases h
    rfl

/-- The caveats before and after that of a slot are those of the other slots. -/
theorem caveats_snapshotOf (adapters adapters' : Adapters ε V) (slot : Slot)
    (h : ∀ s ≠ slot, adapters' s = adapters s) : ∃ before after,
      (snapshotOf adapters).caveats = before ++ (caveatOf slot (adapters slot)).toList ++ after ∧
      (snapshotOf adapters').caveats =
        before ++ (caveatOf slot (adapters' slot)).toList ++ after := by
  obtain ⟨before, after, hall⟩ := List.append_of_mem slot.mem_all
  have hnodup := Slot.nodup_all
  rw [hall, List.nodup_middle, List.nodup_cons, List.mem_append, not_or] at hnodup
  obtain ⟨⟨hbefore, hafter⟩, -⟩ := hnodup
  have hsame (slots : List Slot) (hslot : slot ∉ slots) :
      slots.filterMap (fun s => caveatOf s (adapters' s)) =
        slots.filterMap fun s => caveatOf s (adapters s) := by
    refine List.filterMap_congr fun s hs => ?_
    rw [h s fun hss => hslot (hss ▸ hs)]
  have hsplit (bundle : Adapters ε V) : (snapshotOf bundle).caveats =
      before.filterMap (fun s => caveatOf s (bundle s)) ++
        (caveatOf slot (bundle slot)).toList ++
        after.filterMap fun s => caveatOf s (bundle s) := by
    rw [snapshotOf, hall, List.filterMap_append, List.filterMap_cons]
    cases caveatOf slot (bundle slot) <;> simp
  refine ⟨_, _, hsplit adapters, ?_⟩
  rw [hsplit adapters', hsame before hbefore, hsame after hafter]

/-- The orchestrator isolates the adapters from each other. -/
theorem discoverSlots_isolates (adapters : Adapters ε V) : Isolates adapters where
  returns h := ⟨_, _, discoverSlots_of_no_raise h, field_snapshotOf adapters, rfl, rfl⟩
  others := by
    intro adapters' slot h snapshot log snapshot' log' hdiscover hdiscover'
    obtain rfl := discoverSlots_ok hdiscover
    obtain rfl := discoverSlots_ok hdiscover'
    refine ⟨fun s hs => ?_, caveats_snapshotOf adapters adapters' slot h⟩
    rw [field_snapshotOf, field_snapshotOf, h s hs]
  raises := by
    intro before slot after e hall hbefore hslot
    have hwired : (adapters slot).isSome = true := by
      cases hadapter : adapters slot with
      | none =>
        rw [hadapter] at hslot
        cases hslot
      | some outcome => rfl
    refine ⟨Log.after adapters (before ++ [slot]) {}, ?_, ?_⟩
    · rw [discoverSlots_eq, hall, visit_of_raise hbefore hslot]
    · simp [Log.after, hwired]

/-! ### The discovery of a host -/

/-- The types of what the adapters of a host return. -/
abbrev DiscoveryTypes.slot (T : DiscoveryTypes) : Slot → Type
  | .efi => T.FirmwareBoot
  | .storage => Storage.StorageConfiguration
  | .secureBoot => T.SecureBoot
  | .filesystem => T.Filesystem
  | .network => Network.NetworkInterfaceStatus
  | .cpu => T.Cpu
  | .memory => T.Memory
  | .tpm => T.Tpm

/-- The outcome of an adapter of a host. -/
def outcomeOf : Except Raised α → Outcome PyError α
  | .ok a => .returned (some a)
  | .error (.platform e) => .platform e.className e.message
  | .error (.python e) => .other e

variable {T : DiscoveryTypes}

/-- The adapters of a host by their slots. -/
def HostDiscoveryAdapters.slots (adapters : HostDiscoveryAdapters T) : Adapters PyError T.slot
  | .efi => adapters.efi.map outcomeOf
  | .storage => adapters.storage.map outcomeOf
  | .secureBoot => adapters.secureBoot.map outcomeOf
  | .filesystem => adapters.filesystem.map outcomeOf
  | .network => adapters.network.map outcomeOf
  | .cpu => adapters.cpu.map outcomeOf
  | .memory => adapters.memory.map outcomeOf
  | .tpm => adapters.tpm.map outcomeOf

/-- The snapshot of a host by its slots. -/
def HostDiscoverySnapshot.ofSlots (snapshot : Snapshot T.slot) : HostDiscoverySnapshot T where
  firmwareBootConfiguration := snapshot.firmwareBootConfiguration
  storageTopology := snapshot.storageTopology
  secureBoot := snapshot.secureBoot
  filesystem := snapshot.filesystem
  network := snapshot.network
  cpu := snapshot.cpu
  memory := snapshot.memory
  tpm := snapshot.tpm
  caveats := snapshot.caveats

theorem returnedBy_outcomeOf (adapter : Option (Except Raised α)) :
    returnedBy (adapter.map outcomeOf) = returned adapter := by
  rcases adapter with _ | (_ | _) | _ <;> rfl

theorem raisedBy_outcomeOf (adapter : Option (Except Raised α)) :
    raisedBy (adapter.map outcomeOf) = fatal adapter := by
  rcases adapter with _ | (_ | _) | _ <;> rfl

theorem caveatOf_outcomeOf (slot : Slot) (adapter : Option (Except Raised α)) :
    caveatOf slot (adapter.map outcomeOf) = caveat slot.domain adapter := by
  rcases adapter with _ | (_ | _) | _ <;> rfl

/-- The exception that ends a discovery is the first of those of the slots. -/
theorem visit_snd (adapters : Adapters ε V) (slots : List Slot) :
    (visit adapters slots).2 = (slots.filterMap fun slot => raisedBy (adapters slot)).head? := by
  induction slots with
  | nil => rfl
  | cons slot slots ih =>
    rw [visit, List.filterMap_cons]
    cases raisedBy (adapters slot) with
    | some e => rfl
    | none => exact ih

theorem filterMap_cons_eq {γ δ : Type} (f : γ → Option δ) (x : γ) (xs : List γ) :
    (x :: xs).filterMap f = (f x).toList ++ xs.filterMap f := by
  rw [List.filterMap_cons]
  cases f x <;> rfl

theorem fatalErrors_eq (adapters : HostDiscoveryAdapters T) :
    fatalErrors adapters = Slot.all.filterMap fun slot => raisedBy (adapters.slots slot) := by
  simp only [Slot.all, filterMap_cons_eq, HostDiscoveryAdapters.slots, raisedBy_outcomeOf,
    List.filterMap_nil, fatalErrors]

theorem snapshot_eq (adapters : HostDiscoveryAdapters T) :
    snapshot adapters = .ofSlots (snapshotOf adapters.slots) := by
  simp only [snapshot, HostDiscoverySnapshot.ofSlots, snapshotOf, Slot.all, filterMap_cons_eq,
    HostDiscoveryAdapters.slots, returnedBy_outcomeOf, caveatOf_outcomeOf, List.filterMap_nil,
    Slot.domain]

/-- The discovery of a host is one by slots, with the log left out. -/
theorem discover_eq_discoverSlots (adapters : HostDiscoveryAdapters T) :
    discover adapters = match discoverSlots adapters.slots {} with
      | .ok snapshot _ => .ok (.ofSlots snapshot)
      | .error e _ => .error (.python e) := by
  rw [discover_eq, discoverSlots_eq, visit_snd, ← fatalErrors_eq, snapshot_eq]
  cases fatalErrors adapters <;> rfl

end ClassroomSuite.Inventory
