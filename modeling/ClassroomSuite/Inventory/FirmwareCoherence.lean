import ClassroomSuite.Inventory.Doctor

/-!
# Secure Boot without UEFI

A system without UEFI has no Secure Boot: its state is unsupported, and the diagnosis does not ask
for it. The collector sees to that, but the state that the adapter of the orchestrator returned
takes its place without regard to it. `firmwareCoherent_iff` is the exact condition under which the
inventory is coherent.

Source: `cli/src/bcs/inventory/service.py`, `cli/src/bcs/inventory/collectors.py`,
`_check_secure_boot` of `cli/src/bcs/commands/doctor.py`.

## Main definitions

* `FirmwareCoherent`: what is meant to hold of an inventory.
* `SlotHarmless`: the condition.

## Main results

* `firmwareCoherent_iff`.
-/

namespace ClassroomSuite.Inventory

open Library Platform Config

variable {H : HostTypes}

/-- Without UEFI, or where the diagnosis says that Secure Boot is not applicable, the inventory says
that it is unsupported. -/
structure FirmwareCoherent (facts : HostFacts H) (inventory : HostInventory H) : Prop where
  uefi : inventory.firmware.uefi = false → inventory.firmware.secureBoot = .unsupported
  doctor : ∀ status check, checkSecureBoot facts status = .ok check → check.status = .skip →
    inventory.firmware.secureBoot = .unsupported

/-- The host has UEFI, or the Secure Boot adapter returned no other state than unsupported. -/
def SlotHarmless (facts : HostFacts H)
    (orchestrator : Option (HostDiscoveryAdapters H.discovery)) : Prop :=
  facts.efiDirectory = true ∨ ∀ adapters, orchestrator = some adapters →
    ∀ status, adapters.secureBoot = some (.ok status) → status.state = .unsupported

/-- The diagnosis skips Secure Boot on a system without UEFI only. -/
theorem efiDirectory_eq_false_of_skip {facts : HostFacts H}
    {status : Except Raised SecureBoot.SecureBootStatus} {check : CheckResult}
    (h : checkSecureBoot facts status = .ok check) (hskip : check.status = .skip) :
    facts.efiDirectory = false := by
  cases hefi : facts.efiDirectory with
  | false => rfl
  | true =>
    simp only [checkSecureBoot, collectFirmware, hefi, if_true] at h
    rcases status with (e | e) | status
    · obtain rfl := Except.ok.inj h
      simp at hskip
    · simp at h
    · obtain rfl := Except.ok.inj h
      unfold secureBootCheck at hskip
      cases hstate : status.state <;> simp [hstate] at hskip

/-- Whether an inventory is coherent is decided by its firmware alone. -/
theorem firmwareCoherent_iff_uefi {facts : HostFacts H} {inventory : HostInventory H}
    (huefi : inventory.firmware.uefi = facts.efiDirectory) :
    FirmwareCoherent facts inventory ↔
      (facts.efiDirectory = false → inventory.firmware.secureBoot = .unsupported) := by
  constructor
  · exact fun h hefi => h.uefi (huefi.trans hefi)
  · intro h
    exact ⟨fun hefi => h (huefi.symm.trans hefi), fun status check hcheck hskip =>
      h (efiDirectory_eq_false_of_skip hcheck hskip)⟩

theorem uefi_collectFirmware (facts : HostFacts H) :
    (collectFirmware facts).uefi = facts.efiDirectory := by
  unfold collectFirmware
  cases facts.efiDirectory <;> rfl

theorem secureBoot_collectFirmware {facts : HostFacts H} (h : facts.efiDirectory = false) :
    (collectFirmware facts).secureBoot = .unsupported := by
  simp [collectFirmware, h]

/-- The collected inventory is coherent. -/
theorem firmwareCoherent_collected (facts : HostFacts H) :
    FirmwareCoherent facts (collectedInventory facts) :=
  (firmwareCoherent_iff_uefi (uefi_collectFirmware facts)).mpr secureBoot_collectFirmware

/-- The inventory of a discovery is coherent exactly when the state that was returned does no
harm. -/
theorem firmwareCoherent_discovered_iff (facts : HostFacts H)
    (snapshot : HostDiscoverySnapshot H.discovery) :
    FirmwareCoherent facts (discoveredInventory facts snapshot) ↔ facts.efiDirectory = true ∨
      ∀ status, snapshot.secureBoot = some status → status.state = .unsupported := by
  cases hstatus : snapshot.secureBoot with
  | none =>
    have hfirmware : (discoveredInventory facts snapshot).firmware = collectFirmware facts := by
      simp only [discoveredInventory, hstatus]
    rw [firmwareCoherent_iff_uefi (by rw [hfirmware, uefi_collectFirmware]), hfirmware]
    exact iff_of_true secureBoot_collectFirmware (Or.inr fun status h => by cases h)
  | some status =>
    have hfirmware : (discoveredInventory facts snapshot).firmware =
        { collectFirmware facts with secureBoot := translateSecureBootState status } := by
      simp only [discoveredInventory, hstatus]
    rw [firmwareCoherent_iff_uefi (by rw [hfirmware, uefi_collectFirmware]), hfirmware]
    dsimp only
    rw [translateSecureBootState_eq_unsupported_iff, ← Bool.not_eq_true]
    simp only [Option.some.injEq, forall_eq', or_iff_not_imp_left]

/-- An inventory that is collected is coherent exactly when the host has UEFI or the Secure Boot
adapter returned no other state than unsupported. -/
theorem firmwareCoherent_iff {facts : HostFacts H}
    {orchestrator : Option (HostDiscoveryAdapters H.discovery)} {inventory : HostInventory H}
    (h : collectHostInventory facts orchestrator = .ok inventory) :
    FirmwareCoherent facts inventory ↔ SlotHarmless facts orchestrator := by
  cases orchestrator with
  | none =>
    obtain rfl := Except.ok.inj h
    exact iff_of_true (firmwareCoherent_collected facts) (Or.inr fun adapters h => by cases h)
  | some adapters =>
    obtain ⟨-, rfl⟩ := collectHostInventory_some_eq_ok_iff.mp h
    rw [firmwareCoherent_discovered_iff, SlotHarmless]
    have hreturned (status : SecureBoot.SecureBootStatus) :
        (snapshot adapters).secureBoot = some status ↔
          adapters.secureBoot = some (.ok status) := by
      change returned adapters.secureBoot = some status ↔ _
      rcases adapters.secureBoot with _ | (_ | _) | _ <;> simp [returned]
    simp only [hreturned, Option.some.injEq, forall_eq']

/-- The inventory of a host without UEFI is coherent where the adapter finds the same. -/
theorem firmwareCoherent_bare : FirmwareCoherent bareFacts (collectedInventory bareFacts) := by
  have hcollect : collectHostInventory bareFacts
      (some { secureBoot := some (.ok { state := .unsupported, rawText := "" }) }) =
        .ok (collectedInventory bareFacts) := rfl
  refine (firmwareCoherent_iff hcollect).mpr (Or.inr fun adapters hadapters status hstatus => ?_)
  obtain rfl := Option.some.inj hadapters
  rw [← Except.ok.inj (Option.some.inj hstatus)]

/-- The state of an adapter is taken over on a host without UEFI. -/
theorem firmware_not_coherent :
    ¬ ∀ (H : HostTypes) (facts : HostFacts H)
      (orchestrator : Option (HostDiscoveryAdapters H.discovery)) (inventory : HostInventory H),
      collectHostInventory facts orchestrator = .ok inventory →
        FirmwareCoherent facts inventory := by
  intro h
  have hcollect : collectHostInventory bareFacts
      (some { secureBoot := some (.ok { state := .enabled, rawText := "SecureBoot enabled" }) }) =
        .ok { collectedInventory bareFacts with
          firmware := { uefi := false, secureBoot := .enabled } } := rfl
  exact absurd ((h _ _ _ _ hcollect).uefi rfl) (by decide)

end ClassroomSuite.Inventory
