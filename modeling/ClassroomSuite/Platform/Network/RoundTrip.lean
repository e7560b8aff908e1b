import Mathlib.Data.List.ReduceOption
import ClassroomSuite.Library.Traversal
import ClassroomSuite.Platform.Network.Parser

/-!
# Interfaces are read as they are printed

The interfaces of a machine are written as the tool prints them, and read back. What is lost is
exactly this: an interface without a name is an error, an address of zeros counts as none, and empty
addresses are left out. Interfaces that have none of these, and only these, are read back as they
are.

Source: `cli/src/bcs/platform/adapters/network/parser.py`.

## Main definitions

* `NetworkInterface.entry`, `networkOutput`: what the tool prints.
* `Reportable`: an interface of which nothing is lost.

## Main results

* `parseEntry_entry`: what is read of an interface.
* `parseNetworkInterfaces_printed_iff`.
-/

namespace ClassroomSuite.Platform.Network

open Python Library

/-! ### Printing -/

/-- The family of an address; only those of the sixth version have a colon. -/
def addressFamily (address : String) : String :=
  if ':' ∈ address.toList then "inet6" else "inet"

/-- What `ip` prints of an address. -/
def addressEntry (address : String) : Json :=
  .obj [("family", .str (addressFamily address)), ("local", .str address)]

/-- The flags of an interface. -/
def NetworkInterface.flags (iface : NetworkInterface) : List String :=
  (if iface.isLoopback then ["LOOPBACK"] else ["BROADCAST", "MULTICAST"]) ++
    if iface.isUp then ["UP", "LOWER_UP"] else []

/-- What `ip` prints of an interface. -/
def NetworkInterface.entry (iface : NetworkInterface) : Json := .obj [
  ("ifname", .str iface.name), ("flags", .arr (iface.flags.map Json.str)),
  ("address", optionalText iface.macAddress),
  ("addr_info", .arr (iface.ipAddresses.map addressEntry))]

/-- What `ip` prints of some interfaces. -/
def networkOutput (interfaces : List NetworkInterface) : Json :=
  .arr (interfaces.map NetworkInterface.entry)

/-- The interface has a name and, if it has addresses, such that count. -/
structure Reportable (iface : NetworkInterface) : Prop where
  name : iface.name ≠ ""
  macAddress : iface.macAddress ≠ some nullMac
  ipAddresses : "" ∉ iface.ipAddresses

/-- What is read of an interface. -/
def NetworkInterface.read (iface : NetworkInterface) : NetworkInterface :=
  { iface with
    macAddress := iface.macAddress.filter (· ≠ nullMac)
    ipAddresses := iface.ipAddresses.filter (· ≠ "") }

/-! ### Reading -/

theorem localAddress_addressEntry (address : String) :
    localAddress (addressEntry address) = .ok (if address = "" then none else some address) := by
  have hknown : isIpFamily (.str (addressFamily address)) = .ok true := by
    rw [addressFamily]
    split_ifs <;> rfl
  change (isIpFamily (.str (addressFamily address)) >>= fun known =>
    if known then pure (nonemptyText (.str address)) else pure none) = _
  rw [hknown]
  rfl

theorem reduceOption_nonempty (addresses : List String) :
    (addresses.map fun address => if address = "" then none else some address).reduceOption =
      addresses.filter (· ≠ "") := by
  induction addresses with
  | nil => rfl
  | cons address addresses ih =>
    by_cases h : address = ""
    · rw [List.map_cons, if_pos h, List.reduceOption_cons_of_none, ih]
      simp [h]
    · rw [List.map_cons, if_neg h, List.reduceOption_cons_of_some, ih]
      simp [h]

theorem extractIpAddresses_printed (addresses : List String) :
    extractIpAddresses (.arr (addresses.map addressEntry)) =
      .ok (addresses.filter (· ≠ "")) := by
  have hinfos : (addresses.map addressEntry).mapM localAddress =
      .ok (addresses.map fun address => if address = "" then none else some address) :=
    mapM_map_eq_ok fun address _ => localAddress_addressEntry address
  rw [extractIpAddresses, hinfos, ← reduceOption_nonempty]
  rfl

theorem extractFlags_printed (flags : List String) (index : ℕ) :
    extractFlags (.arr (flags.map Json.str)) index = .ok flags := by
  simp [extractFlags, List.filterMap_map]

theorem macAddress_printed (rt : ModelRuntime) (mac : Option String) :
    macAddress rt (optionalText mac) = mac.filter (· ≠ nullMac) := by
  cases mac with
  | none => rfl
  | some mac => by_cases h : mac = nullMac <;> simp [macAddress, optionalText, Option.filter, h]

theorem up_flags (iface : NetworkInterface) :
    (decide ("UP" ∈ iface.flags) && decide ("LOWER_UP" ∈ iface.flags)) = iface.isUp := by
  rw [NetworkInterface.flags]
  cases iface.isLoopback <;> cases iface.isUp <;> rfl

theorem loopback_flags (iface : NetworkInterface) :
    decide ("LOOPBACK" ∈ iface.flags) = iface.isLoopback := by
  rw [NetworkInterface.flags]
  cases iface.isLoopback <;> cases iface.isUp <;> rfl

/-- Nothing is lost of the addresses of a reportable interface. -/
theorem NetworkInterface.read_eq_self_iff {iface : NetworkInterface} :
    iface.read = iface ↔ iface.macAddress ≠ some nullMac ∧ "" ∉ iface.ipAddresses := by
  obtain ⟨name, mac, addresses, isUp, isLoopback⟩ := iface
  simp only [read, mk.injEq, true_and, and_true, List.filter_eq_self]
  refine and_congr ?_ ⟨fun h hmem => by simpa using h "" hmem, fun h address hmem => ?_⟩
  · cases mac <;> simp [Option.filter]
  · simpa using fun heq : address = "" => h (heq ▸ hmem)

section Accepting

@[simp] theorem get_ifname (iface : NetworkInterface) :
    iface.entry.get "ifname" = .ok (.str iface.name) := rfl

variable {rt : ModelRuntime} (hrt : ∀ s, rt.acceptsText s = true)

include hrt

theorem textsField_of_accepts (field : String) (texts : List String) (index : ℕ) :
    textsField rt field texts index = .ok texts := by
  induction texts generalizing index with
  | nil => rfl
  | cons text texts ih =>
    rw [textsField, textField_of_accepts rt (hrt text), ih]
    rfl

theorem NetworkInterface.make_of_accepts (name : String) (mac : Option String)
    (addresses : List String) (isUp isLoopback : Bool) :
    NetworkInterface.make rt name mac addresses isUp isLoopback =
      .ok ⟨name, mac, addresses, isUp, isLoopback⟩ := by
  rw [NetworkInterface.make, textField_of_accepts rt (hrt name),
    optionalTextField_of_accepts rt fun t _ => hrt t, textsField_of_accepts hrt]
  rfl

/-- An interface with a name is read, up to addresses that do not count. -/
theorem parseEntry_entry {iface : NetworkInterface} (hname : iface.name ≠ "") (index : ℕ) :
    parseEntry rt iface.entry index = .ok iface.read := by
  have hread : interfaceName iface.entry index = .ok iface.name := by
    rw [interfaceName, get_ifname, ok_bind, nonemptyText, if_neg hname]
    rfl
  rw [parseEntry, if_pos (show iface.entry.isObj = true from rfl), hread, ok_bind]
  change (extractFlags (.arr (iface.flags.map Json.str)) index >>= fun flags =>
    extractIpAddresses (.arr (iface.ipAddresses.map addressEntry)) >>= fun addresses =>
      NetworkInterface.make rt iface.name (macAddress rt (optionalText iface.macAddress)) addresses
        (decide ("UP" ∈ flags) && decide ("LOWER_UP" ∈ flags)) (decide ("LOOPBACK" ∈ flags))) = _
  rw [extractFlags_printed, ok_bind, extractIpAddresses_printed, ok_bind,
    NetworkInterface.make_of_accepts hrt, macAddress_printed, up_flags, loopback_flags]
  rfl

omit hrt in
/-- An interface without a name is an error. -/
theorem parseEntry_unnamed {iface : NetworkInterface} (hname : iface.name = "") (index : ℕ) :
    parseEntry rt iface.entry index =
      .error (.valueError (entryText index ++ "missing or empty 'ifname'")) := by
  have hfails : interfaceName iface.entry index =
      .error (.valueError (entryText index ++ "missing or empty 'ifname'")) := by
    rw [interfaceName, get_ifname, ok_bind, nonemptyText, if_pos hname]
    rfl
  rw [parseEntry, if_pos (show iface.entry.isObj = true from rfl), hfails]
  rfl

/-- **Round trip**: interfaces that are printed are read back as they are exactly if each of them
has a name, no address of zeros and no empty address. -/
theorem parseNetworkInterfaces_printed_iff {interfaces : List NetworkInterface} {text : String}
    (h : rt.loads text = .ok (networkOutput interfaces)) :
    parseNetworkInterfaces rt text = .ok ⟨interfaces, text⟩ ↔
      ∀ iface ∈ interfaces, Reportable iface := by
  have hparse : parseNetworkInterfaces rt text =
      (((interfaces.map NetworkInterface.entry).zipIdx 1).mapM fun p => parseEntry rt p.1 p.2) >>=
        fun interfaces => NetworkInterfaceStatus.make rt interfaces text := by
    rw [parseNetworkInterfaces, loadJsonArray, h]
    rfl
  have hmake (interfaces : List NetworkInterface) :
      NetworkInterfaceStatus.make rt interfaces text = .ok ⟨interfaces, text⟩ := by
    rw [NetworkInterfaceStatus.make, textField_of_accepts rt (hrt text)]
    rfl
  by_cases hnames : ∀ iface ∈ interfaces, iface.name ≠ ""
  · have hread : ((interfaces.map NetworkInterface.entry).zipIdx 1).mapM
        (fun p => parseEntry rt p.1 p.2) = .ok (interfaces.map NetworkInterface.read) :=
      mapM_zipIdx_map_eq_ok
        (fun iface hiface index => parseEntry_entry hrt (hnames iface hiface) index) 1
    rw [hparse, hread, ok_bind, hmake]
    constructor
    · intro heq iface hiface
      have hself : interfaces.map NetworkInterface.read = interfaces.map id := by
        simpa using congrArg NetworkInterfaceStatus.interfaces (Except.ok.inj heq)
      obtain ⟨hmac, haddresses⟩ := NetworkInterface.read_eq_self_iff.mp
        (List.map_inj_left.mp hself iface hiface)
      exact ⟨hnames iface hiface, hmac, haddresses⟩
    · intro hreportable
      have hself : interfaces.map NetworkInterface.read = interfaces := by
        refine (List.map_congr_left fun iface hiface => ?_).trans (List.map_id interfaces)
        exact NetworkInterface.read_eq_self_iff.mpr
          ⟨(hreportable iface hiface).macAddress, (hreportable iface hiface).ipAddresses⟩
      rw [hself]
  · obtain ⟨iface, hiface, hname⟩ : ∃ iface ∈ interfaces, iface.name = "" := by simpa using hnames
    refine iff_of_false (fun hok => ?_) fun hall => (hall iface hiface).name hname
    rw [hparse, bind_eq_ok_iff] at hok
    obtain ⟨read, hread, -⟩ := hok
    have hmem : iface.entry ∈ ((interfaces.map NetworkInterface.entry).zipIdx 1).map Prod.fst := by
      rw [List.zipIdx_map_fst]
      exact List.mem_map_of_mem hiface
    obtain ⟨⟨entry, index⟩, hindex, rfl⟩ := List.mem_map.mp hmem
    obtain ⟨x, hx⟩ := (exists_mapM_eq_ok_iff _ _).mp ⟨read, hread⟩ _ hindex
    rw [parseEntry_unnamed hname] at hx
    cases hx

end Accepting

/-- The loopback interface is read back as it is printed, and so is an interface with two addresses;
with the zeros that it has as an address, the loopback interface is not. -/
theorem parseNetworkInterfaces_printed_eth0 :
    let eth0 : NetworkInterface :=
      ⟨"eth0", some "52:54:00:12:34:56", ["10.0.2.15", "fe80::1"], true, false⟩
    let lo (macAddress : Option String) : NetworkInterface :=
      ⟨"lo", macAddress, ["127.0.0.1"], true, true⟩
    parseNetworkInterfaces (.reading "[..]" (networkOutput [lo none, eth0])) "[..]" =
        .ok ⟨[lo none, eth0], "[..]"⟩ ∧
      parseNetworkInterfaces (.reading "[..]" (networkOutput [lo (some nullMac), eth0])) "[..]" ≠
        .ok ⟨[lo (some nullMac), eth0], "[..]"⟩ := by
  intro eth0 lo
  constructor
  · refine (parseNetworkInterfaces_printed_iff (fun _ => rfl) rfl).mpr ?_
    rw [List.forall_mem_cons, List.forall_mem_singleton]
    exact ⟨⟨by decide, by decide, by decide⟩, ⟨by decide, by decide, by decide⟩⟩
  · rw [Ne, parseNetworkInterfaces_printed_iff (fun _ => rfl) rfl]
    exact fun h => (h _ List.mem_cons_self).macAddress rfl

end ClassroomSuite.Platform.Network
