import ClassroomSuite.Platform.Network.Adapter

/-!
# Isolation of the network adapter

Whatever the tool prints, the parser is meant to return or to raise a value error, so that the
adapter raises exceptions of the platform layer only. The family of an address is looked up in a
set, which raises another exception if it is a list or an object. This happens at the first such
family, unless an entry before it, or the name or the flags of its own entry, raise a value error
first; on all other outputs the adapter is isolated (`networkIsolated_iff`).

Source: `cli/src/bcs/platform/adapters/network/parser.py`,
`cli/src/bcs/platform/adapters/network/adapter.py`.

## Main definitions

* `FamilyStray`, `NetworkStray`: the parser meets a family that cannot be looked up.
* `NetworkIsolated`: what is meant to hold of an output.

## Main results

* `networkIsolated_iff`.
-/

namespace ClassroomSuite.Platform.Network

open Python Library

/-- An address whose family cannot be looked up in a set. -/
def FamilyStray (info : Json) : Prop :=
  ∃ fields, info = .obj fields ∧ ((fields.lookup "family").getD .null).isHashable = false

/-- An entry with a name and a list of flags that has an address with a stray family. -/
def EntryStray (entry : Json) : Prop :=
  ∃ fields name flags infos, entry = .obj fields ∧
    nonemptyText ((fields.lookup "ifname").getD .null) = some name ∧
    fields.lookup "flags" = some (.arr flags) ∧ fields.lookup "addr_info" = some (.arr infos) ∧
    ∃ info ∈ infos, FamilyStray info

/-- The output can be read up to an entry with a stray family. -/
def NetworkStray (rt : ModelRuntime) (text : String) : Prop :=
  ∃ before entry after, rt.loads text = .ok (.arr (before ++ entry :: after)) ∧
    (∀ p ∈ before.zipIdx 1, ∃ interface, parseEntry rt p.1 p.2 = .ok interface) ∧
    EntryStray entry

/-- The output is parsed or raises a value error, and with every runner that prints it the adapter
returns or raises an exception of the platform layer. -/
structure NetworkIsolated (rt : ModelRuntime) (text : String) : Prop where
  parse : (∃ status, parseNetworkInterfaces rt text = .ok status) ∨
    ∃ e, parseNetworkInterfaces rt text = .error e ∧ e.isValueError = true
  read (runner : CommandRunner) (environ : List (String × String)) (timeoutSeconds : Option ℚ)
    (hprints : Prints runner environ timeoutSeconds text) :
    (∃ status, readNetworkInterfaces rt runner environ timeoutSeconds = .ok status) ∨
      ∃ e, readNetworkInterfaces rt runner environ timeoutSeconds = .error (.platform e)

variable {rt : ModelRuntime}

/-! ### Addresses -/

/-- The address of an element is read unless its family is a stray. -/
theorem localAddress_spec (info : Json) :
    (∃ address, localAddress info = .ok address) ∧ ¬ FamilyStray info ∨
      Raises PyError.Unhandled (localAddress info) ∧ FamilyStray info := by
  cases info with
  | obj fields =>
    cases hfamily : (fields.lookup "family").getD .null with
    | arr _ | obj _ =>
      right
      simp [localAddress, Json.isObj, hfamily, isIpFamily, Json.isHashable, FamilyStray]
    | str family =>
      left
      by_cases hknown : family ∈ ipFamilies <;>
        simp [localAddress, Json.isObj, hfamily, isIpFamily, Json.isHashable, FamilyStray, hknown]
    | _ =>
      left
      simp [localAddress, Json.isObj, hfamily, isIpFamily, Json.isHashable, FamilyStray]
  | _ => exact Or.inl ⟨⟨none, rfl⟩, by simp [FamilyStray]⟩

/-- The addresses are read unless one has a stray family. -/
theorem unhandled_mapM_localAddress_iff (infos : List Json) :
    Raises PyError.Unhandled (infos.mapM localAddress) ↔ ∃ info ∈ infos, FamilyStray info := by
  have hspec (info : Json) : (∃ address, localAddress info = .ok address) ∨
      Raises PyError.Unhandled (localAddress info) :=
    (localAddress_spec info).imp And.left And.left
  rw [raises_mapM_iff_exists _ hspec]
  refine exists_congr fun info => and_congr_right fun _ => ?_
  rcases localAddress_spec info with ⟨⟨address, hok⟩, hno⟩ | ⟨hraises, hstray⟩
  · simp [hok, hno]
  · exact iff_of_true hraises hstray

/-! ### Entries -/

/-- Reading the name of an entry goes on with the name, if there is one. -/
theorem unhandled_interfaceName_bind_iff {α : Type} (fields : List (String × Json)) (index : ℕ)
    (k : String → Except PyError α) :
    Raises PyError.Unhandled (interfaceName (.obj fields) index >>= k) ↔
      ∃ name, nonemptyText ((fields.lookup "ifname").getD .null) = some name ∧
        Raises PyError.Unhandled (k name) := by
  rw [interfaceName, Json.get_obj]
  cases hname : nonemptyText ((fields.lookup "ifname").getD .null) <;> simp [hname]

/-- Reading the flags goes on with their texts, if they are a list. -/
theorem unhandled_extractFlags_bind_iff {α : Type} (value : Json) (index : ℕ)
    (k : List String → Except PyError α) :
    Raises PyError.Unhandled (extractFlags value index >>= k) ↔
      ∃ flags texts, value = .arr flags ∧ extractFlags value index = .ok texts ∧
        Raises PyError.Unhandled (k texts) := by
  cases value <;> simp [extractFlags]

theorem unhandled_extractIpAddresses_iff (value : Json) :
    Raises PyError.Unhandled (extractIpAddresses value) ↔
      ∃ infos, value = .arr infos ∧ ∃ info ∈ infos, FamilyStray info := by
  cases value with
  | arr infos =>
    rw [extractIpAddresses, raises_bind_pure_iff, unhandled_mapM_localAddress_iff]
    simp
  | _ => simp [extractIpAddresses]

/-- A value under a key that is no null is under the key. -/
theorem getD_null_eq_arr_iff (found : Option Json) (items : List Json) :
    found.getD .null = .arr items ↔ found = some (.arr items) := by
  cases found <;> simp

theorem unhandled_parseEntry_iff (entry : Json) (index : ℕ) :
    Raises PyError.Unhandled (parseEntry rt entry index) ↔ EntryStray entry := by
  cases hentry : entry.isObj with
  | false =>
    refine iff_of_false (by simp [parseEntry, hentry]) ?_
    rintro ⟨fields, name, flags, infos, rfl, -⟩
    simp [Json.isObj] at hentry
  | true =>
    obtain ⟨fields, rfl⟩ := Json.isObj_iff.mp hentry
    rw [parseEntry, if_pos hentry, unhandled_interfaceName_bind_iff]
    simp only [Json.get_obj, ok_bind, unhandled_extractFlags_bind_iff, getD_null_eq_arr_iff]
    have hmake (name : String) (mac : Option String) (isUp isLoopback : Bool)
        (ipAddresses : List String) : ¬ Raises PyError.Unhandled
          (NetworkInterface.make rt name mac ipAddresses isUp isLoopback) :=
      not_raises_construct rt _ _
    constructor
    · rintro ⟨name, hname, flags, texts, hflags, -, h⟩
      rw [raises_bind_iff_left _ (hmake _ _ _ _), unhandled_extractIpAddresses_iff] at h
      obtain ⟨infos, hinfos, hstray⟩ := h
      exact ⟨fields, name, flags, infos, rfl, hname, hflags,
        (getD_null_eq_arr_iff _ _).mp hinfos, hstray⟩
    · rintro ⟨_, name, flags, infos, hfields, hname, hflags, hinfos, hstray⟩
      obtain rfl := Json.obj.inj hfields
      refine ⟨name, hname, flags, _, hflags, by rw [hflags]; rfl, ?_⟩
      rw [raises_bind_iff_left _ (hmake _ _ _ _), unhandled_extractIpAddresses_iff]
      exact ⟨infos, (getD_null_eq_arr_iff _ _).mpr hinfos, hstray⟩

/-! ### The output -/

/-- The parser raises an exception that is no value error exactly when it meets a stray family. -/
theorem unhandled_parseNetworkInterfaces_iff (text : String) :
    Raises PyError.Unhandled (parseNetworkInterfaces rt text) ↔ NetworkStray rt text := by
  have hmake (interfaces : List NetworkInterface) :
      ¬ Raises PyError.Unhandled (NetworkInterfaceStatus.make rt interfaces text) :=
    not_raises_construct rt _ _
  have hentries (raw : List Json) :
      Raises PyError.Unhandled (do
        let interfaces ← (raw.zipIdx 1).mapM fun p => parseEntry rt p.1 p.2
        NetworkInterfaceStatus.make rt interfaces text) ↔
      ∃ before entry after, raw = before ++ entry :: after ∧
        (∀ p ∈ before.zipIdx 1, ∃ interface, parseEntry rt p.1 p.2 = .ok interface) ∧
        EntryStray entry := by
    simp only [raises_bind_iff_left _ hmake, raises_zipIdx_mapM_iff, unhandled_parseEntry_iff]
  rw [parseNetworkInterfaces, loadJsonArray]
  cases hloads : rt.loads text with
  | error problem => simp [NetworkStray, hloads]
  | ok data =>
    cases data with
    | arr raw =>
      refine (hentries raw).trans ?_
      simp only [NetworkStray, hloads, Except.ok.injEq, Json.arr.injEq]
    | _ => simp [NetworkStray, hloads]

/-- The network is isolated exactly from outputs in which the parser meets no stray family. -/
theorem networkIsolated_iff (rt : ModelRuntime) (text : String) :
    NetworkIsolated rt text ↔ ¬ NetworkStray rt text := by
  rw [← unhandled_parseNetworkInterfaces_iff]
  constructor
  · exact fun h => (not_unhandled_iff _).mpr h.parse
  · intro h
    refine ⟨(not_unhandled_iff _).mp h, fun runner environ timeoutSeconds hprints => ?_⟩
    exact (not_escapes_iff _).mp (mt (escapes_parse_of_escapes_read hprints) h)

/-- The text of an interface with an address whose family is a list. -/
def strayFamilyText : String :=
  "[\x7b\"ifname\":\"eth0\",\"flags\":[],\"addr_info\":[\x7b\"family\":[]\x7d]\x7d]"

/-- The value that is read from the text. -/
def strayFamilyEntries : Json :=
  .arr [.obj [("ifname", .str "eth0"), ("flags", .arr []),
    ("addr_info", .arr [.obj [("family", .arr [])]])]]

/-- The network is not isolated from an address whose family is a list. -/
theorem network_stray_family :
    ¬ ∀ (rt : ModelRuntime) (text : String), NetworkIsolated rt text := by
  intro h
  have hparse : parseNetworkInterfaces (.reading strayFamilyText strayFamilyEntries)
      strayFamilyText = .error (.typeError "unhashable type: 'list'") := by rfl
  rcases (h (.reading strayFamilyText strayFamilyEntries) strayFamilyText).parse with
    ⟨status, hstatus⟩ | ⟨e, he, hvalue⟩
  · cases hparse.symm.trans hstatus
  · obtain rfl := Except.error.inj (hparse.symm.trans he)
    exact absurd hvalue (by decide)

end ClassroomSuite.Platform.Network
