import ClassroomSuite.Platform.Storage.Parser

/-!
# Strays in the outputs of the storage tools

The parser checks that the entries of an output are objects, but not that their children are. A
child that is no object, a stray, is asked for a value as an object is, which raises an exception
that is no value error. Nor does it bound the depth of nested mounts, and beyond the recursion limit
the interpreter raises another such exception. The parser reads in a fixed order and stops at the
first fault, so that a stray matters if everything before it can be read.

Source: `cli/src/bcs/platform/adapters/storage/parser.py`.

## Main definitions

* `DeviceStray`, `MountStray`, `StorageStray`: the parser meets a stray.

## Main results

* `unhandled_parseStorageTopology_iff`: exactly then it raises no value error.
-/

namespace ClassroomSuite.Platform.Storage

open Python Library

/-- There is a text under the key, which is not empty. -/
def HasText (fields : List (String × Json)) (key : String) (s : String) : Prop :=
  fields.lookup key = some (.str s) ∧ s ≠ ""

/-- There is a truth value under the key. -/
def HasBool (fields : List (String × Json)) (key : String) : Prop :=
  ∃ b, fields.lookup key = some (.bool b)

/-- These are the children; an entry without the key has none. -/
def HasChildren (fields : List (String × Json)) (children : List Json) : Prop :=
  (fields.lookup "children").getD (.arr []) = .arr children

variable (rt : ModelRuntime)

/-- The output is an object with a list of objects under the key, these. -/
def Lists (text key : String) (entries : List Json) : Prop :=
  ∃ fields, rt.loads text = .ok (.obj fields) ∧ fields.lookup key = some (.arr entries) ∧
    ∀ entry ∈ entries, entry.isObj = true

variable {rt} in
theorem Lists.isObj {text key : String} {entries : List Json} {entry : Json}
    (h : Lists rt text key entries) (hentry : entry ∈ entries) : entry.isObj = true := by
  obtain ⟨fields, -, -, hall⟩ := h
  exact hall entry hentry

variable {rt} in
/-- An output lists one list of entries under a key. -/
theorem Lists.unique {text key : String} {entries entries' : List Json}
    (h : Lists rt text key entries) (h' : Lists rt text key entries') : entries = entries' := by
  obtain ⟨fields, hloads, hlookup, -⟩ := h
  obtain ⟨fields', hloads', hlookup', -⟩ := h'
  obtain rfl : fields = fields' :=
    Json.obj.inj (Except.ok.inj (hloads.symm.trans hloads'))
  exact Json.arr.inj (Option.some.inj (hlookup.symm.trans hlookup'))

/-- A stray is the first fault of a device. -/
def DeviceStray (entry : Json) : Prop :=
  ∃ fields name deviceType before stray after, entry = .obj fields ∧ HasText fields "name" name ∧
    HasText fields "type" deviceType ∧ HasBool fields "ro" ∧ HasBool fields "rm" ∧
    HasChildren fields (before ++ stray :: after) ∧
    (∀ p ∈ before.zipIdx 1, ∃ partition, parsePartition rt p.1 p.2 = .ok partition) ∧
    stray.isObj = false

/-- The device tree can be read up to a device with a stray. -/
def LsblkStray (text : String) : Prop :=
  ∃ before entry after, Lists rt text "blockdevices" (before ++ entry :: after) ∧
    (∀ device ∈ before, ∃ d, parseBlockDevice rt device = .ok d) ∧ DeviceStray rt entry

/-- The first fault of a mount, at the given depth below the recursion limit and below the given
parent, is a stray, or that the limit is reached. -/
inductive MountStray : ℕ → Option String → Json → Prop
  | limit (parent : Option String) (entry : Json) : MountStray 0 parent entry
  | stray (limit : ℕ) (parent : Option String) {entry : Json} (h : entry.isObj = false) :
      MountStray (limit + 1) parent entry
  | child {limit : ℕ} {parent : Option String} {fields : List (String × Json)}
      {target source fstype options : String} {mount : MountEntry}
      {before after : List Json} {entry : Json}
      (htarget : HasText fields "target" target) (hsource : HasText fields "source" source)
      (hfstype : HasText fields "fstype" fstype) (hoptions : HasText fields "options" options)
      (hmount : MountEntry.make rt source target fstype options parent = .ok mount)
      (hchildren : HasChildren fields (before ++ entry :: after))
      (hbefore : ∀ child ∈ before, ∃ mounts,
        parseMountEntry rt limit child (some target) = .ok mounts)
      (h : MountStray limit (some target) entry) : MountStray (limit + 1) parent (.obj fields)

/-- The mounts can be read up to a stray, or up to the recursion limit. -/
def FindmntStray (text : String) : Prop :=
  ∃ before entry after, Lists rt text "filesystems" (before ++ entry :: after) ∧
    (∀ mount ∈ before, ∃ mounts, parseMountEntry rt rt.recursionLimit mount none = .ok mounts) ∧
    MountStray rt rt.recursionLimit none entry

/-- The three outputs can be read up to a stray in the first, or in the last. -/
def StorageStray (lsblkOutput blkidOutput findmntOutput : String) : Prop :=
  LsblkStray rt lsblkOutput ∨
    (∃ devices facts annotated, parseLsblk rt lsblkOutput = .ok devices ∧
      parseBlkid rt blkidOutput = .ok facts ∧
      devices.mapM (annotateDeviceWithBlkid rt facts) = .ok annotated) ∧
    FindmntStray rt findmntOutput

variable {rt}

/-! ### Reading fields -/

theorem unhandled_get_iff (entry : Json) (key : String) (default : Json) :
    Raises PyError.Unhandled (entry.get key default) ↔ entry.isObj = false := by
  cases entry with
  | obj fields => simp [Json.isObj]
  | _ => simp [Json.get, Json.isObj]

/-- What is done with a value raises value errors only, so that only getting it matters. -/
theorem unhandled_get_bind_iff {α : Type} {entry : Json} {key : String} {default : Json}
    {k : Json → Except PyError α} (h : ∀ value, ¬ Raises PyError.Unhandled (k value)) :
    Raises PyError.Unhandled (entry.get key default >>= k) ↔ entry.isObj = false := by
  rw [raises_bind_iff_left _ h, unhandled_get_iff]

theorem unhandled_requireStr_iff (entry : Json) (key tool context : String) :
    Raises PyError.Unhandled (requireStr rt entry key tool context) ↔ entry.isObj = false := by
  refine unhandled_get_bind_iff fun value => ?_
  cases value with
  | str s => by_cases hs : s = "" <;> simp [hs]
  | _ => simp

theorem unhandled_requireBool_iff (entry : Json) (key tool context : String) :
    Raises PyError.Unhandled (requireBool rt entry key tool context) ↔ entry.isObj = false := by
  refine unhandled_get_bind_iff fun value => ?_
  cases value <;> simp

theorem unhandled_childrenOf_iff (entry : Json) (problem : String) :
    Raises PyError.Unhandled (childrenOf entry problem) ↔ entry.isObj = false := by
  refine unhandled_get_bind_iff fun value => ?_
  cases value <;> simp

theorem unhandled_optionalStr_iff (entry : Json) (key : String) :
    Raises PyError.Unhandled (optionalStr rt entry key) ↔ entry.isObj = false :=
  unhandled_get_bind_iff fun _ => not_raises_ok _ _

theorem not_unhandled_extractMountPoint (fields : List (String × Json)) :
    ¬ Raises PyError.Unhandled (extractMountPoint rt (.obj fields)) := by
  rw [extractMountPoint, Json.get_obj]
  cases (fields.lookup "mountpoints").getD .null with
  | arr points => exact not_raises_ok _ _
  | _ => exact not_raises_ok _ _

theorem requireStr_obj_eq_ok_iff (fields : List (String × Json)) (key tool context s : String) :
    requireStr rt (.obj fields) key tool context = .ok s ↔ HasText fields key s := by
  rw [requireStr, Json.get_obj, HasText]
  cases fields.lookup key with
  | none => simp
  | some value =>
    cases value with
    | str s' =>
      by_cases hs : s' = ""
      · simp [hs, eq_comm]
      · simp only [Option.getD_some, ok_bind, if_neg hs, pure_eq_ok, Except.ok.injEq,
          Option.some.injEq, Json.str.injEq]
        exact (and_iff_left_of_imp fun h => h ▸ hs).symm
    | _ => simp

/-- Reading a text of an object goes on with the text, if there is one. -/
theorem unhandled_requireStr_bind_iff {α : Type} (fields : List (String × Json))
    (key tool context : String) (k : String → Except PyError α) :
    Raises PyError.Unhandled (requireStr rt (.obj fields) key tool context >>= k) ↔
      ∃ s, HasText fields key s ∧ Raises PyError.Unhandled (k s) := by
  have hobj : ¬ Raises PyError.Unhandled (requireStr rt (.obj fields) key tool context) := by
    simp [unhandled_requireStr_iff, Json.isObj]
  simp only [raises_bind_iff_of_not _ hobj, requireStr_obj_eq_ok_iff]

theorem unhandled_requireBool_bind_iff {α : Type} (fields : List (String × Json))
    (key tool context : String) (k : Bool → Except PyError α) :
    Raises PyError.Unhandled (requireBool rt (.obj fields) key tool context >>= k) ↔
      ∃ b, fields.lookup key = some (.bool b) ∧ Raises PyError.Unhandled (k b) := by
  have hobj : ¬ Raises PyError.Unhandled (requireBool rt (.obj fields) key tool context) := by
    simp [unhandled_requireBool_iff, Json.isObj]
  rw [raises_bind_iff_of_not _ hobj, requireBool, Json.get_obj]
  refine exists_congr fun b => and_congr_left fun _ => ?_
  cases fields.lookup key with
  | none => simp
  | some value => cases value <;> simp

theorem unhandled_childrenOf_bind_iff {α : Type} (fields : List (String × Json))
    (problem : String) (k : List Json → Except PyError α) :
    Raises PyError.Unhandled (childrenOf (.obj fields) problem >>= k) ↔
      ∃ children, HasChildren fields children ∧ Raises PyError.Unhandled (k children) := by
  have hobj : ¬ Raises PyError.Unhandled (childrenOf (.obj fields) problem) := by
    simp [unhandled_childrenOf_iff, Json.isObj]
  rw [raises_bind_iff_of_not _ hobj, childrenOf, Json.get_obj]
  refine exists_congr fun children => and_congr_left fun _ => ?_
  rw [HasChildren]
  cases (fields.lookup "children").getD (.arr []) <;> simp

theorem not_unhandled_loadJson (text tool : String) :
    ¬ Raises PyError.Unhandled (loadJson rt text tool) := by
  unfold loadJson
  split <;> simp

theorem loadJson_eq_ok_iff (text tool : String) (root : Json) :
    loadJson rt text tool = .ok root ↔
      ∃ fields, rt.loads text = .ok (.obj fields) ∧ root = .obj fields := by
  unfold loadJson
  cases rt.loads text with
  | error problem => simp
  | ok data => cases data <;> simp [eq_comm]

theorem not_unhandled_requireList (fields : List (String × Json)) (key tool : String) :
    ¬ Raises PyError.Unhandled (requireList rt (.obj fields) key tool) := by
  refine not_raises_bind _ (by simp) fun value _ => ?_
  cases value with
  | arr items => by_cases hall : items.all Json.isObj = true <;> simp only [hall] <;> simp
  | _ => simp

theorem requireList_obj_eq_ok_iff (fields : List (String × Json)) (key tool : String)
    (entries : List Json) :
    requireList rt (.obj fields) key tool = .ok entries ↔
      fields.lookup key = some (.arr entries) ∧ ∀ entry ∈ entries, entry.isObj = true := by
  rw [requireList, Json.get_obj]
  cases fields.lookup key with
  | none => simp
  | some value =>
    cases value with
    | arr items =>
      simp only [Option.getD_some, ok_bind, pure_eq_ok, throw_eq_error, Option.some.injEq,
        Json.arr.injEq, ← List.all_eq_true]
      by_cases hall : items.all Json.isObj = true
      · rw [if_pos hall, Except.ok.injEq]
        exact (and_iff_left_of_imp fun h => h ▸ hall).symm
      · rw [if_neg hall]
        exact iff_of_false (by simp) fun h => hall (h.1 ▸ h.2)
    | _ => simp

/-- The list of an output is gone on with, if it is one of objects. -/
theorem unhandled_list_iff {α : Type} (text key tool : String)
    (k : List Json → Except PyError α) :
    Raises PyError.Unhandled (do
        let root ← loadJson rt text tool
        let entries ← requireList rt root key tool
        k entries) ↔
      ∃ entries, Lists rt text key entries ∧ Raises PyError.Unhandled (k entries) := by
  rw [raises_bind_iff_of_not _ (not_unhandled_loadJson text tool)]
  simp only [loadJson_eq_ok_iff]
  constructor
  · rintro ⟨_, ⟨fields, hloads, rfl⟩, h⟩
    rw [raises_bind_iff_of_not _ (not_unhandled_requireList fields key tool)] at h
    obtain ⟨entries, hentries, h⟩ := h
    obtain ⟨hkey, hobj⟩ := (requireList_obj_eq_ok_iff fields key tool entries).mp hentries
    exact ⟨entries, ⟨fields, hloads, hkey, hobj⟩, h⟩
  · rintro ⟨entries, ⟨fields, hloads, hkey, hobj⟩, h⟩
    refine ⟨_, ⟨fields, hloads, rfl⟩, ?_⟩
    rw [raises_bind_iff_of_not _ (not_unhandled_requireList fields key tool)]
    exact ⟨entries, (requireList_obj_eq_ok_iff fields key tool entries).mpr ⟨hkey, hobj⟩, h⟩

/-! ### The device tree -/

theorem unhandled_parsePartition_iff (entry : Json) (fallbackNumber : ℕ) :
    Raises PyError.Unhandled (parsePartition rt entry fallbackNumber) ↔
      entry.isObj = false := by
  cases hentry : entry.isObj with
  | false =>
    rw [parsePartition, raises_bind_iff, unhandled_requireStr_iff]
    exact iff_of_true (Or.inl hentry) rfl
  | true =>
    obtain ⟨fields, rfl⟩ := Json.isObj_iff.mp hentry
    refine iff_of_false ?_ (by simp)
    rw [parsePartition, unhandled_requireStr_bind_iff]
    rintro ⟨name, -, h⟩
    simp only [Json.get_obj] at h
    refine not_raises_bind _ (not_unhandled_extractMountPoint fields) (fun mountPoint _ => ?_) h
    exact not_raises_construct _ _ _

/-- Reading the partitions raises no value error where a child is a stray. -/
theorem unhandled_partitions_bind_iff {α : Type} {k : List Partition → Except PyError α}
    (hk : ∀ partitions, ¬ Raises PyError.Unhandled (k partitions)) (children : List Json) :
    Raises PyError.Unhandled
        ((children.zipIdx 1).mapM (fun p => parsePartition rt p.1 p.2) >>= k) ↔
      ∃ before stray after, children = before ++ stray :: after ∧
        (∀ p ∈ before.zipIdx 1, ∃ partition, parsePartition rt p.1 p.2 = .ok partition) ∧
        stray.isObj = false := by
  simp only [raises_bind_iff_left _ hk, raises_zipIdx_mapM_iff, unhandled_parsePartition_iff]

theorem unhandled_parseBlockDevice_iff {entry : Json} (hentry : entry.isObj = true) :
    Raises PyError.Unhandled (parseBlockDevice rt entry) ↔ DeviceStray rt entry := by
  obtain ⟨fields, rfl⟩ := Json.isObj_iff.mp hentry
  have hmake {α : Type} {k : Option String → Except PyError α}
      (hk : ∀ mountPoint, ¬ Raises PyError.Unhandled (k mountPoint)) :
      ¬ Raises PyError.Unhandled (extractMountPoint rt (.obj fields) >>= k) :=
    not_raises_bind _ (not_unhandled_extractMountPoint fields) fun mountPoint _ => hk mountPoint
  rw [parseBlockDevice]
  simp only [unhandled_requireStr_bind_iff, unhandled_requireBool_bind_iff,
    unhandled_childrenOf_bind_iff]
  constructor
  · rintro ⟨name, hname, deviceType, htype, ro, hro, rm, hrm, children, hchildren, h⟩
    obtain ⟨before, stray, after, rfl, hbefore, hstray⟩ :=
      (unhandled_partitions_bind_iff (fun _ => hmake fun _ => not_raises_construct _ _ _) _).mp h
    exact ⟨fields, name, deviceType, before, stray, after, rfl, hname, htype, ⟨ro, hro⟩, ⟨rm, hrm⟩,
      hchildren, hbefore, hstray⟩
  · rintro ⟨_, name, deviceType, before, stray, after, hfields, hname, htype, ⟨ro, hro⟩, ⟨rm, hrm⟩,
      hchildren, hbefore, hstray⟩
    obtain rfl := Json.obj.inj hfields
    refine ⟨name, hname, deviceType, htype, ro, hro, rm, hrm, _, hchildren, ?_⟩
    exact (unhandled_partitions_bind_iff (fun _ => hmake fun _ => not_raises_construct _ _ _) _).mpr
      ⟨before, stray, after, rfl, hbefore, hstray⟩

theorem unhandled_parseLsblk_iff (text : String) :
    Raises PyError.Unhandled (parseLsblk rt text) ↔ LsblkStray rt text := by
  rw [parseLsblk, unhandled_list_iff]
  simp only [raises_mapM_iff]
  constructor
  · rintro ⟨_, hlists, before, entry, after, rfl, hbefore, h⟩
    have hobj : entry.isObj = true := hlists.isObj (by simp)
    exact ⟨before, entry, after, hlists, hbefore, (unhandled_parseBlockDevice_iff hobj).mp h⟩
  · rintro ⟨before, entry, after, hlists, hbefore, h⟩
    have hobj : entry.isObj = true := hlists.isObj (by simp)
    have hentry := (unhandled_parseBlockDevice_iff hobj).mpr h
    exact ⟨_, hlists, before, entry, after, rfl, hbefore, hentry⟩

/-! ### The filesystems -/

theorem not_unhandled_parseBlkidEntry {entry : Json} (hentry : entry.isObj = true) :
    ¬ Raises PyError.Unhandled (parseBlkidEntry rt entry) := by
  have hobj : ¬ entry.isObj = false := by simp [hentry]
  have hoptional (key : String) : ¬ Raises PyError.Unhandled (optionalStr rt entry key) :=
    mt (unhandled_optionalStr_iff entry key).mp hobj
  have hname : ¬ Raises PyError.Unhandled (requireStr rt entry "name" "blkid") :=
    mt (unhandled_requireStr_iff entry _ _ _).mp hobj
  exact not_raises_bind _ hname fun _ _ => not_raises_bind _ (hoptional _) fun _ _ =>
    not_raises_bind _ (hoptional _) fun _ _ => not_raises_bind _ (hoptional _) fun _ _ =>
    not_raises_bind _ (hoptional _) fun _ _ => not_raises_bind _ (hoptional _) fun _ _ =>
    not_raises_ok _ _

theorem not_unhandled_parseBlkid (text : String) :
    ¬ Raises PyError.Unhandled (parseBlkid rt text) := by
  rw [parseBlkid, unhandled_list_iff]
  rintro ⟨entries, hlists, h⟩
  rw [raises_bind_pure_iff] at h
  refine not_raises_mapM _ (fun entry hentry => ?_) h
  exact not_unhandled_parseBlkidEntry (hlists.isObj hentry)

theorem not_unhandled_annotateDeviceWithBlkid (facts : List (String × BlkidFacts))
    (device : BlockDevice) :
    ¬ Raises PyError.Unhandled (annotateDeviceWithBlkid rt facts device) := by
  have hpartition (partition : Partition) (found : Option BlkidFacts) :
      ¬ Raises PyError.Unhandled (annotatePartitionWithBlkid rt partition found) := by
    cases found with
    | none => exact not_raises_ok _ _
    | some found =>
      rw [annotatePartitionWithBlkid]
      split_ifs
      · rw [raises_bind_pure_iff, map_eq_pure_bind, raises_bind_pure_iff]
        exact not_raises_construct rt _ _
      · exact not_raises_ok _ _
  unfold annotateDeviceWithBlkid
  split
  · rename_i e h
    rw [raises_error_iff]
    exact fun he => not_raises_mapM _ (fun _ _ => hpartition _ _) ⟨e, h, he⟩
  · exact not_raises_ok _ _

/-! ### The mounts -/

theorem unhandled_parseMountEntry_iff (limit : ℕ) (entry : Json) (parent : Option String) :
    Raises PyError.Unhandled (parseMountEntry rt limit entry parent) ↔
      MountStray rt limit parent entry := by
  induction limit generalizing entry parent with
  | zero => exact iff_of_true (by simp [parseMountEntry]) (.limit parent entry)
  | succ limit ih =>
    cases hentry : entry.isObj with
    | false =>
      rw [parseMountEntry, raises_bind_iff, unhandled_requireStr_iff]
      exact iff_of_true (Or.inl hentry) (.stray limit parent hentry)
    | true =>
      obtain ⟨fields, rfl⟩ := Json.isObj_iff.mp hentry
      rw [parseMountEntry]
      simp only [unhandled_requireStr_bind_iff]
      constructor
      · rintro ⟨target, htarget, source, hsource, fstype, hfstype, options, hoptions, h⟩
        obtain ⟨mount, hmount, h⟩ :=
          (raises_bind_iff_of_not _ (not_raises_construct rt _ _) _).mp h
        obtain ⟨children, hchildren, h⟩ := (unhandled_childrenOf_bind_iff _ _ _).mp h
        rw [raises_bind_pure_iff, raises_mapM_iff] at h
        obtain ⟨before, child, after, rfl, hbefore, h⟩ := h
        exact .child htarget hsource hfstype hoptions hmount hchildren hbefore ((ih _ _).mp h)
      · intro h
        cases h with
        | stray _ _ h => exact absurd hentry (by simp [h])
        | child htarget hsource hfstype hoptions hmount hchildren hbefore h =>
          refine ⟨_, htarget, _, hsource, _, hfstype, _, hoptions, ?_⟩
          refine (raises_bind_iff_of_not _ (not_raises_construct rt _ _) _).mpr ⟨_, hmount, ?_⟩
          refine (unhandled_childrenOf_bind_iff _ _ _).mpr ⟨_, hchildren, ?_⟩
          rw [raises_bind_pure_iff, raises_mapM_iff]
          exact ⟨_, _, _, rfl, hbefore, (ih _ _).mpr h⟩

theorem unhandled_parseFindmnt_iff (text : String) :
    Raises PyError.Unhandled (parseFindmnt rt text) ↔ FindmntStray rt text := by
  rw [parseFindmnt, unhandled_list_iff]
  simp only [raises_bind_pure_iff, raises_mapM_iff,
    unhandled_parseMountEntry_iff]
  constructor
  · rintro ⟨_, hlists, before, entry, after, rfl, h⟩
    exact ⟨before, entry, after, hlists, h⟩
  · rintro ⟨before, entry, after, hlists, h⟩
    exact ⟨_, hlists, before, entry, after, rfl, h⟩

/-- The parser raises an exception that is no value error exactly when it meets a stray. -/
theorem unhandled_parseStorageTopology_iff (lsblkOutput blkidOutput findmntOutput : String) :
    Raises PyError.Unhandled (parseStorageTopology rt lsblkOutput blkidOutput findmntOutput) ↔
      StorageStray rt lsblkOutput blkidOutput findmntOutput := by
  have hmake (devices : List BlockDevice) (mounts : List MountEntry) :
      ¬ Raises PyError.Unhandled (StorageConfiguration.make rt devices mounts) :=
    not_raises_construct rt _ _
  rw [parseStorageTopology, raises_bind_iff, unhandled_parseLsblk_iff, StorageStray]
  refine or_congr_right ?_
  constructor
  · rintro ⟨devices, hdevices, h⟩
    obtain ⟨facts, hfacts, h⟩ :=
      (raises_bind_iff_of_not _ (not_unhandled_parseBlkid _) _).mp h
    obtain ⟨annotated, hannotated, h⟩ := (raises_bind_iff_of_not _ (not_raises_mapM _
      fun device _ => not_unhandled_annotateDeviceWithBlkid facts device) _).mp h
    rw [raises_bind_iff_left _ fun _ => hmake _ _, unhandled_parseFindmnt_iff] at h
    exact ⟨⟨devices, facts, annotated, hdevices, hfacts, hannotated⟩, h⟩
  · rintro ⟨⟨devices, facts, annotated, hdevices, hfacts, hannotated⟩, h⟩
    refine ⟨devices, hdevices, ?_⟩
    refine (raises_bind_iff_of_not _ (not_unhandled_parseBlkid _) _).mpr ⟨facts, hfacts, ?_⟩
    refine (raises_bind_iff_of_not _ (not_raises_mapM _
      fun device _ => not_unhandled_annotateDeviceWithBlkid facts device) _).mpr
      ⟨annotated, hannotated, ?_⟩
    rw [raises_bind_iff_left _ fun _ => hmake _ _, unhandled_parseFindmnt_iff]
    exact h

end ClassroomSuite.Platform.Storage
