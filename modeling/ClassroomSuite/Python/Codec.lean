import Mathlib.Logic.Equiv.Prod
import ClassroomSuite.Python.FormatTerms
import ClassroomSuite.Python.ModelReader

/-!
# Codecs

A declaration of a model says at once how its values are written as JSON and how they are read back.
A codec is such a declaration with the law that what it writes it reads. Codecs of values are put
together from those of texts, numbers and truth values; codecs of records, which share one object,
from those of single fields with disjoint keys. A record is closed where every key of an object has
to be one of a field, and extensible where other keys are allowed that begin with `x-`.

## Main definitions

* `Codec`, `Codec.str`, `Codec.bool`, `Codec.nat`, `Codec.int`, `Codec.literal`, `Codec.texts`,
  `Codec.nullable`, `Codec.list`.
* `RecordCodec`, `RecordCodec.field`, `RecordCodec.and`, `RecordCodec.map`.
* `Extension`, `RecordCodec.closed`, `RecordCodec.extensible`.

## Main results

* `RecordCodec.extensible_read_of_perm`: the order of the fields makes no difference.
-/

namespace ClassroomSuite.Python

open Library

variable {α β : Type}

/-! ### Values -/

/-- How the values of a type are written as JSON and read from it. -/
structure Codec (α : Type) where
  write : α → Json
  read : Json → Option α
  read_write : ∀ a, read (write a) = some a

/-- Whether a value is null. -/
def Json.isNull : Json → Bool
  | .null => true
  | _ => false

/-- `int`. -/
def readInt : Json → Option ℤ
  | .int i => some i
  | _ => none

theorem readOptional_of_not_null (read : Json → Option α) {value : Json}
    (h : value.isNull = false) : readOptional read value = (read value).map some := by
  cases value with
  | null => cases h
  | _ => rfl

namespace Codec

/-- `str`. -/
def str : Codec String := ⟨.str, readStr, fun _ => rfl⟩

/-- `bool`. -/
def bool : Codec Bool := ⟨.bool, readBool, fun _ => rfl⟩

/-- `int`, for a number that is not negative. -/
def nat : Codec ℕ := ⟨fun n => .int n, readNat, fun n => by simp [readNat]⟩

/-- `int`. -/
def int : Codec ℤ := ⟨.int, readInt, fun _ => rfl⟩

/-- `Literal` of one text. -/
def literal (text : String) : Codec Unit where
  write _ := .str text
  read
    | .str s => if s = text then some () else none
    | _ => none
  read_write _ := if_pos rfl

/-- `StrEnum`: the values by their texts. -/
def texts (text : α → String) (values : List α)
    (h : ∀ a, values.find? (fun b => text b == text a) = some a) : Codec α where
  write a := .str (text a)
  read
    | .str s => values.find? fun b => text b == s
    | _ => none
  read_write := h

/-- A value that may be null, where the codec of its type writes no null. -/
def nullable (codec : Codec α) (h : ∀ a, (codec.write a).isNull = false) : Codec (Option α) where
  write
    | none => .null
    | some a => codec.write a
  read := readOptional codec.read
  read_write
    | none => rfl
    | some a => by
      dsimp only
      rw [readOptional_of_not_null _ (h a), codec.read_write, Option.map_some]

/-- `list`. -/
def list (codec : Codec α) : Codec (List α) where
  write values := .arr (values.map codec.write)
  read := readTuple codec.read
  read_write values := by
    rw [readTuple]
    induction values with
    | nil => rfl
    | cons a values ih =>
      rw [List.map_cons, List.mapM_cons, codec.read_write, ih]
      rfl

end Codec

/-! ### Records -/

/-- How the fields of a model are written into an object and read from it. What is read depends on
the values under the keys of the fields only, and from what was written all keys are used. -/
structure RecordCodec (α : Type) where
  /-- The keys that may hold a field: the aliases and the names. -/
  keys : List String
  write : α → Fields
  read : Fields → Option α
  /-- The keys that fields are found under. -/
  used : Fields → List String
  keys_write : ∀ a, ∀ field ∈ write a, field.1 ∈ keys
  used_subset : ∀ fields, used fields ⊆ keys
  congr : ∀ fields fields', (∀ key ∈ keys, fields.lookup key = fields'.lookup key) →
    read fields = read fields' ∧ used fields = used fields'
  read_write : ∀ a, read (write a) = some a
  used_write : ∀ a, used (write a) = (write a).map Prod.fst

/-- A key that is no key of a list has no value in it. -/
theorem lookup_eq_none_of_keys {fields : Fields} {keys : List String}
    (h : ∀ field ∈ fields, field.1 ∈ keys) {key : String} (hkey : key ∉ keys) :
    fields.lookup key = none :=
  List.lookup_eq_none_iff.mpr fun field hfield => bne_iff_ne.mpr fun hmem : key = _ =>
    hkey (hmem ▸ h field hfield)

/-- The key under which a field is found is one of its keys. -/
theorem ReadField.mem_of_key {field : ReadField α} {fields : Fields} {key : String}
    (h : field.key fields = some key) : key ∈ field.aliasName.toList ++ [field.name] :=
  List.mem_of_find?_eq_some h

namespace RecordCodec

/-- One field. It is written under its alias, if it has one, and found under either. -/
def field (codec : Codec α) (name : String) (aliasName : Option String := none)
    (default : Option α := none) : RecordCodec α :=
  let read : ReadField α := { name, aliasName, read := codec.read, default }
  { keys := aliasName.toList ++ [name]
    write := fun a => [(aliasName.getD name, codec.write a)]
    read := read.get
    used := fun fields => (read.key fields).toList
    keys_write := by
      rintro a entry hentry
      obtain rfl := List.mem_singleton.mp hentry
      cases aliasName <;> simp
    used_subset := by
      intro fields key hkey
      exact ReadField.mem_of_key (Option.mem_toList.mp hkey)
    congr := by
      intro fields fields' h
      have hkey : read.key fields = read.key fields' := by
        rw [ReadField.key, ReadField.key, ← List.head?_filter, ← List.head?_filter]
        exact congrArg List.head? (List.filter_congr fun key hkey => by rw [h key hkey])
      refine ⟨?_, by rw [hkey]⟩
      rw [ReadField.get, ReadField.get, hkey]
      cases hfound : read.key fields' with
      | none => rfl
      | some key => dsimp only; rw [h key (ReadField.mem_of_key hfound)]
    read_write := by
      intro a
      cases aliasName <;> simp [read, ReadField.get, ReadField.key, codec.read_write]
    used_write := by
      intro a
      cases aliasName <;> simp [read, ReadField.key] }

/-- The fields of two records, whose keys are disjoint. -/
def and (x : RecordCodec α) (y : RecordCodec β)
    (h : ∀ key ∈ x.keys, key ∉ y.keys := by decide) : RecordCodec (α × β) where
  keys := x.keys ++ y.keys
  write v := x.write v.1 ++ y.write v.2
  read fields := do
    let a ← x.read fields
    let b ← y.read fields
    return (a, b)
  used fields := x.used fields ++ y.used fields
  keys_write := by
    rintro ⟨a, b⟩ field hfield
    rcases List.mem_append.mp hfield with hx | hy
    · exact List.mem_append_left _ (x.keys_write a field hx)
    · exact List.mem_append_right _ (y.keys_write b field hy)
  used_subset fields := List.append_subset.mpr
    ⟨List.subset_append_of_subset_left _ (x.used_subset fields),
      List.subset_append_of_subset_right _ (y.used_subset fields)⟩
  congr := by
    intro fields fields' hfields
    obtain ⟨hread, hused⟩ := x.congr fields fields' fun key hkey =>
      hfields key (List.mem_append_left _ hkey)
    obtain ⟨hread', hused'⟩ := y.congr fields fields' fun key hkey =>
      hfields key (List.mem_append_right _ hkey)
    rw [hread, hread', hused, hused']
    exact ⟨rfl, rfl⟩
  read_write := by
    rintro ⟨a, b⟩
    rw [(x.congr _ _ (lookup_left x y h a b)).1, (y.congr _ _ (lookup_right x y h a b)).1,
      x.read_write, y.read_write]
    rfl
  used_write := by
    rintro ⟨a, b⟩
    rw [(x.congr _ _ (lookup_left x y h a b)).2, (y.congr _ _ (lookup_right x y h a b)).2,
      x.used_write, y.used_write, List.map_append]
where
  /-- The first record finds its own fields. -/
  lookup_left (x : RecordCodec α) (y : RecordCodec β) (h : ∀ key ∈ x.keys, key ∉ y.keys) (a : α)
      (b : β) : ∀ key ∈ x.keys, (x.write a ++ y.write b).lookup key = (x.write a).lookup key := by
    intro key hkey
    rw [List.lookup_append, lookup_eq_none_of_keys (y.keys_write b) (h key hkey), Option.or_none]
  /-- So does the second. -/
  lookup_right (x : RecordCodec α) (y : RecordCodec β) (h : ∀ key ∈ x.keys, key ∉ y.keys) (a : α)
      (b : β) : ∀ key ∈ y.keys, (x.write a ++ y.write b).lookup key = (y.write b).lookup key := by
    intro key hkey
    rw [List.lookup_append, lookup_eq_none_of_keys (x.keys_write a) fun hx => h key hx hkey,
      Option.none_or]

/-- The same fields, as a value of another type. -/
def map (x : RecordCodec α) (e : α ≃ β) : RecordCodec β where
  keys := x.keys
  write b := x.write (e.symm b)
  read fields := (x.read fields).map e
  used := x.used
  keys_write b := x.keys_write (e.symm b)
  used_subset := x.used_subset
  congr fields fields' h := by
    obtain ⟨hread, hused⟩ := x.congr fields fields' h
    rw [hread]
    exact ⟨rfl, hused⟩
  read_write b := by rw [x.read_write, Option.map_some, e.apply_symm_apply]
  used_write b := x.used_write (e.symm b)

/-- The fields of an object under keys that no field is found under. -/
def unused (x : RecordCodec α) (fields : Fields) : Fields :=
  fields.filter fun field => field.1 ∉ x.used fields

theorem unused_write (x : RecordCodec α) (a : α) : x.unused (x.write a) = [] := by
  rw [unused, x.used_write]
  exact List.filter_eq_nil_iff.mpr fun field hfield => by
    simpa using ⟨field.2, hfield⟩

/-- A model without other keys (`extra="forbid"`). -/
def closed (x : RecordCodec α) : Codec α where
  write a := .obj (x.write a)
  read
    | .obj fields => if x.unused fields = [] then x.read fields else none
    | _ => none
  read_write a := by
    dsimp only
    rw [if_pos (x.unused_write a), x.read_write]

end RecordCodec

/-- The fields of an object under keys of its own. -/
def Extension : Type := { fields : Fields // ∀ field ∈ fields, isExtensionKey field.1 = true }

/-- The object has no keys of its own. -/
def Extension.empty : Extension := ⟨[], fun _ h => by cases h⟩

namespace RecordCodec

/-- Other keys are unused, whatever is written. -/
theorem unused_append {x : RecordCodec α} (h : ∀ key ∈ x.keys, isExtensionKey key = false) (a : α)
    (extra : Extension) : x.unused (x.write a ++ extra.1) = extra.1 ∧
      x.read (x.write a ++ extra.1) = some a := by
  have hne (key : String) (hkey : key ∈ x.keys) : extra.1.lookup key = none :=
    lookup_eq_none_of_keys (fun field hfield => List.mem_map_of_mem hfield) fun hmem => by
      obtain ⟨field, hfield, rfl⟩ := List.mem_map.mp hmem
      exact absurd (extra.2 field hfield) (by simp [h _ hkey])
  obtain ⟨hread, hused⟩ := x.congr (x.write a ++ extra.1) (x.write a) fun key hkey => by
    rw [List.lookup_append, hne key hkey, Option.or_none]
  refine ⟨?_, by rw [hread, x.read_write]⟩
  rw [unused, hused, List.filter_append]
  have hwrite : ((x.write a).filter fun field => field.1 ∉ x.used (x.write a)) = [] :=
    x.unused_write a
  rw [hwrite, List.nil_append, List.filter_eq_self]
  intro field hfield
  have hnot : field.1 ∉ x.used (x.write a) := fun hmem =>
    absurd (extra.2 field hfield) (by simp [h _ (x.used_subset _ hmem)])
  simpa using hnot

/-- A model that takes other keys, if they begin with `x-`. They are written behind the fields. -/
def extensible (x : RecordCodec α) (h : ∀ key ∈ x.keys, isExtensionKey key = false) :
    Codec (α × Extension) where
  write v := .obj (x.write v.1 ++ v.2.1)
  read
    | .obj fields =>
      if hextra : ∀ field ∈ x.unused fields, isExtensionKey field.1 = true then
        (x.read fields).map fun a => (a, ⟨x.unused fields, hextra⟩)
      else none
    | _ => none
  read_write := by
    rintro ⟨a, extra⟩
    obtain ⟨hunused, hread⟩ := unused_append h a extra
    dsimp only
    rw [dif_pos (by rw [hunused]; exact extra.2), hread, Option.map_some]
    exact congrArg some (Prod.ext rfl (Subtype.ext hunused))

/-- What is read of a record does not depend on the order in which its fields are found. -/
theorem congr_of_perm (x : RecordCodec α) {fields fields' : Fields}
    (hnodup : (fields.map Prod.fst).Nodup) (h : fields.Perm fields') :
    x.read fields = x.read fields' ∧ x.used fields = x.used fields' :=
  x.congr fields fields' fun key _ => lookup_eq_of_perm hnodup h key

/-- What has been written by an extensible model is read from its fields in any order, with the
other keys in the order in which they are found. -/
theorem extensible_read_of_perm {x : RecordCodec α}
    {h : ∀ key ∈ x.keys, isExtensionKey key = false} {a : α} {extra : Extension} {fields : Fields}
    (hnodup : ((x.write a ++ extra.1).map Prod.fst).Nodup)
    (hperm : (x.write a ++ extra.1).Perm fields) : ∃ extra',
      (x.extensible h).read (.obj fields) = some (a, extra') ∧ extra.1.Perm extra'.1 := by
  obtain ⟨hunused, hread⟩ := unused_append h a extra
  obtain ⟨hsame, hused⟩ := x.congr_of_perm hnodup hperm
  have hextra : extra.1.Perm (x.unused fields) := by
    rw [← hunused, unused, unused, hused]
    exact hperm.filter _
  have hkeys : ∀ field ∈ x.unused fields, isExtensionKey field.1 = true := fun field hfield =>
    extra.2 field (hextra.mem_iff.mpr hfield)
  refine ⟨⟨x.unused fields, hkeys⟩, ?_, hextra⟩
  change (if hextra : ∀ field ∈ x.unused fields, isExtensionKey field.1 = true then
    (x.read fields).map fun a => (a, (⟨x.unused fields, hextra⟩ : Extension)) else none) = _
  rw [dif_pos hkeys, ← hsame, hread]
  rfl

end RecordCodec

end ClassroomSuite.Python
