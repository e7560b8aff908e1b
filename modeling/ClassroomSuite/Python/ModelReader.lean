import ClassroomSuite.Library.Assoc
import ClassroomSuite.Python.JsonSchema

/-!
# Reading models from objects

A field of a model is read from an object under its alias or, in a model that is populated by name,
under its name, and a value that has the type of the field is taken as it is. Where an object comes
from a writer that sorts its keys, its fields are found in another order than the one they were
written in, which makes no difference to a reader.

## Main definitions

* `Json.sortKeys`: a value in which all objects have their keys sorted.
* `ReadField`, `ReadField.get`, `onlyKeys`.
* `readStr`, `readBool`, `readNat`, `readOptional`, `readTuple`.

## Main results

* `lookup_sortFields`, `get_sortFields`, `onlyKeys_sortFields`.
* `readTuple_map`: a tuple that has been written is read.
-/

namespace ClassroomSuite.Python

open Library

/-! ### Sorted keys -/

/-- Insert a field before the first with a key that is not smaller. -/
def insertField (key : String) (value : Json) : Fields → Fields
  | [] => [(key, value)]
  | field :: fields =>
    if field.1 < key then field :: insertField key value fields
    else (key, value) :: field :: fields

mutual

/-- A value in which all objects have their keys sorted. -/
def Json.sortKeys : Json → Json
  | .arr items => .arr (sortItems items)
  | .obj fields => .obj (sortFields fields)
  | value => value

/-- The elements of an array, each with sorted keys. -/
def sortItems : List Json → List Json
  | [] => []
  | item :: items => item.sortKeys :: sortItems items

/-- The fields of an object, sorted, each value with sorted keys. -/
def sortFields : Fields → Fields
  | [] => []
  | (key, value) :: fields => insertField key value.sortKeys (sortFields fields)

end

theorem sortItems_eq_map (items : List Json) : sortItems items = items.map Json.sortKeys := by
  induction items with
  | nil => rfl
  | cons item items ih => rw [sortItems, ih, List.map_cons]

theorem lookup_insertField (key : String) (value : Json) (fields : Fields) (key' : String) :
    (insertField key value fields).lookup key' = ((key, value) :: fields).lookup key' := by
  induction fields with
  | nil => rfl
  | cons field fields ih =>
    rw [insertField]
    split_ifs with h
    · have hne : field.1 ≠ key := fun heq => String.lt_irrefl key (heq ▸ h)
      rw [lookup_cons_eq, ih, lookup_cons_eq, lookup_cons_eq, lookup_cons_eq]
      split_ifs with hfield hkey
      · exact absurd (hfield.trans hkey.symm) hne
      all_goals rfl
    · rfl

/-- Sorting the keys changes the value under a key as it changes any value. -/
theorem lookup_sortFields (fields : Fields) (key : String) :
    (sortFields fields).lookup key = (fields.lookup key).map Json.sortKeys := by
  induction fields with
  | nil => rfl
  | cons field fields ih =>
    rw [sortFields, lookup_insertField, lookup_cons_eq, lookup_cons_eq, ih]
    split_ifs <;> rfl

theorem mem_insertField {key : String} {value : Json} {fields : Fields} {field : String × Json} :
    field ∈ insertField key value fields ↔ field = (key, value) ∨ field ∈ fields := by
  induction fields with
  | nil => simp [insertField]
  | cons other fields ih =>
    rw [insertField]
    split_ifs
    · rw [List.mem_cons, ih, List.mem_cons]
      tauto
    · rw [List.mem_cons]

/-- Sorting the keys adds none and drops none. -/
theorem forall_key_sortFields (fields : Fields) (p : String → Prop) :
    (∀ field ∈ sortFields fields, p field.1) ↔ ∀ field ∈ fields, p field.1 := by
  induction fields with
  | nil => rfl
  | cons field fields ih =>
    simp only [sortFields, mem_insertField, forall_eq_or_imp, ih, List.forall_mem_cons]

/-! ### Values -/

variable {α β : Type}

/-- `str`. -/
def readStr : Json → Option String
  | .str s => some s
  | _ => none

/-- `bool`. -/
def readBool : Json → Option Bool
  | .bool b => some b
  | _ => none

/-- `int`, with `ge=0`. -/
def readNat : Json → Option ℕ
  | .int i => if 0 ≤ i then some i.toNat else none
  | _ => none

/-- A value that may be null. -/
def readOptional (read : Json → Option α) : Json → Option (Option α)
  | .null => some none
  | value => (read value).map some

/-- `tuple`, of any length. -/
def readTuple (read : Json → Option α) : Json → Option (List α)
  | .arr items => items.mapM read
  | _ => none

theorem readNat_int (n : ℕ) : readNat (Json.int n).sortKeys = some n := by
  simp [Json.sortKeys, readNat]

/-- A tuple is read if all its elements are. -/
theorem readTuple_map {write : β → Json} {read : Json → Option β} {values : List β}
    (h : ∀ b ∈ values, read (write b).sortKeys = some b) :
    readTuple read (Json.arr (values.map write)).sortKeys = some values := by
  rw [Json.sortKeys, sortItems_eq_map, readTuple]
  induction values with
  | nil => rfl
  | cons b values ih =>
    obtain ⟨hb, hvalues⟩ := List.forall_mem_cons.mp h
    rw [List.map_cons, List.map_cons, List.mapM_cons, hb, ih hvalues]
    rfl

/-! ### Fields -/

/-- A field of a model: its name and alias, how its value is read, and what it is without one,
unless it is required. -/
structure ReadField (α : Type) where
  name : String
  aliasName : Option String := none
  read : Json → Option α
  default : Option α := none

/-- The key under which the field is found. -/
def ReadField.key (field : ReadField α) (fields : Fields) : Option String :=
  (field.aliasName.toList ++ [field.name]).find? fun key => (fields.lookup key).isSome

/-- The value of the field in an object. -/
def ReadField.get (field : ReadField α) (fields : Fields) : Option α :=
  match field.key fields with
  | some key => (fields.lookup key).bind field.read
  | none => field.default

/-- No key is extra, these being the keys of fields. -/
def onlyKeys (keys : List (Option String)) (fields : Fields) : Bool :=
  fields.all fun field => keys.contains (some field.1)

theorem key_sortFields (field : ReadField α) (fields : Fields) :
    field.key (sortFields fields) = field.key fields := by
  simp only [ReadField.key, lookup_sortFields, Option.isSome_map]

/-- A field that is found is read from its value, with sorted keys. -/
theorem get_sortFields {field : ReadField α} {fields : Fields} {key : String} {value : Json}
    {a : α} (hkey : field.key fields = some key) (hvalue : fields.lookup key = some value)
    (hread : field.read value.sortKeys = some a) : field.get (sortFields fields) = some a := by
  rw [ReadField.get, key_sortFields, hkey]
  dsimp only
  rw [lookup_sortFields, hvalue, Option.map_some, Option.bind_some, hread]

theorem onlyKeys_sortFields (keys : List (Option String)) (fields : Fields) :
    onlyKeys keys (sortFields fields) = onlyKeys keys fields := by
  rw [Bool.eq_iff_iff, onlyKeys, onlyKeys, List.all_eq_true, List.all_eq_true]
  exact forall_key_sortFields fields fun key => keys.contains (some key) = true

end ClassroomSuite.Python
