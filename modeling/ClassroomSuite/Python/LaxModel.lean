import Mathlib.Data.List.Nodup
import Mathlib.Data.List.Pairwise
import ClassroomSuite.Python.JsonSchema

/-!
# Models in lax mode

A model, like a schema, is given by the values it accepts. In lax mode some values are converted
before they are checked: to an integer from a truth value, a text or a float, and to a truth value
from a number or a text. What texts and floats are converted is left to a `LaxRuntime`.

A field of a model is found under its alias or, in a model that is also populated by name, under its
name; the alias is looked up first. All keys under which nothing is found are extra, and an extra
key is forbidden.

## Main definitions

* `LaxRuntime`, `LaxType`, `laxInt`, `laxBool`.
* `ModelField`, `modelType`.

## Main results

* `modelType_obj_iff`: what a model accepts, without the order of the lookups.
-/

namespace ClassroomSuite.Python

/-- The conversions of texts to integers and to truth values, and of floats to integers: a float is
converted to the integer it is equal to, if at all. -/
structure LaxRuntime where
  textToInt : String → Option ℤ
  textToBool : String → Option Bool
  floatToInt : PyFloat → Option ℤ
  integral_of_floatToInt : ∀ {x : PyFloat} {i : ℤ}, floatToInt x = some i → x.integral = some i

/-- What a field accepts. -/
abbrev LaxType := Json → Bool

section Types

variable (rt : LaxRuntime)

/-- The integer that a value is converted to. -/
def laxInt : Json → Option ℤ
  | .int i => some i
  | .bool b => some (if b then 1 else 0)
  | .float x => rt.floatToInt x
  | .str s => rt.textToInt s
  | _ => none

/-- The truth value that a value is converted to. -/
def laxBool : Json → Option Bool
  | .bool b => some b
  | .int i => if i = 0 then some false else if i = 1 then some true else none
  | .float x =>
    match rt.floatToInt x with
    | some 0 => some false
    | some 1 => some true
    | _ => none
  | .str s => rt.textToBool s
  | _ => none

/-- `bool`. -/
def boolField : LaxType := fun value => (laxBool rt value).isSome

/-- `int`, with `ge`. -/
def intField (ge : ℤ) : LaxType := fun value => (laxInt rt value).any fun i => decide (ge ≤ i)

end Types

/-- `str`. -/
def strField : LaxType
  | .str _ => true
  | _ => false

/-- `Literal`, of texts. -/
def literalField (texts : List String) : LaxType
  | .str s => texts.contains s
  | _ => false

/-- `list`, with `min_length`. -/
def listField (minLength : ℕ) (item : LaxType) : LaxType
  | .arr values => decide (minLength ≤ values.length) && values.all item
  | _ => false

/-- `dict` with texts for keys, with `min_length`. -/
def dictField (minLength : ℕ) (item : LaxType) : LaxType
  | .obj fields => decide (minLength ≤ fields.length) && fields.all fun field => item field.2
  | _ => false

/-- A field of a model. -/
structure ModelField where
  name : String
  aliasName : Option String := none
  required : Bool
  accepts : LaxType

/-- The keys of a field, in the order of the lookups. -/
def ModelField.spellings (field : ModelField) : List String :=
  field.aliasName.toList ++ [field.name]

/-- The key under which a field is found. -/
def ModelField.key (field : ModelField) (fields : Fields) : Option String :=
  field.spellings.find? fun key => (fields.lookup key).isSome

/-- A model that forbids extra keys and is populated by name. -/
def modelType (model : List ModelField) : LaxType
  | .obj fields =>
    model.all (fun field => match field.key fields with
      | some key => (fields.lookup key).all field.accepts
      | none => !field.required) &&
    fields.all fun entry => model.any fun field => field.key fields = some entry.1
  | _ => false

/-! ### What a model accepts -/

/-- The field has at most one of its spellings, its value is accepted, and it is there if it has
to be. -/
structure ModelField.Fits (field : ModelField) (fields : Fields) : Prop where
  single : ∀ key ∈ field.spellings, ∀ key' ∈ field.spellings, fields.Has key → fields.Has key' →
    key = key'
  accepted : ∀ key ∈ field.spellings, fields.OptAt key fun value => field.accepts value = true
  present : field.required = true → ∃ key ∈ field.spellings, fields.Has key

theorem ModelField.mem_spellings_of_key {field : ModelField} {fields : Fields} {key : String}
    (h : field.key fields = some key) : key ∈ field.spellings ∧ fields.Has key :=
  ⟨List.mem_of_find?_eq_some h,
    List.find?_some (p := fun key => (fields.lookup key).isSome) h⟩

theorem ModelField.key_eq_none_iff {field : ModelField} {fields : Fields} :
    field.key fields = none ↔ ∀ key ∈ field.spellings, ¬ fields.Has key :=
  List.find?_eq_none

/-- Where no two fields share a spelling, a key is a spelling of one field only. -/
theorem eq_of_mem_spellings {model : List ModelField}
    (hnodup : (model.flatMap ModelField.spellings).Nodup) {f g : ModelField} (hf : f ∈ model)
    (hg : g ∈ model) {key : String} (hkey : key ∈ f.spellings) (hkey' : key ∈ g.spellings) :
    f = g := by
  by_contra hne
  have hsymm : Std.Symm (Function.onFun List.Disjoint ModelField.spellings) :=
    ⟨fun f g h key hg hf => h hf hg⟩
  exact (List.nodup_flatMap.mp hnodup).2.forall hf hg hne hkey hkey'

/-- Where every key is that of a field, a spelling that is there is the key of its field. -/
theorem key_eq_some_of_has {model : List ModelField}
    (hnodup : (model.flatMap ModelField.spellings).Nodup) {fields : Fields}
    (hextra : ∀ entry ∈ fields, ∃ field ∈ model, field.key fields = some entry.1)
    {field : ModelField} (hfield : field ∈ model) {key : String} (hkey : key ∈ field.spellings)
    (hhas : fields.Has key) : field.key fields = some key := by
  obtain ⟨entry, hentry, rfl⟩ := Fields.has_iff_mem.mp hhas
  obtain ⟨other, hother, hkey'⟩ := hextra entry hentry
  obtain rfl := eq_of_mem_spellings hnodup hfield hother hkey
    (other.mem_spellings_of_key hkey').1
  exact hkey'

theorem ModelField.Fits.key_eq_some {field : ModelField} {fields : Fields}
    (h : field.Fits fields) {key : String} (hkey : key ∈ field.spellings)
    (hhas : fields.Has key) : field.key fields = some key := by
  cases hfound : field.key fields with
  | none => exact absurd hhas (field.key_eq_none_iff.mp hfound _ hkey)
  | some key' =>
    obtain ⟨hkey', hhas'⟩ := field.mem_spellings_of_key hfound
    rw [h.single key' hkey' key hkey hhas' hhas]

/-- A model accepts the objects all of whose keys are spellings of fields, and which fit all
fields. -/
theorem modelType_obj_iff {model : List ModelField}
    (hnodup : (model.flatMap ModelField.spellings).Nodup) {fields : Fields} :
    modelType model (.obj fields) = true ↔
      fields.KeysIn (model.flatMap ModelField.spellings) ∧
        ∀ field ∈ model, field.Fits fields := by
  rw [modelType, Bool.and_eq_true, List.all_eq_true, List.all_eq_true]
  simp only [List.any_eq_true, decide_eq_true_eq, Fields.KeysIn, List.mem_flatMap]
  constructor
  · rintro ⟨hfields, hextra⟩
    have hfound : ∀ field ∈ model, ∀ key ∈ field.spellings, fields.Has key →
        field.key fields = some key :=
      fun field hfield key => key_eq_some_of_has hnodup hextra hfield
    refine ⟨fun entry hentry => ?_, fun field hfield => ⟨?_, ?_, ?_⟩⟩
    · obtain ⟨field, hfield, hkey⟩ := hextra entry hentry
      exact ⟨field, hfield, (field.mem_spellings_of_key hkey).1⟩
    · intro key hkey key' hkey' hhas hhas'
      have hsome := hfound field hfield key hkey hhas
      exact Option.some.inj (hsome.symm.trans (hfound field hfield key' hkey' hhas'))
    · intro key hkey value hvalue
      have haccepts := hfields field hfield
      rw [hfound field hfield key hkey (Fields.has_of_lookup hvalue)] at haccepts
      simpa [hvalue] using haccepts
    · intro hrequired
      have haccepts := hfields field hfield
      cases hkey : field.key fields with
      | none => simp [hkey, hrequired] at haccepts
      | some key => exact ⟨key, field.mem_spellings_of_key hkey⟩
  · rintro ⟨hextra, hfits⟩
    refine ⟨fun field hfield => ?_, fun entry hentry => ?_⟩
    · cases hkey : field.key fields with
      | none =>
        rw [Bool.not_eq_true', ← Bool.not_eq_true]
        intro hrequired
        obtain ⟨key, hmem, hhas⟩ := (hfits field hfield).present hrequired
        exact field.key_eq_none_iff.mp hkey key hmem hhas
      | some key =>
        rw [Option.all_eq_true]
        exact (hfits field hfield).accepted key (field.mem_spellings_of_key hkey).1
    · obtain ⟨field, hfield, hmem⟩ := hextra entry hentry
      have hhas : fields.Has entry.1 := Fields.has_iff_mem.mpr ⟨entry, hentry, rfl⟩
      exact ⟨field, hfield, (hfits field hfield).key_eq_some hmem hhas⟩

section Fits

variable {name aliasName : String} {accepts : LaxType} {fields : Fields}

/-- A required field without an alias fits if there is a value that is accepted. -/
theorem fits_required_iff :
    ModelField.Fits ⟨name, none, true, accepts⟩ fields ↔
      fields.At name fun value => accepts value = true := by
  rw [← Fields.has_and_optAt_iff]
  constructor
  · intro h
    obtain ⟨key, hkey, hhas⟩ := h.present rfl
    obtain rfl : key = name := by simpa [ModelField.spellings] using hkey
    exact ⟨hhas, h.accepted key hkey⟩
  · rintro ⟨hhas, haccepts⟩
    exact {
      single := by simp [ModelField.spellings]
      accepted := by simpa [ModelField.spellings] using haccepts
      present := fun _ => ⟨name, by simp [ModelField.spellings], hhas⟩ }

/-- An optional field without an alias fits if its value is accepted. -/
theorem fits_optional_iff :
    ModelField.Fits ⟨name, none, false, accepts⟩ fields ↔
      fields.OptAt name fun value => accepts value = true := by
  constructor
  · exact fun h => h.accepted name (by simp [ModelField.spellings])
  · intro haccepts
    exact {
      single := by simp [ModelField.spellings]
      accepted := by simpa [ModelField.spellings] using haccepts
      present := fun hrequired => absurd hrequired Bool.false_ne_true }

/-- A field with an alias fits if it is given once at most, its value is accepted, and it is there
if it has to be. -/
theorem fits_alias_iff {required : Bool} (hne : aliasName ≠ name) :
    ModelField.Fits ⟨name, some aliasName, required, accepts⟩ fields ↔
      ¬ (fields.Has aliasName ∧ fields.Has name) ∧
        fields.OptAt aliasName (fun value => accepts value = true) ∧
        fields.OptAt name (fun value => accepts value = true) ∧
        (required = true → fields.Has aliasName ∨ fields.Has name) := by
  have hspellings : ModelField.spellings ⟨name, some aliasName, required, accepts⟩ =
      [aliasName, name] := rfl
  constructor
  · rintro ⟨hsingle, haccepted, hpresent⟩
    simp only [hspellings, List.forall_mem_cons, List.not_mem_nil, false_imp_iff, implies_true,
      and_true] at hsingle haccepted
    refine ⟨fun h => hne (hsingle.1.2 h.1 h.2), haccepted.1, haccepted.2, fun hrequired => ?_⟩
    simpa [hspellings] using hpresent hrequired
  · rintro ⟨honce, haccepts, haccepts', hpresent⟩
    refine ⟨?_, ?_, ?_⟩
    · simp only [hspellings, List.forall_mem_cons, List.not_mem_nil, false_imp_iff, implies_true,
        and_true, true_and]
      exact ⟨fun h h' => absurd ⟨h, h'⟩ honce, fun h h' => absurd ⟨h', h⟩ honce⟩
    · simpa [hspellings] using ⟨haccepts, haccepts'⟩
    · simpa [hspellings] using hpresent

end Fits

end ClassroomSuite.Python
