import ClassroomSuite.Python.Json

/-!
# JSON schemas

A schema is given by the values it accepts. The functions of this module build schemas from the
keywords that the schemas of the program use; a keyword that is left out of a schema is given here
by the value that restricts nothing.

## Main definitions

* `Schema`, `booleanType`, `integerType`, `stringType`, `arrayType`, `objectType`.

## Main results

* `objectType_obj_iff`, `closedObject_iff`.
-/

namespace ClassroomSuite.Python

/-- The integer that a float is equal to, if there is one. -/
def PyFloat.integral : PyFloat → Option ℤ
  | .finite q => if q.den = 1 then some q.num else none
  | .negZero => some 0
  | .posInf | .negInf | .nan => none

/-- The fields of an object. -/
abbrev Fields := List (String × Json)

/-- There is a value under the key. -/
def Fields.Has (fields : Fields) (key : String) : Prop := (fields.lookup key).isSome = true

/-- If there is a value under the key, it has the property. -/
def Fields.OptAt (fields : Fields) (key : String) (p : Json → Prop) : Prop :=
  ∀ value, fields.lookup key = some value → p value

/-- There is a value under the key, and it has the property. -/
def Fields.At (fields : Fields) (key : String) (p : Json → Prop) : Prop :=
  ∃ value, fields.lookup key = some value ∧ p value

/-- All keys are among these. -/
def Fields.KeysIn (fields : Fields) (keys : List String) : Prop := ∀ field ∈ fields, field.1 ∈ keys

namespace Fields

variable {fields : Fields} {key : String} {p q : Json → Prop}

theorem has_iff : fields.Has key ↔ ∃ value, fields.lookup key = some value :=
  Option.isSome_iff_exists

theorem has_of_lookup {value : Json} (h : fields.lookup key = some value) : fields.Has key :=
  has_iff.mpr ⟨value, h⟩

theorem At.has (h : fields.At key p) : fields.Has key := by
  obtain ⟨value, hvalue, -⟩ := h
  exact has_of_lookup hvalue

/-- A required value is one that is there and, as an optional one, has the property. -/
theorem has_and_optAt_iff : fields.Has key ∧ fields.OptAt key p ↔ fields.At key p := by
  constructor
  · rintro ⟨hhas, hopt⟩
    obtain ⟨value, hvalue⟩ := has_iff.mp hhas
    exact ⟨value, hvalue, hopt value hvalue⟩
  · rintro ⟨value, hvalue, hp⟩
    refine ⟨has_of_lookup hvalue, fun other hother => ?_⟩
    rwa [← Option.some.inj (hvalue.symm.trans hother)]

theorem has_iff_mem : fields.Has key ↔ ∃ field ∈ fields, field.1 = key := by
  rw [Has, List.lookup_isSome_iff]
  simp only [beq_iff_eq]
  exact exists_congr fun field => and_congr_right fun _ => eq_comm

theorem optAt_of_not_has (h : ¬ fields.Has key) : fields.OptAt key p := fun _ hvalue =>
  absurd (has_of_lookup hvalue) h

/-- All keys are among some of the keys `keys` if they are among these, and none of the others is
there. -/
theorem keysIn_iff_of_subset {keys some : List String} (hsome : some ⊆ keys) :
    fields.KeysIn some ↔ fields.KeysIn keys ∧ ∀ key ∈ keys, key ∉ some → ¬ fields.Has key := by
  constructor
  · intro h
    refine ⟨fun field hfield => hsome (h field hfield), fun key _ hkey hhas => ?_⟩
    obtain ⟨field, hfield, rfl⟩ := has_iff_mem.mp hhas
    exact hkey (h field hfield)
  · rintro ⟨hkeys, hothers⟩ field hfield
    by_contra hkey
    exact hothers field.1 (hkeys field hfield) hkey (has_iff_mem.mpr ⟨field, hfield, rfl⟩)

end Fields

/-! ### Schemas -/

/-- A schema. -/
abbrev Schema := Json → Bool

/-- `type: boolean`. -/
def booleanType : Schema
  | .bool _ => true
  | _ => false

/-- `type: integer`, with a `minimum`. A float without a fractional part is an integer. -/
def integerType (minimum : ℤ) : Schema
  | .int i => decide (minimum ≤ i)
  | .float x => x.integral.any fun i => decide (minimum ≤ i)
  | _ => false

/-- `type: string`, with what a `pattern`, an `enum` or a `const` allows. -/
def stringType (allowed : String → Bool := fun _ => true) : Schema
  | .str s => allowed s
  | _ => false

/-- `type: array`, with `minItems` and `items`. -/
def arrayType (minItems : ℕ) (items : Schema) : Schema
  | .arr values => decide (minItems ≤ values.length) && values.all items
  | _ => false

/-- `type: object`, with `properties`, `required`, `additionalProperties` and `minProperties`. -/
def objectType (properties : List (String × Schema)) (required : List String)
    (additional : Schema) (minProperties : ℕ := 0) : Schema
  | .obj fields =>
    required.all (fun key => (fields.lookup key).isSome) &&
      properties.all (fun property => (fields.lookup property.1).all property.2) &&
      fields.all (fun field => (properties.map Prod.fst).contains field.1 || additional field.2) &&
      decide (minProperties ≤ fields.length)
  | _ => false

/-- `additionalProperties: false`. -/
def noAdditional : Schema := fun _ => false

theorem objectType_obj_iff {properties : List (String × Schema)} {required : List String}
    {additional : Schema} {minProperties : ℕ} {fields : Fields} :
    objectType properties required additional minProperties (.obj fields) = true ↔
      (∀ key ∈ required, fields.Has key) ∧
      (∀ property ∈ properties, fields.OptAt property.1 fun value => property.2 value = true) ∧
      (∀ field ∈ fields, field.1 ∈ properties.map Prod.fst ∨ additional field.2 = true) ∧
      minProperties ≤ fields.length := by
  simp [objectType, Fields.Has, Fields.OptAt, Option.all_eq_true, and_assoc]

/-- A schema without additional properties accepts objects with no other keys. -/
theorem closedObject_iff {properties : List (String × Schema)} {required : List String}
    {fields : Fields} :
    objectType properties required noAdditional 0 (.obj fields) = true ↔
      fields.KeysIn (properties.map Prod.fst) ∧ (∀ key ∈ required, fields.Has key) ∧
      ∀ property ∈ properties, fields.OptAt property.1 fun value => property.2 value = true := by
  rw [objectType_obj_iff]
  simp only [noAdditional, Bool.false_eq_true, or_false, Nat.zero_le, and_true]
  exact ⟨fun ⟨h, h', h''⟩ => ⟨h'', h, h'⟩, fun ⟨h'', h, h'⟩ => ⟨h, h', h''⟩⟩

end ClassroomSuite.Python
