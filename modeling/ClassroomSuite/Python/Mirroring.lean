import ClassroomSuite.Python.FormatTerms

/-!
# Models that mirror schemas

`mirrors` goes through a schema and a model at once and checks that the model has a field for every
property of the schema, with the constraints of the property. Where it succeeds, the two accept the
same values but for those that `StrictAbout` and `LenientAbout` list.

## Main definitions

* `mirrors`.
* `StrictAbout`: what the schema accepts and the model does not.
* `LenientAbout`: what the model accepts and the schema does not.
* `Agree`: the two accept the same values but for these.

## Main results

* `openModelType_obj_iff`: what an extensible model accepts.
* `Mirrored.agree_object`: objects agree if their properties do.
* `agree_of_mirrors`.
-/

namespace ClassroomSuite.Python

/-! ### The check -/

/-- The key of a field in a document: its alias, if it has one. -/
def FieldHead.key (head : FieldHead) : String := head.aliasName.getD head.name

/-- The keys under which a field is found. -/
def FieldHead.spellings (head : FieldHead) : List String := head.aliasName.toList ++ [head.name]

/-- Whether the fields can be told apart, from each other and from extensions. -/
def wellNamed (heads : List FieldHead) : Bool :=
  decide (heads.flatMap FieldHead.spellings).Nodup &&
    (heads.flatMap FieldHead.spellings).all fun key => !isExtensionKey key

/-- Whether the fields of a model are the properties of an object, and none is required that the
object does not require. -/
def sameFields (required : List String) (properties : List (String × SchemaTerm))
    (heads : List FieldHead) : Bool :=
  heads.all fun head => (properties.map Prod.fst).contains head.key &&
    (!head.required || required.contains head.key)

/-- Whether a schema accepts null. -/
def SchemaTerm.acceptsNull : SchemaTerm → Bool
  | .any => true
  | _ => false

mutual

/-- Whether a model mirrors a schema. -/
def mirrors : SchemaTerm → ModelTerm → Bool
  | .any, .any => true
  | .boolean, .bool => true
  | .constFalse, .literalFalse => true
  | .integer minimum, .int ge => decide (minimum = ge)
  | .text pattern _, .str pattern' => decide (pattern' = none) || decide (pattern = pattern')
  | .enum texts, .literal texts' => decide (texts = texts')
  | .array minItems items, .list minLength item =>
    decide (minItems = minLength) && mirrors items item
  | .map minProperties values, .dict minLength item =>
    decide (minProperties = minLength) && mirrors values item
  | .object required isOpen properties, .model isExtensible fields =>
    decide (isOpen = isExtensible) && wellNamed (fields.map Prod.fst) &&
      sameFields required properties (fields.map Prod.fst) && mirrorsAll properties fields
  | _, _ => false

/-- Whether every property of an object has a field that mirrors it. -/
def mirrorsAll : List (String × SchemaTerm) → List (FieldHead × ModelTerm) → Bool
  | [], _ => true
  | (key, schema) :: properties, fields =>
    (fields.map fun field => field.1.key).contains key &&
      fields.all (fun field => decide (field.1.key ≠ key) ||
        (!(field.1.nullable && schema.acceptsNull) && mirrors schema field.2)) &&
      mirrorsAll properties fields

end

/-- A float that is equal to an integer but is not converted to it. -/
def Unconverted (rt : LaxRuntime) (value : Json) : Prop :=
  ∃ x i, value = .float x ∧ x.integral = some i ∧ rt.floatToInt x = none

/-- Somewhere in a value there is what a model is stricter about than the schema that it mirrors. -/
inductive StrictAbout (rt : FormatRuntime) : SchemaTerm → ModelTerm → Json → Prop
  /-- A float in the place of an integer that is not converted. -/
  | integer {minimum ge : ℤ} {value : Json} (h : Unconverted rt.toLaxRuntime value) :
      StrictAbout rt (.integer minimum) (.int ge) value
  /-- A text in which the engine of the models does not find the pattern. -/
  | pattern {pattern format : Option String} {p s : String} (h : rt.modelSearch p s = false) :
      StrictAbout rt (.text pattern format) (.str (some p)) (.str s)
  /-- An element of an array. -/
  | item {minItems minLength : ℕ} {items : SchemaTerm} {item : ModelTerm} {values : List Json}
      {value : Json} (hvalue : value ∈ values) (h : StrictAbout rt items item value) :
      StrictAbout rt (.array minItems items) (.list minLength item) (.arr values)
  /-- A value of a map. -/
  | entry {minProperties minLength : ℕ} {values : SchemaTerm} {item : ModelTerm} {fields : Fields}
      {field : String × Json} (hfield : field ∈ fields) (h : StrictAbout rt values item field.2) :
      StrictAbout rt (.map minProperties values) (.dict minLength item) (.obj fields)
  /-- A property of an object. -/
  | property {required : List String} {isOpen isExtensible : Bool}
      {properties : List (String × SchemaTerm)} {heads : List (FieldHead × ModelTerm)}
      {fields : Fields} {property : String × SchemaTerm} {field : FieldHead × ModelTerm}
      {value : Json} (hproperty : property ∈ properties) (hfield : field ∈ heads)
      (hkey : field.1.key = property.1) (hvalue : fields.lookup property.1 = some value)
      (h : StrictAbout rt property.2 field.2 value) :
      StrictAbout rt (.object required isOpen properties) (.model isExtensible heads) (.obj fields)

/-- Somewhere in a value there is what a model is more lenient about than the schema that it
mirrors. -/
inductive LenientAbout (rt : FormatRuntime) : SchemaTerm → ModelTerm → Json → Prop
  /-- What is converted to a truth value. -/
  | flag {value : Json} (h : ∀ b, value ≠ .bool b) : LenientAbout rt .boolean .bool value
  /-- A truth value that is converted to an integer. -/
  | flagNumber {minimum ge : ℤ} (b : Bool) : LenientAbout rt (.integer minimum) (.int ge) (.bool b)
  /-- A text that is converted to an integer. -/
  | textNumber {minimum ge : ℤ} (s : String) : LenientAbout rt (.integer minimum) (.int ge) (.str s)
  /-- A text in which the engine of the schemas does not find the pattern. -/
  | pattern {format pattern' : Option String} {p s : String} (h : rt.schemaSearch p s = false) :
      LenientAbout rt (.text (some p) format) (.str pattern') (.str s)
  /-- A text without the format. -/
  | format {pattern pattern' : Option String} {f s : String} (h : rt.hasFormat f s = false) :
      LenientAbout rt (.text pattern (some f)) (.str pattern') (.str s)
  /-- An element of an array. -/
  | item {minItems minLength : ℕ} {items : SchemaTerm} {item : ModelTerm} {values : List Json}
      {value : Json} (hvalue : value ∈ values) (h : LenientAbout rt items item value) :
      LenientAbout rt (.array minItems items) (.list minLength item) (.arr values)
  /-- A value of a map. -/
  | entry {minProperties minLength : ℕ} {values : SchemaTerm} {item : ModelTerm} {fields : Fields}
      {field : String × Json} (hfield : field ∈ fields) (h : LenientAbout rt values item field.2) :
      LenientAbout rt (.map minProperties values) (.dict minLength item) (.obj fields)
  /-- A field with an alias, under its name. -/
  | name {required : List String} {isOpen isExtensible : Bool}
      {properties : List (String × SchemaTerm)} {heads : List (FieldHead × ModelTerm)}
      {fields : Fields} {field : FieldHead × ModelTerm} (hfield : field ∈ heads)
      (hne : field.1.key ≠ field.1.name) (h : fields.Has field.1.name) :
      LenientAbout rt (.object required isOpen properties) (.model isExtensible heads) (.obj fields)
  /-- A property is missing that has a default. -/
  | missing {required : List String} {isOpen isExtensible : Bool}
      {properties : List (String × SchemaTerm)} {heads : List (FieldHead × ModelTerm)}
      {fields : Fields} {key : String} (hkey : key ∈ required) (h : ¬ fields.Has key) :
      LenientAbout rt (.object required isOpen properties) (.model isExtensible heads) (.obj fields)
  /-- A null in the place of a property that may be left out. -/
  | null {required : List String} {isOpen isExtensible : Bool}
      {properties : List (String × SchemaTerm)} {heads : List (FieldHead × ModelTerm)}
      {fields : Fields} {field : FieldHead × ModelTerm} (hfield : field ∈ heads)
      (hnullable : field.1.nullable = true) (h : fields.lookup field.1.key = some .null) :
      LenientAbout rt (.object required isOpen properties) (.model isExtensible heads) (.obj fields)
  /-- A property of an object. -/
  | property {required : List String} {isOpen isExtensible : Bool}
      {properties : List (String × SchemaTerm)} {heads : List (FieldHead × ModelTerm)}
      {fields : Fields} {property : String × SchemaTerm} {field : FieldHead × ModelTerm}
      {value : Json} (hproperty : property ∈ properties) (hfield : field ∈ heads)
      (hkey : field.1.key = property.1) (hvalue : fields.lookup property.1 = some value)
      (h : LenientAbout rt property.2 field.2 value) :
      LenientAbout rt (.object required isOpen properties) (.model isExtensible heads) (.obj fields)

/-- A value that the schema accepts is accepted by the model unless the model is stricter about it,
and one that the model accepts is accepted by the schema unless the model is more lenient. -/
structure AgreeOn (rt : FormatRuntime) (schema : SchemaTerm) (type : ModelTerm)
    (value : Json) : Prop where
  model_iff : schema.accepts rt value = true →
    (type.accepts rt value = true ↔ ¬ StrictAbout rt schema type value)
  schema_iff : type.accepts rt value = true →
    (schema.accepts rt value = true ↔ ¬ LenientAbout rt schema type value)

/-- A schema and a model accept the same values but for those that the model is stricter or more
lenient about. -/
def Agree (rt : FormatRuntime) (schema : SchemaTerm) (type : ModelTerm) : Prop :=
  ∀ value : Json, AgreeOn rt schema type value

/-! ### What an extensible model accepts -/

/-- A spelling that is there is the key of its field, if every key is extra or that of a field. -/
theorem key_eq_some_of_spelled {extra : String → Bool} {model : List ModelField}
    (hnodup : (model.flatMap ModelField.spellings).Nodup)
    (hextra : ∀ key ∈ model.flatMap ModelField.spellings, extra key = false) {fields : Fields}
    (hkeys : ∀ entry ∈ fields, extra entry.1 = true ∨
      ∃ field ∈ model, field.key fields = some entry.1)
    {field : ModelField} (hfield : field ∈ model) {key : String} (hkey : key ∈ field.spellings)
    (hhas : fields.Has key) : field.key fields = some key := by
  obtain ⟨entry, hentry, rfl⟩ := Fields.has_iff_mem.mp hhas
  rcases hkeys entry hentry with hx | ⟨other, hother, hkey'⟩
  · rw [hextra entry.1 (List.mem_flatMap.mpr ⟨field, hfield, hkey⟩)] at hx
    cases hx
  · obtain rfl := eq_of_mem_spellings hnodup hfield hother hkey
      (other.mem_spellings_of_key hkey').1
    exact hkey'

/-- A model accepts the objects all of whose keys are extra or spellings of fields, and which fit
all fields. -/
theorem openModelType_obj_iff {extra : String → Bool} {model : List ModelField}
    (hnodup : (model.flatMap ModelField.spellings).Nodup)
    (hextra : ∀ key ∈ model.flatMap ModelField.spellings, extra key = false) {fields : Fields} :
    openModelType extra model (.obj fields) = true ↔
      (∀ entry ∈ fields, extra entry.1 = true ∨ entry.1 ∈ model.flatMap ModelField.spellings) ∧
        ∀ field ∈ model, field.Fits fields := by
  rw [openModelType, Bool.and_eq_true, List.all_eq_true, List.all_eq_true]
  simp only [Bool.or_eq_true, List.any_eq_true, decide_eq_true_eq, List.mem_flatMap]
  constructor
  · rintro ⟨hfields, hkeys⟩
    have hfound : ∀ field ∈ model, ∀ key ∈ field.spellings, fields.Has key →
        field.key fields = some key :=
      fun field hfield key => key_eq_some_of_spelled hnodup hextra hkeys hfield
    refine ⟨fun entry hentry => ?_, fun field hfield => ⟨?_, ?_, ?_⟩⟩
    · refine (hkeys entry hentry).imp_right fun ⟨field, hfield, hkey⟩ => ?_
      exact ⟨field, hfield, (field.mem_spellings_of_key hkey).1⟩
    · intro key hkey key' hkey' hhas hhas'
      have hsome := hfound field hfield key hkey hhas
      exact Option.some.inj (hsome.symm.trans (hfound field hfield key' hkey' hhas'))
    · intro key hkey value hvalue
      have haccepts := hfields field hfield
      rw [hfound field hfield key hkey (Fields.has_of_lookup hvalue)] at haccepts
      simpa [hvalue] using haccepts
    · intro hrequired
      have haccepts := hfields field hfield
      cases hkey : field.key fields with
      | none => simp [hkey, hrequired] at haccepts
      | some key => exact ⟨key, field.mem_spellings_of_key hkey⟩
  · rintro ⟨hkeys, hfits⟩
    refine ⟨fun field hfield => ?_, fun entry hentry => ?_⟩
    · cases hkey : field.key fields with
      | none =>
        rw [Bool.not_eq_true', ← Bool.not_eq_true]
        intro hrequired
        obtain ⟨key, hmem, hhas⟩ := (hfits field hfield).present hrequired
        exact field.key_eq_none_iff.mp hkey key hmem hhas
      | some key =>
        rw [Option.all_eq_true]
        exact (hfits field hfield).accepted key (field.mem_spellings_of_key hkey).1
    · refine (hkeys entry hentry).imp_right fun ⟨field, hfield, hmem⟩ => ?_
      have hhas : fields.Has entry.1 := Fields.has_iff_mem.mpr ⟨entry, hentry, rfl⟩
      exact ⟨field, hfield, (hfits field hfield).key_eq_some hmem hhas⟩

/-! ### Properties and fields -/

variable {rt : FormatRuntime}

theorem acceptsAll_eq_map (properties : List (String × SchemaTerm)) :
    acceptsAll rt properties =
      properties.map fun property => (property.1, property.2.accepts rt) := by
  induction properties with
  | nil => rfl
  | cons property properties ih => rw [acceptsAll, ih, List.map_cons]

/-- A field of a model, with the values that its type accepts. -/
def modelField (rt : FormatRuntime) (field : FieldHead × ModelTerm) : ModelField :=
  ⟨field.1.name, field.1.aliasName, field.1.required,
    nullableField field.1.nullable (field.2.accepts rt)⟩

@[simp] theorem spellings_modelField (field : FieldHead × ModelTerm) :
    (modelField rt field).spellings = field.1.spellings := rfl

theorem modelFields_eq_map (fields : List (FieldHead × ModelTerm)) :
    modelFields rt fields = fields.map (modelField rt) := by
  induction fields with
  | nil => rfl
  | cons field fields ih =>
    rw [modelFields, ih]
    rfl

theorem FieldHead.key_mem_spellings (head : FieldHead) : head.key ∈ head.spellings := by
  cases h : head.aliasName <;> simp [FieldHead.key, FieldHead.spellings, h]

/-- The spellings of a field are its key and its name. -/
theorem FieldHead.mem_spellings_iff {head : FieldHead} {key : String} :
    key ∈ head.spellings ↔ key = head.key ∨ key = head.name := by
  cases h : head.aliasName <;> simp [FieldHead.key, FieldHead.spellings, h]

theorem nullableField_iff {nullable : Bool} {accepts : LaxType} {value : Json} :
    nullableField nullable accepts value = true ↔
      nullable = true ∧ value = .null ∨ accepts value = true := by
  cases value <;> simp [nullableField]

/-- A field that is not given under its name fits if the value under its key is accepted, and is
there if it has to be. -/
theorem fits_modelField_iff {field : FieldHead × ModelTerm} {fields : Fields}
    (hname : field.1.key ≠ field.1.name → ¬ fields.Has field.1.name) :
    (modelField rt field).Fits fields ↔
      fields.OptAt field.1.key (fun value =>
        nullableField field.1.nullable (field.2.accepts rt) value = true) ∧
      (field.1.required = true → fields.Has field.1.key) := by
  have hkey : ∀ key ∈ field.1.spellings, fields.Has key → key = field.1.key := by
    intro key hkey hhas
    rcases FieldHead.mem_spellings_iff.mp hkey with rfl | rfl
    · rfl
    · by_contra hne
      exact hname (fun heq => hne heq.symm) hhas
  constructor
  · intro h
    refine ⟨h.accepted _ field.1.key_mem_spellings, fun hrequired => ?_⟩
    obtain ⟨key, hmem, hhas⟩ := h.present hrequired
    exact hkey key hmem hhas ▸ hhas
  · rintro ⟨haccepted, hpresent⟩
    refine ⟨fun key hmem key' hmem' hhas hhas' => ?_, fun key hmem value hvalue => ?_,
      fun hrequired => ⟨_, field.1.key_mem_spellings, hpresent hrequired⟩⟩
    · rw [hkey key hmem hhas, hkey key' hmem' hhas']
    · obtain rfl := hkey key hmem (Fields.has_of_lookup hvalue)
      exact haccepted value hvalue

theorem declaredObject_obj_iff {properties : List (String × SchemaTerm)} {required : List String}
    {extra : String → Bool} {fields : Fields} :
    declaredObject (acceptsAll rt properties) required extra (.obj fields) = true ↔
      (∀ key ∈ required, fields.Has key) ∧
      (∀ property ∈ properties,
        fields.OptAt property.1 fun value => property.2.accepts rt value = true) ∧
      ∀ field ∈ fields, field.1 ∈ properties.map Prod.fst ∨ extra field.1 = true := by
  simp [declaredObject, acceptsAll_eq_map, Fields.Has, Fields.OptAt, Option.all_eq_true, and_assoc]

/-- Only a schema for any value accepts null. -/
theorem acceptsNull_of_accepts {schema : SchemaTerm} (h : schema.accepts rt .null = true) :
    schema.acceptsNull = true := by
  cases schema with
  | any => rfl
  | _ => simp [SchemaTerm.accepts, booleanType, constFalseType, integerType, stringType, arrayType,
      objectType, declaredObject] at h

/-! ### Agreement -/

/-- Two descriptions agree on a value that both reject. -/
theorem agreeOn_of_rejects {schema : SchemaTerm} {type : ModelTerm} {value : Json}
    (hschema : schema.accepts rt value = false) (hmodel : type.accepts rt value = false) :
    AgreeOn rt schema type value :=
  ⟨fun h => absurd h (by rw [hschema]; exact Bool.false_ne_true),
    fun h => absurd h (by rw [hmodel]; exact Bool.false_ne_true)⟩

/-- Two descriptions agree that accept the same values, none of which one of them is stricter
about. -/
theorem agree_of_eq {schema : SchemaTerm} {type : ModelTerm}
    (heq : ∀ value, schema.accepts rt value = type.accepts rt value)
    (hover : ∀ value, ¬ StrictAbout rt schema type value)
    (hlenient : ∀ value, ¬ LenientAbout rt schema type value) : Agree rt schema type := fun value =>
  ⟨fun h => iff_of_true (heq value ▸ h) (hover value),
    fun h => iff_of_true (heq value ▸ h) (hlenient value)⟩

theorem agree_boolean : Agree rt .boolean .bool := by
  intro value
  have hover : ¬ StrictAbout rt .boolean .bool value := by
    rintro ⟨⟩
  by_cases hvalue : ∃ b, value = .bool b
  · obtain ⟨b, rfl⟩ := hvalue
    refine ⟨fun _ => iff_of_true rfl hover, fun _ => iff_of_true rfl ?_⟩
    rintro (⟨h⟩ | _)
    exact h b rfl
  · have hlenient : LenientAbout rt .boolean .bool value := .flag fun b hb => hvalue ⟨b, hb⟩
    have hschema : SchemaTerm.accepts rt .boolean value ≠ true := by
      intro h
      cases value with
      | bool b => exact hvalue ⟨b, rfl⟩
      | _ => cases h
    exact ⟨fun h => absurd h hschema, fun _ => iff_of_false hschema (not_not_intro hlenient)⟩

/-- A number that a schema accepts is accepted by a model unless it is a float that is not
converted; and the other way round, unless it is a truth value or a text. -/
theorem agree_integer (minimum : ℤ) : Agree rt (.integer minimum) (.int minimum) := by
  intro value
  cases value with
  | int i =>
    have hover : ¬ StrictAbout rt (.integer minimum) (.int minimum) (.int i) := by
      rintro (⟨_, _, h, -⟩ | _)
      cases h
    have hlenient : ¬ LenientAbout rt (.integer minimum) (.int minimum) (.int i) := by
      rintro ⟨⟩
    exact ⟨fun h => iff_of_true h hover, fun h => iff_of_true h hlenient⟩
  | float x =>
    have hlenient : ¬ LenientAbout rt (.integer minimum) (.int minimum) (.float x) := by
      rintro ⟨⟩
    constructor
    · intro h
      obtain ⟨i, hi, hle⟩ : ∃ i, x.integral = some i ∧ minimum ≤ i := by
        simpa [SchemaTerm.accepts, integerType, Option.any_eq_true] using h
      constructor
      · rintro hmodel (⟨y, j, hy, -, hnone⟩ | _)
        obtain rfl : x = y := Json.float.inj hy
        simp [ModelTerm.accepts, intField, laxInt, hnone] at hmodel
      · intro hover
        cases hconvert : rt.floatToInt x with
        | none => exact absurd (.integer ⟨x, i, rfl, hi, hconvert⟩) hover
        | some j =>
          obtain rfl : i = j := Option.some.inj (hi.symm.trans (rt.integral_of_floatToInt hconvert))
          simpa [ModelTerm.accepts, intField, laxInt, hconvert] using hle
    · intro h
      refine iff_of_true ?_ hlenient
      obtain ⟨i, hi, hle⟩ : ∃ i, rt.floatToInt x = some i ∧ minimum ≤ i := by
        simpa [ModelTerm.accepts, intField, laxInt, Option.any_eq_true] using h
      simpa [SchemaTerm.accepts, integerType, rt.integral_of_floatToInt hi] using hle
  | bool b =>
    have hschema : SchemaTerm.accepts rt (.integer minimum) (.bool b) ≠ true := Bool.false_ne_true
    exact ⟨fun h => absurd h hschema,
      fun _ => iff_of_false hschema (not_not_intro (.flagNumber b))⟩
  | str s =>
    have hschema : SchemaTerm.accepts rt (.integer minimum) (.str s) ≠ true := Bool.false_ne_true
    exact ⟨fun h => absurd h hschema,
      fun _ => iff_of_false hschema (not_not_intro (.textNumber s))⟩
  | _ => exact agreeOn_of_rejects rfl rfl

/-- A text that a schema accepts is accepted by a model that has the same pattern or none, unless
its engine does not find the pattern; and the other way round, unless the engine of the schemas does
not find it, or the text does not have the format. -/
theorem agree_text {pattern pattern' : Option String} (format : Option String)
    (h : pattern' = none ∨ pattern = pattern') :
    Agree rt (.text pattern format) (.str pattern') := by
  intro value
  cases value with
  | str s =>
    have hschema : SchemaTerm.accepts rt (.text pattern format) (.str s) = true ↔
        (∀ p ∈ pattern, rt.schemaSearch p s = true) ∧ ∀ f ∈ format, rt.hasFormat f s = true := by
      simp [SchemaTerm.accepts, stringType, Option.all_eq_true]
    have hmodel : ModelTerm.accepts rt (.str pattern') (.str s) = true ↔
        ∀ p ∈ pattern', rt.modelSearch p s = true := by
      simp [ModelTerm.accepts, patternField, Option.all_eq_true]
    constructor
    · rw [hschema, hmodel]
      rintro -
      constructor
      · rintro hfound (_ | @⟨_, _, p, _, hp⟩)
        rw [hfound p rfl] at hp
        cases hp
      · rintro hstrict p rfl
        by_contra hp
        exact hstrict (.pattern (Bool.not_eq_true _ ▸ hp))
    · rw [hschema, hmodel]
      rintro -
      constructor
      · rintro ⟨hfound, hformat⟩ (_ | _ | _ | @⟨_, _, p, _, hp⟩ | @⟨_, _, f, _, hf⟩)
        · rw [hfound p rfl] at hp
          cases hp
        · rw [hformat f rfl] at hf
          cases hf
      · intro hlenient
        constructor
        · rintro p rfl
          by_contra hp
          exact hlenient (.pattern (Bool.not_eq_true _ ▸ hp))
        · rintro f rfl
          by_contra hf
          exact hlenient (.format (Bool.not_eq_true _ ▸ hf))
  | _ => exact agreeOn_of_rejects rfl rfl

theorem agree_array (minItems : ℕ) {items : SchemaTerm} {item : ModelTerm}
    (h : Agree rt items item) : Agree rt (.array minItems items) (.list minItems item) := by
  intro value
  cases value with
  | arr values =>
    have hschema : SchemaTerm.accepts rt (.array minItems items) (.arr values) = true ↔
        minItems ≤ values.length ∧ ∀ v ∈ values, items.accepts rt v = true := by
      simp [SchemaTerm.accepts, arrayType]
    have hmodel : ModelTerm.accepts rt (.list minItems item) (.arr values) = true ↔
        minItems ≤ values.length ∧ ∀ v ∈ values, item.accepts rt v = true := by
      simp [ModelTerm.accepts, listField]
    constructor
    · rw [hschema, hmodel]
      rintro ⟨hlength, hvalues⟩
      constructor
      · rintro ⟨-, hitems⟩ (_ | _ | ⟨hv, hover⟩)
        exact ((h _).model_iff (hvalues _ hv)).mp (hitems _ hv) hover
      · exact fun hover => ⟨hlength, fun v hv =>
          ((h v).model_iff (hvalues v hv)).mpr fun hv' => hover (.item hv hv')⟩
    · rw [hschema, hmodel]
      rintro ⟨hlength, hvalues⟩
      constructor
      · rintro ⟨-, hitems⟩ (_ | _ | _ | _ | _ | ⟨hv, hlenient⟩)
        exact ((h _).schema_iff (hvalues _ hv)).mp (hitems _ hv) hlenient
      · exact fun hlenient => ⟨hlength, fun v hv =>
          ((h v).schema_iff (hvalues v hv)).mpr fun hv' => hlenient (.item hv hv')⟩
  | _ => exact agreeOn_of_rejects rfl rfl

theorem agree_map (minProperties : ℕ) {values : SchemaTerm} {item : ModelTerm}
    (h : Agree rt values item) :
    Agree rt (.map minProperties values) (.dict minProperties item) := by
  intro value
  cases value with
  | obj fields =>
    have hschema : SchemaTerm.accepts rt (.map minProperties values) (.obj fields) = true ↔
        minProperties ≤ fields.length ∧ ∀ f ∈ fields, values.accepts rt f.2 = true := by
      rw [SchemaTerm.accepts, objectType_obj_iff]
      simp [and_comm]
    have hmodel : ModelTerm.accepts rt (.dict minProperties item) (.obj fields) = true ↔
        minProperties ≤ fields.length ∧ ∀ f ∈ fields, item.accepts rt f.2 = true := by
      simp [ModelTerm.accepts, dictField]
    constructor
    · rw [hschema, hmodel]
      rintro ⟨hlength, hvalues⟩
      constructor
      · rintro ⟨-, hitems⟩ (_ | _ | _ | ⟨hf, hover⟩)
        exact ((h _).model_iff (hvalues _ hf)).mp (hitems _ hf) hover
      · exact fun hover => ⟨hlength, fun f hf =>
          ((h f.2).model_iff (hvalues f hf)).mpr fun hf' => hover (.entry hf hf')⟩
    · rw [hschema, hmodel]
      rintro ⟨hlength, hvalues⟩
      constructor
      · rintro ⟨-, hitems⟩ (_ | _ | _ | _ | _ | _ | ⟨hf, hlenient⟩)
        exact ((h _).schema_iff (hvalues _ hf)).mp (hitems _ hf) hlenient
      · exact fun hlenient => ⟨hlength, fun f hf =>
          ((h f.2).schema_iff (hvalues f hf)).mpr fun hf' => hlenient (.entry hf hf')⟩
  | _ => exact agreeOn_of_rejects rfl rfl

theorem agree_enum (texts : List String) : Agree rt (.enum texts) (.literal texts) := by
  refine agree_of_eq (fun value => ?_) (fun value => ?_) (fun value => ?_)
  · cases value <;> rfl
  · rintro ⟨⟩
  · rintro ⟨⟩

theorem agree_constFalse : Agree rt .constFalse .literalFalse := by
  refine agree_of_eq (fun value => ?_) (fun value => ?_) (fun value => ?_)
  · cases value <;> rfl
  · rintro ⟨⟩
  · rintro ⟨⟩

theorem agree_any : Agree rt .any .any := by
  refine agree_of_eq (fun value => rfl) (fun value => ?_) (fun value => ?_)
  · rintro ⟨⟩
  · rintro ⟨⟩

/-! ### Objects -/

section Objects

variable {required : List String} {isOpen : Bool} {properties : List (String × SchemaTerm)}
  {heads : List (FieldHead × ModelTerm)} {fields : Fields}

/-- The fields of a model mirror the properties of an object. -/
structure Mirrored (rt : FormatRuntime) (required : List String)
    (properties : List (String × SchemaTerm)) (heads : List (FieldHead × ModelTerm)) : Prop where
  nodup : ((heads.map (modelField rt)).flatMap ModelField.spellings).Nodup
  named : ∀ field ∈ heads, ∀ key ∈ field.1.spellings, isExtensionKey key = false
  declared : ∀ field ∈ heads, field.1.key ∈ properties.map Prod.fst
  required : ∀ field ∈ heads, field.1.required = true → field.1.key ∈ required
  agree : ∀ property ∈ properties, (∃ field ∈ heads, field.1.key = property.1) ∧
    ∀ field ∈ heads, field.1.key = property.1 →
      (field.1.nullable = true → property.2.acceptsNull = false) ∧ Agree rt property.2 field.2

theorem Mirrored.extraKeys_eq_false (h : Mirrored rt required properties heads)
    {field : FieldHead × ModelTerm} (hfield : field ∈ heads) {key : String}
    (hkey : key ∈ field.1.spellings) : extraKeys isOpen key = false := by
  rw [extraKeys, h.named field hfield key hkey, Bool.and_false]

/-- The name of a field that has an alias is no property. -/
theorem Mirrored.name_notMem (h : Mirrored rt required properties heads)
    {field : FieldHead × ModelTerm} (hfield : field ∈ heads)
    (hne : field.1.key ≠ field.1.name) : field.1.name ∉ properties.map Prod.fst := by
  intro hmem
  obtain ⟨property, hproperty, hname⟩ := List.mem_map.mp hmem
  obtain ⟨⟨other, hother, hkey⟩, -⟩ := h.agree property hproperty
  have hspelled : field.1.name ∈ (modelField rt field).spellings :=
    FieldHead.mem_spellings_iff.mpr (Or.inr rfl)
  have heq : modelField rt field = modelField rt other :=
    eq_of_mem_spellings h.nodup (List.mem_map_of_mem hfield) (List.mem_map_of_mem hother)
      hspelled (FieldHead.mem_spellings_iff.mpr (Or.inl (hname.symm.trans hkey.symm)))
  have hname' : field.1.name = other.1.name := congrArg ModelField.name heq
  have halias : field.1.aliasName = other.1.aliasName := congrArg ModelField.aliasName heq
  apply hne
  rw [FieldHead.key, halias, hname']
  exact hkey.trans (hname.trans hname')

/-- What a model accepts, by its fields. -/
theorem Mirrored.model_iff (h : Mirrored rt required properties heads) :
    ModelTerm.accepts rt (.model isOpen heads) (.obj fields) = true ↔
      (∀ entry ∈ fields, extraKeys isOpen entry.1 = true ∨
        ∃ field ∈ heads, entry.1 ∈ field.1.spellings) ∧
      ∀ field ∈ heads, (modelField rt field).Fits fields := by
  have hextra : ∀ key ∈ (heads.map (modelField rt)).flatMap ModelField.spellings,
      extraKeys isOpen key = false := by
    intro key hkey
    obtain ⟨spelled, hspelled, hkey⟩ := List.mem_flatMap.mp hkey
    obtain ⟨field, hfield, rfl⟩ := List.mem_map.mp hspelled
    exact h.extraKeys_eq_false hfield hkey
  rw [ModelTerm.accepts, modelFields_eq_map, openModelType_obj_iff h.nodup hextra,
    List.forall_mem_map]
  simp only [List.mem_flatMap, List.mem_map, exists_exists_and_eq_and, spellings_modelField]

/-- Where all keys are declared, no field is given under a name that is not its key. -/
theorem Mirrored.not_has_name (h : Mirrored rt required properties heads)
    (hkeys : ∀ entry ∈ fields, entry.1 ∈ properties.map Prod.fst ∨ extraKeys isOpen entry.1 = true)
    {field : FieldHead × ModelTerm} (hfield : field ∈ heads)
    (hne : field.1.key ≠ field.1.name) : ¬ fields.Has field.1.name := by
  intro hhas
  obtain ⟨entry, hentry, hname⟩ := Fields.has_iff_mem.mp hhas
  rcases hkeys entry hentry with hmem | hextra
  · exact h.name_notMem hfield hne (hname ▸ hmem)
  · rw [hname, h.extraKeys_eq_false hfield (FieldHead.mem_spellings_iff.mpr (Or.inr rfl))] at hextra
    cases hextra

/-- A value that a field takes but its property does not is a null, or one that the type of the
field takes. -/
theorem Mirrored.accepts_of_nullable (h : Mirrored rt required properties heads)
    {property : String × SchemaTerm} (hproperty : property ∈ properties)
    {field : FieldHead × ModelTerm} (hfield : field ∈ heads) (hkey : field.1.key = property.1)
    {value : Json} (hschema : property.2.accepts rt value = true)
    (hmodel : nullableField field.1.nullable (field.2.accepts rt) value = true) :
    field.2.accepts rt value = true := by
  rcases nullableField_iff.mp hmodel with ⟨hnullable, rfl⟩ | haccepts
  · have hnull := ((h.agree property hproperty).2 field hfield hkey).1 hnullable
    rw [acceptsNull_of_accepts hschema] at hnull
    cases hnull
  · exact haccepts

/-- An object that the schema accepts is accepted by the model unless that is stricter about it. -/
theorem Mirrored.model_iff_of_schema (h : Mirrored rt required properties heads)
    (hschema : SchemaTerm.accepts rt (.object required isOpen properties) (.obj fields) = true) :
    ModelTerm.accepts rt (.model isOpen heads) (.obj fields) = true ↔
      ¬ StrictAbout rt (.object required isOpen properties) (.model isOpen heads)
        (.obj fields) := by
  rw [SchemaTerm.accepts, declaredObject_obj_iff] at hschema
  obtain ⟨hrequired, hproperties, hkeys⟩ := hschema
  have hfits : ∀ field ∈ heads, (modelField rt field).Fits fields ↔
      fields.OptAt field.1.key fun value =>
        nullableField field.1.nullable (field.2.accepts rt) value = true := by
    intro field hfield
    rw [fits_modelField_iff (h.not_has_name hkeys hfield)]
    exact and_iff_left fun hr => hrequired _ (h.required field hfield hr)
  rw [h.model_iff]
  constructor
  · rintro ⟨-, hmodel⟩ (_ | _ | _ | _ | @⟨_, _, _, _, _, _, property, field, value, hproperty,
      hfield, hkey, hvalue, hover⟩)
    have hagree := (h.agree property hproperty).2
    have haccepts := (hfits field hfield).mp (hmodel field hfield) value (hkey ▸ hvalue)
    have hvalue' := hproperties property hproperty value hvalue
    exact (((hagree field hfield hkey).2 value).model_iff hvalue').mp
      (h.accepts_of_nullable hproperty hfield hkey hvalue' haccepts) hover
  · intro hover
    refine ⟨fun entry hentry => ?_, fun field hfield => (hfits field hfield).mpr fun value hvalue =>
      nullableField_iff.mpr (Or.inr ?_)⟩
    · refine (hkeys entry hentry).symm.imp_right fun hmem => ?_
      obtain ⟨property, hproperty, hname⟩ := List.mem_map.mp hmem
      obtain ⟨⟨field, hfield, hkey⟩, -⟩ := h.agree property hproperty
      exact ⟨field, hfield, hname ▸ hkey ▸ field.1.key_mem_spellings⟩
    · obtain ⟨property, hproperty, hname⟩ := List.mem_map.mp (h.declared field hfield)
      have hagree := ((h.agree property hproperty).2 field hfield hname.symm).2 value
      rw [← hname] at hvalue
      exact (hagree.model_iff (hproperties property hproperty value hvalue)).mpr
        fun hover' => hover (.property hproperty hfield hname.symm hvalue hover')

/-- An object that the model accepts is accepted by the schema unless the model is more lenient
about it. -/
theorem Mirrored.schema_iff_of_model (h : Mirrored rt required properties heads)
    (hmodel : ModelTerm.accepts rt (.model isOpen heads) (.obj fields) = true) :
    SchemaTerm.accepts rt (.object required isOpen properties) (.obj fields) = true ↔
      ¬ LenientAbout rt (.object required isOpen properties) (.model isOpen heads)
          (.obj fields) := by
  rw [h.model_iff] at hmodel
  obtain ⟨hspelled, hfits⟩ := hmodel
  have haccepts : ∀ field ∈ heads, fields.OptAt field.1.key fun value =>
      nullableField field.1.nullable (field.2.accepts rt) value = true :=
    fun field hfield => (hfits field hfield).accepted _ field.1.key_mem_spellings
  rw [SchemaTerm.accepts, declaredObject_obj_iff]
  constructor
  · rintro ⟨hrequired, hproperties, hkeys⟩ hlenient
    cases hlenient with
    | name hfield hne hhas => exact h.not_has_name hkeys hfield hne hhas
    | missing hkey hhas => exact hhas (hrequired _ hkey)
    | null hfield hnullable hvalue =>
      obtain ⟨property, hproperty, hname⟩ := List.mem_map.mp (h.declared _ hfield)
      have hnull := ((h.agree property hproperty).2 _ hfield hname.symm).1 hnullable
      rw [acceptsNull_of_accepts (hproperties property hproperty _ (hname ▸ hvalue))] at hnull
      cases hnull
    | property hproperty hfield hkey hvalue hlenient =>
      have hvalue' := hproperties _ hproperty _ hvalue
      have htype := h.accepts_of_nullable hproperty hfield hkey hvalue'
        (haccepts _ hfield _ (hkey ▸ hvalue))
      exact ((((h.agree _ hproperty).2 _ hfield hkey).2 _).schema_iff htype).mp hvalue' hlenient
  · intro hlenient
    refine ⟨fun key hkey => by_contra fun hhas => hlenient (.missing hkey hhas),
      fun property hproperty value hvalue => ?_, fun entry hentry => ?_⟩
    · obtain ⟨⟨field, hfield, hkey⟩, hagree⟩ := h.agree property hproperty
      rcases nullableField_iff.mp (haccepts field hfield value (hkey ▸ hvalue)) with
        ⟨hnullable, rfl⟩ | htype
      · exact absurd (.null hfield hnullable (hkey ▸ hvalue)) hlenient
      · exact (((hagree field hfield hkey).2 value).schema_iff htype).mpr
          fun hlenient' => hlenient (.property hproperty hfield hkey hvalue hlenient')
    · rcases hspelled entry hentry with hextra | ⟨field, hfield, hkey⟩
      · exact Or.inr hextra
      · by_cases heq : entry.1 = field.1.key
        · exact Or.inl (heq ▸ h.declared field hfield)
        · have hname := (FieldHead.mem_spellings_iff.mp hkey).resolve_left heq
          exact absurd (.name hfield (hname ▸ Ne.symm heq)
            (Fields.has_iff_mem.mpr ⟨entry, hentry, hname⟩)) hlenient

theorem Mirrored.agree_object (h : Mirrored rt required properties heads) :
    Agree rt (.object required isOpen properties) (.model isOpen heads) := by
  intro value
  cases value with
  | obj fields => exact ⟨h.model_iff_of_schema, h.schema_iff_of_model⟩
  | _ => exact agreeOn_of_rejects rfl rfl

/-- The checks of an object, and the agreement of its properties, are what makes the fields of a
model mirror the properties. -/
theorem mirrored_of_checks (hnamed : wellNamed (heads.map Prod.fst) = true)
    (hsame : sameFields required properties (heads.map Prod.fst) = true)
    (hagree : ∀ property ∈ properties, (∃ field ∈ heads, field.1.key = property.1) ∧
      ∀ field ∈ heads, field.1.key = property.1 →
        (field.1.nullable = true → property.2.acceptsNull = false) ∧ Agree rt property.2 field.2) :
    Mirrored rt required properties heads := by
  rw [wellNamed, Bool.and_eq_true, decide_eq_true_eq, List.all_eq_true] at hnamed
  rw [sameFields, List.all_eq_true] at hsame
  have hsame' : ∀ field ∈ heads, field.1.key ∈ properties.map Prod.fst ∧
      (field.1.required = true → field.1.key ∈ required) := by
    intro field hfield
    have hchecks := hsame field.1 (List.mem_map_of_mem hfield)
    rw [Bool.and_eq_true, List.contains_iff_mem] at hchecks
    refine ⟨hchecks.1, fun hrequired => ?_⟩
    simpa [hrequired] using hchecks.2
  refine ⟨?_, fun field hfield key hkey => ?_, fun field hfield => (hsame' field hfield).1,
    fun field hfield => (hsame' field hfield).2, hagree⟩
  · have hnodup := hnamed.1
    rw [List.flatMap_map] at hnodup ⊢
    exact hnodup
  · have hmem : key ∈ (heads.map Prod.fst).flatMap FieldHead.spellings :=
      List.mem_flatMap.mpr ⟨field.1, List.mem_map_of_mem hfield, hkey⟩
    simpa using hnamed.2 key hmem

end Objects

/-! ### The check is sound -/

mutual

/-- A model that mirrors a schema agrees with it. -/
theorem agree_of_mirrors : ∀ (schema : SchemaTerm) (type : ModelTerm),
    mirrors schema type = true → Agree rt schema type
  | .any, .any, _ => agree_any
  | .boolean, .bool, _ => agree_boolean
  | .constFalse, .literalFalse, _ => agree_constFalse
  | .integer minimum, .int ge, h => by
    obtain rfl : minimum = ge := of_decide_eq_true h
    exact agree_integer minimum
  | .text pattern format, .str pattern', h => by
    refine agree_text format ?_
    simpa [mirrors] using h
  | .enum texts, .literal texts', h => by
    obtain rfl : texts = texts' := of_decide_eq_true h
    exact agree_enum texts
  | .array minItems items, .list minLength item, h => by
    rw [mirrors, Bool.and_eq_true, decide_eq_true_eq] at h
    obtain ⟨rfl, h⟩ := h
    exact agree_array minItems (agree_of_mirrors items item h)
  | .map minProperties values, .dict minLength item, h => by
    rw [mirrors, Bool.and_eq_true, decide_eq_true_eq] at h
    obtain ⟨rfl, h⟩ := h
    exact agree_map minProperties (agree_of_mirrors values item h)
  | .object required isOpen properties, .model isExtensible fields, h => by
    simp only [mirrors, Bool.and_eq_true, decide_eq_true_eq] at h
    obtain ⟨⟨⟨rfl, hnamed⟩, hsame⟩, hall⟩ := h
    exact (mirrored_of_checks hnamed hsame
      (agree_of_mirrorsAll properties fields hall)).agree_object

/-- The fields that mirror the properties of an object agree with them. -/
theorem agree_of_mirrorsAll : ∀ (properties : List (String × SchemaTerm))
    (fields : List (FieldHead × ModelTerm)), mirrorsAll properties fields = true →
    ∀ property ∈ properties, (∃ field ∈ fields, field.1.key = property.1) ∧
      ∀ field ∈ fields, field.1.key = property.1 →
        (field.1.nullable = true → property.2.acceptsNull = false) ∧ Agree rt property.2 field.2
  | [], _, _ => fun _ hproperty => absurd hproperty List.not_mem_nil
  | (key, schema) :: properties, fields, h => by
    simp only [mirrorsAll, Bool.and_eq_true, List.all_eq_true, List.contains_iff_mem,
      List.mem_map] at h
    obtain ⟨⟨hfield, hmirrors⟩, hall⟩ := h
    refine List.forall_mem_cons.mpr ⟨⟨hfield, fun field hmem hkey => ?_⟩,
      agree_of_mirrorsAll properties fields hall⟩
    have hchecks := hmirrors field hmem
    simp only [ne_eq, hkey, not_true_eq_false, decide_false, Bool.false_or, Bool.and_eq_true,
      Bool.not_eq_true', Bool.and_eq_false_imp] at hchecks
    exact ⟨hchecks.1, agree_of_mirrors schema field.2 hchecks.2⟩

end

end ClassroomSuite.Python
