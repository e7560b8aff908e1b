import ClassroomSuite.Python.LaxModel

/-!
# The two descriptions of the boot manager

The section `bootManager` of a configuration is described twice: by a JSON schema, and by models,
which promise to mirror the schema. The two accept the same documents but for a few: the models take
a field under the name it has in the program, convert some values, and do not look at the letters of
an identifier; the schema takes every whole number, and the models do not convert the largest
floats. `formats_agree_iff` is the exact condition.

Source: `config/schema.yaml`, section `bootManager`; `cli/src/bcs/config/models.py`.

## Main definitions

* `bootManagerSchema`, `bootManagerModel`.
* `WellFormed`: the shape of a document that both descriptions share.
* `Lenient`, `Oversized`: what only the models accept, and what only the schema accepts.

## Main results

* `formats_agree_iff`.
-/

namespace ClassroomSuite.Config

open Python

/-- What an entry of the menu can do. -/
def entryActions : List String :=
  ["boot-installed-os", "request-deploy-maintenance", "boot-recovery"]

/-! ### The schema -/

/-- The pattern `^[a-z0-9-]+$`. -/
def isEntryId (s : String) : Bool :=
  decide (s ≠ "") && s.toList.all fun c => ('a' ≤ c && c ≤ 'z') || ('0' ≤ c && c ≤ '9') || c = '-'

/-- `menuEntry` of the schema. -/
def menuEntrySchema : Schema :=
  objectType
    [("id", stringType isEntryId), ("label", objectType [] [] (stringType) 1),
      ("action", stringType entryActions.contains)]
    ["id", "label", "action"] noAdditional

/-- `menu` of the schema. -/
def menuSchema : Schema :=
  objectType
    [("timeoutSeconds", integerType 0), ("defaultEntry", stringType),
      ("entries", arrayType 1 menuEntrySchema)]
    ["entries", "defaultEntry"] noAdditional

/-- `fallback` of the schema. -/
def fallbackSchema : Schema :=
  objectType [("onConfigError", stringType ["boot-installed-os"].contains)] [] noAdditional

/-- `bootManager` of the schema. -/
def bootManagerSchema : Schema :=
  objectType [("enabled", booleanType), ("menu", menuSchema), ("fallback", fallbackSchema)]
    ["menu"] noAdditional

/-! ### The models -/

/-- `MenuEntry`. -/
def menuEntryModel : LaxType :=
  modelType [
    { name := "id", required := true, accepts := strField },
    { name := "label", required := true, accepts := dictField 1 strField },
    { name := "action", required := true, accepts := literalField entryActions }]

/-- `Fallback`. -/
def fallbackModel : LaxType :=
  modelType [
    { name := "on_config_error", aliasName := some "onConfigError", required := false
      accepts := literalField ["boot-installed-os"] }]

section Models

variable (rt : LaxRuntime)

/-- `Menu`. -/
def menuModel : LaxType :=
  modelType [
    { name := "timeout_seconds", aliasName := some "timeoutSeconds", required := false
      accepts := intField rt 0 },
    { name := "default_entry", aliasName := some "defaultEntry", required := true
      accepts := strField },
    { name := "entries", required := true, accepts := listField 1 menuEntryModel }]

/-- The models of the section (`BootManagerSpec`). -/
def bootManagerModel : LaxType :=
  modelType [
    { name := "enabled", required := false, accepts := boolField rt },
    { name := "menu", required := true, accepts := menuModel rt },
    { name := "fallback", required := false, accepts := fallbackModel }]

/-! ### The common shape -/

/-- A text. -/
def IsText (value : Json) : Prop := ∃ s, value = .str s

/-- One of some texts. -/
def IsOneOf (texts : List String) (value : Json) : Prop := ∃ s ∈ texts, value = .str s

/-- An object of texts, with at least one. -/
def IsTexts (value : Json) : Prop :=
  ∃ fields, value = .obj fields ∧ fields ≠ [] ∧ ∀ field ∈ fields, IsText field.2

/-- A number of seconds: a whole number, or what can be converted to one. -/
def IsSeconds (value : Json) : Prop :=
  match value with
  | .int i => 0 ≤ i
  | .bool _ => True
  | .float x => ∃ i, x.integral = some i ∧ 0 ≤ i
  | .str s => ∃ i, rt.textToInt s = some i ∧ 0 ≤ i
  | _ => False

/-- A truth value, or what can be converted to one. -/
def IsFlag (value : Json) : Prop := (laxBool rt value).isSome = true

/-- An entry has an identifier, labels and an action, and nothing else. -/
def EntryShape (value : Json) : Prop :=
  ∃ fields : Fields, value = .obj fields ∧ fields.KeysIn ["id", "label", "action"] ∧
    fields.At "id" IsText ∧ fields.At "label" IsTexts ∧ fields.At "action" (IsOneOf entryActions)

/-- A field has at most one of two spellings, and the property in both. -/
def OneSpelling (fields : Fields) (key key' : String) (p : Json → Prop) : Prop :=
  ¬ (fields.Has key ∧ fields.Has key') ∧ fields.OptAt key p ∧ fields.OptAt key' p

/-- A menu has a default entry and entries, and may have a timeout. -/
def MenuShape (value : Json) : Prop :=
  ∃ fields : Fields, value = .obj fields ∧
    fields.KeysIn ["timeoutSeconds", "timeout_seconds", "defaultEntry", "default_entry",
      "entries"] ∧
    OneSpelling fields "timeoutSeconds" "timeout_seconds" (IsSeconds rt) ∧
    OneSpelling fields "defaultEntry" "default_entry" IsText ∧
    (fields.Has "defaultEntry" ∨ fields.Has "default_entry") ∧
    fields.At "entries" fun entries =>
      ∃ items, entries = .arr items ∧ items ≠ [] ∧ ∀ entry ∈ items, EntryShape entry

/-- A fallback may say what to do on an error of the configuration. -/
def FallbackShape (value : Json) : Prop :=
  ∃ fields : Fields, value = .obj fields ∧ fields.KeysIn ["onConfigError", "on_config_error"] ∧
    OneSpelling fields "onConfigError" "on_config_error" (IsOneOf ["boot-installed-os"])

/-- The shape of a document that both descriptions share. -/
def WellFormed (value : Json) : Prop :=
  ∃ fields : Fields, value = .obj fields ∧ fields.KeysIn ["enabled", "menu", "fallback"] ∧
    fields.OptAt "enabled" (IsFlag rt) ∧ fields.At "menu" (MenuShape rt) ∧
    fields.OptAt "fallback" FallbackShape

end Models

/-! ### What only one description accepts -/

/-- There is a value under the key of an object. -/
def HasKey (value : Json) (key : String) : Prop :=
  ∃ fields : Fields, value = .obj fields ∧ fields.Has key

/-- The identifier of an entry has other letters than the pattern allows. -/
def EntryLenient (entry : Json) : Prop :=
  ∃ s, entry.field "id" = .str s ∧ isEntryId s = false

/-- A menu uses the name that a field has in the program, or has a timeout that is a truth value or
a text, or an entry with other letters than the pattern allows. -/
def MenuLenient (menu : Json) : Prop :=
  HasKey menu "timeout_seconds" ∨ HasKey menu "default_entry" ∨
    (∃ b, menu.field "timeoutSeconds" = .bool b) ∨ IsText (menu.field "timeoutSeconds") ∨
    ∃ entries, menu.field "entries" = .arr entries ∧ ∃ entry ∈ entries, EntryLenient entry

/-- The section is enabled by a value that is no truth value, or has a menu or a fallback that only
the models accept. -/
def Lenient (value : Json) : Prop :=
  (HasKey value "enabled" ∧ ∀ b, value.field "enabled" ≠ .bool b) ∨
    MenuLenient (value.field "menu") ∨ HasKey (value.field "fallback") "on_config_error"

/-- A float that is equal to an integer but is not converted to it. -/
def NotConverted (rt : LaxRuntime) (value : Json) : Prop :=
  ∃ x i, value = .float x ∧ x.integral = some i ∧ rt.floatToInt x = none

/-- The timeout of a menu is a float that is not converted. -/
def MenuOversized (rt : LaxRuntime) (menu : Json) : Prop :=
  NotConverted rt (menu.field "timeoutSeconds") ∨ NotConverted rt (menu.field "timeout_seconds")

/-- The section has a menu that only the schema accepts. -/
def Oversized (rt : LaxRuntime) (value : Json) : Prop := MenuOversized rt (value.field "menu")

/-! ### Values of one field -/

theorem strField_iff {value : Json} : strField value = true ↔ IsText value := by
  cases value <;> simp [strField, IsText]

theorem literalField_iff {texts : List String} {value : Json} :
    literalField texts value = true ↔ IsOneOf texts value := by
  cases value <;> simp [literalField, IsOneOf]

theorem stringType_iff {allowed : String → Bool} {value : Json} :
    stringType allowed value = true ↔ ∃ s, value = .str s ∧ allowed s = true := by
  cases value <;> simp [stringType]

theorem stringType_any_iff {value : Json} :
    stringType (fun _ => true) value = true ↔ IsText value := by
  simp [stringType_iff, IsText]

theorem entryIdType_iff {value : Json} :
    stringType isEntryId value = true ↔
      IsText value ∧ ¬ ∃ s, value = .str s ∧ isEntryId s = false := by
  cases value <;> simp [stringType, IsText]

theorem stringType_contains_iff {texts : List String} {value : Json} :
    stringType texts.contains value = true ↔ IsOneOf texts value := by
  rw [stringType_iff]
  simp only [IsOneOf, List.contains_iff_mem, and_comm]

theorem dictField_iff {value : Json} : dictField 1 strField value = true ↔ IsTexts value := by
  cases value with
  | obj fields =>
    simp [dictField, IsTexts, strField_iff, Nat.one_le_iff_ne_zero]
  | _ => simp [dictField, IsTexts]

theorem labelType_iff {value : Json} :
    objectType [] [] (stringType) 1 value = true ↔ IsTexts value := by
  cases value with
  | obj fields =>
    rw [objectType_obj_iff]
    simp [IsTexts, stringType_any_iff, Nat.one_le_iff_ne_zero, and_comm]
  | _ => simp [objectType, IsTexts]

/-- A value that is a number of seconds is accepted by the models unless it is a float that is not
converted. -/
theorem intField_iff {rt : LaxRuntime} {value : Json} :
    intField rt 0 value = true ↔ IsSeconds rt value ∧ ¬ NotConverted rt value := by
  cases value with
  | bool b => cases b <;> simp [intField, laxInt, IsSeconds, NotConverted]
  | float x =>
    cases hconvert : rt.floatToInt x with
    | none =>
      refine iff_of_false (by simp [intField, laxInt, hconvert]) ?_
      rintro ⟨⟨i, hi, -⟩, h⟩
      exact h ⟨x, i, rfl, hi, hconvert⟩
    | some i =>
      have hintegral := rt.integral_of_floatToInt hconvert
      simp [intField, laxInt, IsSeconds, NotConverted, hconvert, hintegral]
  | _ => simp [intField, laxInt, IsSeconds, NotConverted, Option.any_eq_true]

/-- A value that is a number of seconds is accepted by the schema unless it is a truth value or a
text. -/
theorem integerType_iff (rt : LaxRuntime) {value : Json} :
    integerType 0 value = true ↔
      IsSeconds rt value ∧ ¬ ((∃ b, value = .bool b) ∨ IsText value) := by
  cases value <;> simp [integerType, IsSeconds, IsText, Option.any_eq_true]

theorem booleanType_iff (rt : LaxRuntime) {value : Json} :
    booleanType value = true ↔ IsFlag rt value ∧ ¬ ∀ b, value ≠ .bool b := by
  cases value <;> simp [booleanType, IsFlag, laxBool]

/-! ### Objects -/

/-- There is a value with a property under a key. -/
theorem at_iff_has_and_field {fields : Fields} {key : String} {p : Json → Prop} :
    fields.At key p ↔ fields.Has key ∧ p ((Json.obj fields).field key) := by
  change _ ↔ _ ∧ p ((fields.lookup key).getD .null)
  cases h : fields.lookup key <;> simp [Fields.At, Fields.Has, h]

/-- What is no property of a null is one of a value that is there. -/
theorem at_iff_field {fields : Fields} {key : String} {p : Json → Prop} (hnull : ¬ p .null) :
    fields.At key p ↔ p ((Json.obj fields).field key) := by
  change _ ↔ p ((fields.lookup key).getD .null)
  cases h : fields.lookup key <;> simp [Fields.At, h, hnull]

/-- An exception among the values that are accepted under an optional key. -/
theorem optAt_and_not_iff_at {fields : Fields} {key : String} {p q : Json → Prop} :
    (fields.OptAt key fun value => p value ∧ ¬ q value) ↔
      fields.OptAt key p ∧ ¬ fields.At key q := by
  constructor
  · intro h
    refine ⟨fun value hvalue => (h value hvalue).1, ?_⟩
    rintro ⟨value, hvalue, hq⟩
    exact (h value hvalue).2 hq
  · rintro ⟨hp, hq⟩ value hvalue
    exact ⟨hp value hvalue, fun hqvalue => hq ⟨value, hvalue, hqvalue⟩⟩

theorem optAt_and_not_iff {fields : Fields} {key : String} {p q : Json → Prop}
    (hnull : ¬ q .null) :
    (fields.OptAt key fun value => p value ∧ ¬ q value) ↔
      fields.OptAt key p ∧ ¬ q ((Json.obj fields).field key) := by
  rw [optAt_and_not_iff_at, at_iff_field hnull]

theorem hasKey_obj_iff {fields : Fields} {key : String} :
    HasKey (.obj fields) key ↔ fields.Has key := by
  simp [HasKey]

/-- The models accept an entry if it has the shape. -/
theorem menuEntryModel_iff {value : Json} : menuEntryModel value = true ↔ EntryShape value := by
  cases value with
  | obj fields =>
    rw [menuEntryModel, modelType_obj_iff (by decide)]
    simp only [List.forall_mem_cons, List.not_mem_nil, false_imp_iff, implies_true, and_true,
      fits_required_iff, strField_iff, dictField_iff, literalField_iff, EntryShape,
      Json.obj.injEq, exists_eq_left']
    rfl
  | _ => simp [menuEntryModel, modelType, EntryShape]

/-- The schema accepts an entry if it has the shape and the letters of the identifier are
allowed. -/
theorem menuEntrySchema_iff {value : Json} :
    menuEntrySchema value = true ↔ EntryShape value ∧ ¬ EntryLenient value := by
  cases value with
  | obj fields =>
    rw [menuEntrySchema, closedObject_iff]
    simp only [List.forall_mem_cons, List.not_mem_nil, false_imp_iff, implies_true, and_true,
      entryIdType_iff, stringType_contains_iff, labelType_iff, EntryShape, Json.obj.injEq,
      exists_eq_left']
    rw [optAt_and_not_iff (by simp), ← Fields.has_and_optAt_iff, ← Fields.has_and_optAt_iff,
      ← Fields.has_and_optAt_iff]
    constructor
    · rintro ⟨hkeys, ⟨hid, hlabel, haction⟩, ⟨hidText, hletters⟩, hlabelTexts, hactionText⟩
      exact ⟨⟨hkeys, ⟨hid, hidText⟩, ⟨hlabel, hlabelTexts⟩, haction, hactionText⟩, hletters⟩
    · rintro ⟨⟨hkeys, ⟨hid, hidText⟩, ⟨hlabel, hlabelTexts⟩, haction, hactionText⟩, hletters⟩
      exact ⟨hkeys, ⟨hid, hlabel, haction⟩, ⟨hidText, hletters⟩, hlabelTexts, hactionText⟩
  | _ => simp [menuEntrySchema, objectType, EntryShape]

/-- The models accept a fallback if it has the shape. -/
theorem fallbackModel_iff {value : Json} : fallbackModel value = true ↔ FallbackShape value := by
  cases value with
  | obj fields =>
    rw [fallbackModel, modelType_obj_iff (by decide)]
    simp only [List.forall_mem_cons, List.not_mem_nil, false_imp_iff, implies_true, and_true,
      fits_alias_iff (by decide : "onConfigError" ≠ "on_config_error"), literalField_iff,
      Bool.false_eq_true, FallbackShape, OneSpelling, Json.obj.injEq, exists_eq_left']
    rfl
  | _ => simp [fallbackModel, modelType, FallbackShape]

/-- The schema accepts a fallback if it has the shape and is not spelled as in the program. -/
theorem fallbackSchema_iff {value : Json} :
    fallbackSchema value = true ↔ FallbackShape value ∧ ¬ HasKey value "on_config_error" := by
  cases value with
  | obj fields =>
    rw [fallbackSchema, closedObject_iff, hasKey_obj_iff]
    simp only [List.forall_mem_cons, List.not_mem_nil, false_imp_iff, implies_true, and_true,
      stringType_contains_iff, FallbackShape, OneSpelling, Json.obj.injEq, exists_eq_left',
      true_and]
    have hkeys : Fields.KeysIn fields ["onConfigError"] ↔
        Fields.KeysIn fields ["onConfigError", "on_config_error"] ∧
          ¬ Fields.Has fields "on_config_error" := by
      rw [Fields.keysIn_iff_of_subset (List.subset_append_left _ ["on_config_error"])]
      simp
    change Fields.KeysIn fields ["onConfigError"] ∧ _ ↔ _
    rw [hkeys]
    constructor
    · rintro ⟨⟨hkeys, hname⟩, hvalue⟩
      exact ⟨⟨hkeys, fun h => hname h.2, hvalue, Fields.optAt_of_not_has hname⟩, hname⟩
    · rintro ⟨⟨hkeys, -, hvalue, -⟩, hname⟩
      exact ⟨⟨hkeys, hname⟩, hvalue⟩
  | _ => simp [fallbackSchema, objectType, FallbackShape]

/-- The entries of a menu, in both descriptions. -/
theorem listField_iff {value : Json} : listField 1 menuEntryModel value = true ↔
    ∃ items, value = .arr items ∧ items ≠ [] ∧ ∀ entry ∈ items, EntryShape entry := by
  cases value with
  | arr items => simp [listField, Nat.one_le_iff_ne_zero, menuEntryModel_iff]
  | _ => simp [listField]

theorem arrayType_iff {value : Json} : arrayType 1 menuEntrySchema value = true ↔
    (∃ items, value = .arr items ∧ items ≠ [] ∧ ∀ entry ∈ items, EntryShape entry) ∧
      ¬ ∃ items, value = .arr items ∧ ∃ entry ∈ items, EntryLenient entry := by
  cases value with
  | arr items =>
    simp [arrayType, Nat.one_le_iff_ne_zero, menuEntrySchema_iff, forall_and, and_assoc]
  | _ => simp [arrayType]

/-- The models accept a menu if it has the shape and its timeout is converted. -/
theorem menuModel_iff {rt : LaxRuntime} {value : Json} :
    menuModel rt value = true ↔ MenuShape rt value ∧ ¬ MenuOversized rt value := by
  cases value with
  | obj fields =>
    rw [menuModel, modelType_obj_iff (by simp [ModelField.spellings])]
    simp only [List.forall_mem_cons, List.not_mem_nil, false_imp_iff, implies_true, and_true,
      fits_alias_iff (by decide : "timeoutSeconds" ≠ "timeout_seconds"),
      fits_alias_iff (by decide : "defaultEntry" ≠ "default_entry"), fits_required_iff,
      strField_iff, intField_iff, listField_iff, Bool.false_eq_true, true_imp_iff, MenuShape,
      OneSpelling, Json.obj.injEq, exists_eq_left']
    rw [optAt_and_not_iff (by simp [NotConverted]), optAt_and_not_iff (by simp [NotConverted]),
      MenuOversized, not_or]
    constructor
    · rintro ⟨hkeys, ⟨hone, ⟨halias, hconverted⟩, hname, hconverted'⟩,
        ⟨hone', halias', hname', hdefault⟩, hentries⟩
      exact ⟨⟨hkeys, ⟨hone, halias, hname⟩, ⟨hone', halias', hname'⟩, hdefault, hentries⟩,
        hconverted, hconverted'⟩
    · rintro ⟨⟨hkeys, ⟨hone, halias, hname⟩, ⟨hone', halias', hname'⟩, hdefault, hentries⟩,
        hconverted, hconverted'⟩
      exact ⟨hkeys, ⟨hone, ⟨halias, hconverted⟩, hname, hconverted'⟩,
        ⟨hone', halias', hname', hdefault⟩, hentries⟩
  | _ => simp [menuModel, modelType, MenuShape]

/-- The schema accepts a menu if it has the shape and nothing that only the models accept. -/
theorem menuSchema_iff (rt : LaxRuntime) {value : Json} :
    menuSchema value = true ↔ MenuShape rt value ∧ ¬ MenuLenient value := by
  cases value with
  | obj fields =>
    rw [menuSchema, closedObject_iff]
    simp only [List.forall_mem_cons, List.not_mem_nil, false_imp_iff, implies_true, and_true,
      stringType_any_iff, integerType_iff rt, arrayType_iff, MenuShape, OneSpelling,
      Json.obj.injEq, exists_eq_left']
    rw [optAt_and_not_iff (by simp [IsText]), optAt_and_not_iff (by simp),
      ← Fields.has_and_optAt_iff]
    have hkeys : Fields.KeysIn fields ["timeoutSeconds", "defaultEntry", "entries"] ↔
        Fields.KeysIn fields ["timeoutSeconds", "timeout_seconds", "defaultEntry",
          "default_entry", "entries"] ∧
        ¬ Fields.Has fields "timeout_seconds" ∧ ¬ Fields.Has fields "default_entry" := by
      have hsubset : ["timeoutSeconds", "defaultEntry", "entries"] ⊆
          ["timeoutSeconds", "timeout_seconds", "defaultEntry", "default_entry", "entries"] := by
        simp
      rw [Fields.keysIn_iff_of_subset hsubset]
      simp
    change Fields.KeysIn fields ["timeoutSeconds", "defaultEntry", "entries"] ∧ _ ↔ _
    rw [hkeys]
    simp only [MenuLenient, hasKey_obj_iff, not_or]
    constructor
    · rintro ⟨⟨hkeys, hseconds, hdefault⟩, ⟨hhasEntries, hhasDefault⟩, ⟨htimeout, hbool, htext⟩,
        hdefaultText, hentries, hlenient⟩
      exact ⟨⟨hkeys, ⟨fun h => hseconds h.2, htimeout, Fields.optAt_of_not_has hseconds⟩,
        ⟨fun h => hdefault h.2, hdefaultText, Fields.optAt_of_not_has hdefault⟩,
        Or.inl hhasDefault, hhasEntries, hentries⟩, hseconds, hdefault, hbool, htext, hlenient⟩
    · rintro ⟨⟨hkeys, ⟨-, htimeout, -⟩, ⟨-, hdefaultText, -⟩, hhasDefault, hhasEntries,
        hentries⟩, hseconds, hdefault, hbool, htext, hlenient⟩
      exact ⟨⟨hkeys, hseconds, hdefault⟩, ⟨hhasEntries, hhasDefault.resolve_right hdefault⟩,
        ⟨htimeout, hbool, htext⟩, hdefaultText, hentries, hlenient⟩
  | _ => simp [menuSchema, objectType, MenuShape]

/-! ### The two descriptions -/

/-- The models accept the well-formed documents that are not oversized. -/
theorem bootManagerModel_iff {rt : LaxRuntime} {value : Json} :
    bootManagerModel rt value = true ↔ WellFormed rt value ∧ ¬ Oversized rt value := by
  cases value with
  | obj fields =>
    rw [bootManagerModel, modelType_obj_iff (by simp [ModelField.spellings])]
    simp only [List.forall_mem_cons, List.not_mem_nil, false_imp_iff, implies_true, and_true,
      fits_required_iff, fits_optional_iff, menuModel_iff, fallbackModel_iff, WellFormed,
      Json.obj.injEq, exists_eq_left']
    rw [← Fields.has_and_optAt_iff,
      optAt_and_not_iff (by simp [MenuOversized, NotConverted, Json.field]),
      ← Fields.has_and_optAt_iff]
    constructor
    · rintro ⟨hkeys, henabled, ⟨hhas, hmenu, hsize⟩, hfallback⟩
      exact ⟨⟨hkeys, henabled, ⟨hhas, hmenu⟩, hfallback⟩, hsize⟩
    · rintro ⟨⟨hkeys, henabled, ⟨hhas, hmenu⟩, hfallback⟩, hsize⟩
      exact ⟨hkeys, henabled, ⟨hhas, hmenu, hsize⟩, hfallback⟩
  | _ => simp [bootManagerModel, modelType, WellFormed]

/-- The schema accepts the well-formed documents that are not lenient. -/
theorem bootManagerSchema_iff (rt : LaxRuntime) {value : Json} :
    bootManagerSchema value = true ↔ WellFormed rt value ∧ ¬ Lenient value := by
  cases value with
  | obj fields =>
    rw [bootManagerSchema, closedObject_iff]
    simp only [List.forall_mem_cons, List.not_mem_nil, false_imp_iff, implies_true, and_true,
      booleanType_iff rt, menuSchema_iff rt, fallbackSchema_iff, WellFormed,
      Json.obj.injEq, exists_eq_left']
    rw [optAt_and_not_iff_at, at_iff_has_and_field,
      optAt_and_not_iff (by simp [MenuLenient, HasKey, IsText, Json.field]),
      optAt_and_not_iff (by simp [HasKey]), ← Fields.has_and_optAt_iff, Lenient, hasKey_obj_iff,
      not_or, not_or]
    constructor
    · rintro ⟨hkeys, hhas, ⟨hflag, hbool⟩, ⟨hmenu, hmenu'⟩, hfallback, hfallback'⟩
      exact ⟨⟨hkeys, hflag, ⟨hhas, hmenu⟩, hfallback⟩, hbool, hmenu', hfallback'⟩
    · rintro ⟨⟨hkeys, hflag, ⟨hhas, hmenu⟩, hfallback⟩, hbool, hmenu', hfallback'⟩
      exact ⟨hkeys, hhas, ⟨hflag, hbool⟩, ⟨hmenu, hmenu'⟩, hfallback, hfallback'⟩
  | _ => simp [bootManagerSchema, objectType, WellFormed]

/-- The two descriptions accept a document alike exactly when it is not well-formed, or neither
oversized nor lenient, or both. -/
theorem formats_agree_iff (rt : LaxRuntime) (value : Json) :
    (bootManagerModel rt value = true ↔ bootManagerSchema value = true) ↔
      (WellFormed rt value → (Oversized rt value ↔ Lenient value)) := by
  rw [bootManagerModel_iff, bootManagerSchema_iff rt]
  constructor
  · intro h hwell
    simpa [hwell, not_iff_not] using h
  · intro h
    refine and_congr_right fun hwell => ?_
    rw [h hwell]

/-- Conversions of plain decimal texts and of floats in the range of 64-bit integers. -/
def plainLaxRuntime : LaxRuntime where
  textToInt s := s.toInt?
  textToBool s := if s = "true" then some true else if s = "false" then some false else none
  floatToInt x := x.integral.filter fun i =>
    decide (-9223372036854775808 < i ∧ i < 9223372036854775808)
  integral_of_floatToInt h := (Option.filter_eq_some_iff.mp h).1

/-- A section with one entry, whose identifier is `ABC`. -/
def upperCaseSection : Json :=
  .obj [("menu", .obj [("defaultEntry", .str "ABC"), ("entries", .arr [.obj [("id", .str "ABC"),
    ("label", .obj [("es_ES", .str "Linux")]), ("action", .str "boot-installed-os")]])])]

/-- The models accept an identifier with capital letters, and the schema does not. -/
theorem formats_disagree :
    ¬ ∀ (rt : LaxRuntime) (value : Json),
      bootManagerModel rt value = true ↔ bootManagerSchema value = true := by
  intro h
  have hmodel : bootManagerModel plainLaxRuntime upperCaseSection = true := by decide +kernel
  have hschema : bootManagerSchema upperCaseSection = false := by decide +kernel
  rw [(h plainLaxRuntime upperCaseSection).mp hmodel] at hschema
  cases hschema

end ClassroomSuite.Config
