import ClassroomSuite.Python.LaxModel

/-!
# Schemas and models as terms

A schema is written down as a document, and a model as a class with fields. Here both are terms,
which say by recursion what values they accept. The engines that search texts for patterns, one for
schemas and one for models, and the check of formats are parameters.

## Main definitions

* `FormatRuntime`.
* `SchemaTerm`, `SchemaTerm.accepts`.
* `FieldHead`, `ModelTerm`, `ModelTerm.accepts`.
-/

namespace ClassroomSuite.Python

/-- What validation does with texts and numbers: the conversions, whether a pattern is found in a
text, for which schemas and models have engines of their own, and whether a text has a format. A
validator of schemas that does not check formats finds every text to have them. -/
structure FormatRuntime extends LaxRuntime where
  schemaSearch : String → String → Bool
  modelSearch : String → String → Bool
  hasFormat : String → String → Bool

/-! ### Schemas -/

/-- A schema, as it is written. An object has no properties but those declared and, if it is open,
those whose keys start with `x-`. -/
inductive SchemaTerm where
  | any
  | boolean
  | constFalse
  | integer (minimum : ℤ)
  | text (pattern : Option String) (format : Option String := none)
  | enum (texts : List String)
  | array (minItems : ℕ) (items : SchemaTerm)
  | map (minProperties : ℕ) (values : SchemaTerm)
  | object (required : List String) (isOpen : Bool) (properties : List (String × SchemaTerm))

/-- `const: false`, with `type: boolean`. -/
def constFalseType : Schema
  | .bool b => !b
  | _ => false

/-- Whether a key is one for extensions, the pattern `^x-`. -/
def isExtensionKey (key : String) : Bool := "x-".toList.isPrefixOf key.toList

/-- `type: object`, with `properties`, `required` and `additionalProperties: false`, and with
`patternProperties` for the keys that `extra` accepts. -/
def declaredObject (properties : List (String × Schema)) (required : List String)
    (extra : String → Bool) : Schema
  | .obj fields =>
    required.all (fun key => (fields.lookup key).isSome) &&
      properties.all (fun property => (fields.lookup property.1).all property.2) &&
      fields.all (fun field => (properties.map Prod.fst).contains field.1 || extra field.1)
  | _ => false

/-- The extra keys of an object. -/
def extraKeys (isOpen : Bool) (key : String) : Bool := isOpen && isExtensionKey key

section Schemas

variable (rt : FormatRuntime)

mutual

/-- The values that a schema accepts. -/
def SchemaTerm.accepts : SchemaTerm → Schema
  | .any => fun _ => true
  | .boolean => booleanType
  | .constFalse => constFalseType
  | .integer minimum => integerType minimum
  | .text pattern format => stringType fun s =>
    (pattern.all fun p => rt.schemaSearch p s) && format.all fun f => rt.hasFormat f s
  | .enum texts => stringType texts.contains
  | .array minItems items => arrayType minItems items.accepts
  | .map minProperties values => objectType [] [] values.accepts minProperties
  | .object required isOpen properties =>
    declaredObject (acceptsAll properties) required (extraKeys isOpen)

/-- The properties of an object, with the values that their schemas accept. -/
def acceptsAll : List (String × SchemaTerm) → List (String × Schema)
  | [] => []
  | (key, schema) :: properties => (key, schema.accepts) :: acceptsAll properties

end

end Schemas

/-! ### Models -/

/-- What is declared of a field, but for its type. -/
structure FieldHead where
  name : String
  aliasName : Option String := none
  required : Bool := false
  nullable : Bool := false
  deriving DecidableEq

/-- The type of a field, as it is declared. An extensible model has no extra keys but those that
start with `x-`; the other models have none. -/
inductive ModelTerm where
  | any
  | bool
  | literalFalse
  | int (ge : ℤ)
  | str (pattern : Option String)
  | literal (texts : List String)
  | list (minLength : ℕ) (item : ModelTerm)
  | dict (minLength : ℕ) (item : ModelTerm)
  | model (isExtensible : Bool) (fields : List (FieldHead × ModelTerm))

/-- `Literal[False]`. -/
def literalFalseField : LaxType
  | .bool b => !b
  | _ => false

/-- `str`, with `pattern`. -/
def patternField (allowed : String → Bool) : LaxType
  | .str s => allowed s
  | _ => false

/-- A type, or that type or `None`. -/
def nullableField (nullable : Bool) (accepts : LaxType) : LaxType
  | .null => nullable || accepts .null
  | value => accepts value

/-- A model that is populated by name, and allows the extra keys that `extra` accepts. -/
def openModelType (extra : String → Bool) (model : List ModelField) : LaxType
  | .obj fields =>
    model.all (fun field => match field.key fields with
      | some key => (fields.lookup key).all field.accepts
      | none => !field.required) &&
    fields.all fun entry =>
      extra entry.1 || model.any fun field => field.key fields = some entry.1
  | _ => false

section Models

variable (rt : FormatRuntime)

mutual

/-- The values that a model accepts. -/
def ModelTerm.accepts : ModelTerm → LaxType
  | .any => fun _ => true
  | .bool => boolField rt.toLaxRuntime
  | .literalFalse => literalFalseField
  | .int ge => intField rt.toLaxRuntime ge
  | .str pattern => patternField fun s => pattern.all fun p => rt.modelSearch p s
  | .literal texts => literalField texts
  | .list minLength item => listField minLength item.accepts
  | .dict minLength item => dictField minLength item.accepts
  | .model isExtensible fields => openModelType (extraKeys isExtensible) (modelFields fields)

/-- The fields of a model, with the values that their types accept. -/
def modelFields : List (FieldHead × ModelTerm) → List ModelField
  | [] => []
  | (head, type) :: fields =>
    ⟨head.name, head.aliasName, head.required, nullableField head.nullable type.accepts⟩ ::
      modelFields fields

end

end Models

end ClassroomSuite.Python
