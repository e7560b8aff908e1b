import ClassroomSuite.Python.Text

/-!
# JSON values

The values a JSON text is read into, with the operations of the host language that the program
applies to them and the exceptions these raise. An object keeps its keys in order, and a key has
one value.

## Main definitions

* `Json`, `Json.typeName`, `Json.truthy`, `Json.isHashable`.
* `PyError`, `PyError.Unhandled`: the exceptions, and those that are no value errors.
* `Json.get`: the method `get` of an object; `Json.field`: the same without the exception.

## Main results

* `Json.get_obj`, `Json.field_of_get`, `Json.get_eq_field`, `Json.isObj_iff`.
-/

namespace ClassroomSuite.Python

/-- A JSON value. -/
inductive Json where
  | null
  | bool (b : Bool)
  | int (i : ℤ)
  | float (x : PyFloat)
  | str (s : String)
  | arr (items : List Json)
  | obj (fields : List (String × Json))

/-- An exception: a value error or a subclass of it, or another with its class and text. -/
inductive PyError where
  | valueError (message : String)
  | validationError (message : String)
  | attributeError (message : String)
  | typeError (message : String)
  | recursionError (message : String)
  deriving DecidableEq, Repr

/-- Whether an exception is a value error. A failed validation is one. -/
def PyError.isValueError : PyError → Bool
  | .valueError _ | .validationError _ => true
  | .attributeError _ | .typeError _ | .recursionError _ => false

/-- The exception is no value error. -/
def PyError.Unhandled (e : PyError) : Prop := e.isValueError = false

@[simp] theorem PyError.not_unhandled_valueError (message : String) :
    ¬ (PyError.valueError message).Unhandled := Bool.noConfusion

@[simp] theorem PyError.not_unhandled_validationError (message : String) :
    ¬ (PyError.validationError message).Unhandled := Bool.noConfusion

@[simp] theorem PyError.unhandled_attributeError (message : String) :
    (PyError.attributeError message).Unhandled := rfl

@[simp] theorem PyError.unhandled_typeError (message : String) :
    (PyError.typeError message).Unhandled := rfl

@[simp] theorem PyError.unhandled_recursionError (message : String) :
    (PyError.recursionError message).Unhandled := rfl

/-- The text of an exception. -/
def PyError.str : PyError → String
  | .valueError message | .validationError message => message
  | .attributeError message | .typeError message | .recursionError message => message

namespace Json

/-- The name of the type of a value. -/
def typeName : Json → String
  | .null => "NoneType"
  | .bool _ => "bool"
  | .int _ => "int"
  | .float _ => "float"
  | .str _ => "str"
  | .arr _ => "list"
  | .obj _ => "dict"

/-- Whether a value counts as true. -/
def truthy : Json → Bool
  | .null => false
  | .bool b => b
  | .int i => i ≠ 0
  | .float x => x.truthy
  | .str s => s ≠ ""
  | .arr items => !items.isEmpty
  | .obj fields => !fields.isEmpty

/-- Whether a value is an object. -/
def isObj : Json → Bool
  | .obj _ => true
  | _ => false

/-- Whether a value can be an element of a set. -/
def isHashable : Json → Bool
  | .arr _ | .obj _ => false
  | _ => true

/-- The value under a key of an object, or a default; no other value has the method. -/
def get (value : Json) (key : String) (default : Json := .null) : Except PyError Json :=
  match value with
  | .obj fields => .ok ((fields.lookup key).getD default)
  | other => .error (.attributeError ("'" ++ other.typeName ++ "' object has no attribute 'get'"))

/-- The value under a key, or a default; a value that is no object has no keys. -/
def field (value : Json) (key : String) (default : Json := .null) : Json :=
  match value with
  | .obj fields => (fields.lookup key).getD default
  | _ => default

@[simp] theorem get_obj (fields : List (String × Json)) (key : String) (default : Json) :
    (Json.obj fields).get key default = .ok ((fields.lookup key).getD default) := rfl

/-- What the method returns is the value under the key. -/
theorem field_of_get {value x default : Json} {key : String}
    (h : value.get key default = .ok x) : value.field key default = x := by
  cases value with
  | obj fields => exact Except.ok.inj h
  | _ => cases h

/-- An object has the method. -/
theorem get_eq_field {value : Json} (h : value.isObj = true) (key : String)
    (default : Json) : value.get key default = .ok (value.field key default) := by
  cases value with
  | obj fields => rfl
  | _ => cases h

theorem isObj_iff {value : Json} : value.isObj = true ↔ ∃ fields, value = .obj fields := by
  cases value with
  | obj fields => simp [isObj]
  | _ => simp [isObj]

end Json

end ClassroomSuite.Python
