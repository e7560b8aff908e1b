import ClassroomSuite.Library.Assoc
import ClassroomSuite.Library.Disk
import ClassroomSuite.Python.Text

/-!
# Documents

A document is what the YAML loader returns: a tree of mappings and lists over scalars, with the
sets and pairs of the tags that produce them. A mapping keeps its entries in order; its keys are
scalars, which are all hashable. Lists, sets and mappings are not.

`ConfigException` lists what the configuration code raises: its own two errors, with their texts,
and the exceptions of the language and of the operating system that nothing in it catches.

## Main definitions

* `YamlScalar`, `Yaml`, `Document`.
* `Yaml.isHashable`, `Yaml.isSearchable`.
* `ConfigException`.
-/

namespace ClassroomSuite.Config

open Python Library

/-- A scalar of a document. Dates are given by their ISO text. -/
inductive YamlScalar where
  | null
  | bool (b : Bool)
  | int (i : ℤ)
  | float (x : PyFloat)
  | str (s : String)
  | bytes (bs : List UInt8)
  | date (iso : String)
  | datetime (iso : String)
  deriving DecidableEq

/-- What the loader makes of a document. A pair is an element of an ordered map. -/
inductive Yaml where
  | scalar (s : YamlScalar)
  | list (items : List Yaml)
  | pair (key value : Yaml)
  | set (keys : List YamlScalar)
  | dict (entries : List (YamlScalar × Yaml))

/-- A document whose root is a mapping. -/
abbrev Document := List (YamlScalar × Yaml)

/-- The value under a text key, or null. -/
def Document.get (d : Document) (key : String) : Yaml :=
  (d.lookup (.str key)).getD (.scalar .null)

/-- Whether a value has a hash. -/
def Yaml.isHashable : Yaml → Bool
  | .scalar _ => true
  | .pair key value => key.isHashable && value.isHashable
  | .list _ | .set _ | .dict _ => false

/-- Whether a value can be looked up in a set of texts. A value that is a set itself is looked up as
an immutable one. -/
def Yaml.isSearchable : Yaml → Bool
  | .set _ => true
  | value => value.isHashable

/-- What the configuration code raises. -/
inductive ConfigException where
  /-- `UsageError`. -/
  | usage (message : String)
  /-- `ConfigInvalidError`, with its list of errors. -/
  | configInvalid (message : String) (errors : List String)
  | unicodeDecodeError
  | typeError
  | attributeError
  /-- A path cannot be looked up. -/
  | osError (e : OSError)
  /-- Another exception of the language, with its text: a value cannot be loaded or written out. -/
  | other (text : String)
  deriving DecidableEq

end ClassroomSuite.Config
