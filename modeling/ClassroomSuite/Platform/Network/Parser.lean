import ClassroomSuite.Python.Validation

/-!
# Parsing the network interfaces

The status of the interfaces is read from the JSON output of one tool. The fields of an entry are
checked one by one; an address counts if its family is one of the two known ones, and this is
looked up in a set.

Source: `cli/src/bcs/platform/adapters/network/parser.py`,
`cli/src/bcs/platform/adapters/network/models.py`.

## Main definitions

* `NetworkInterface`, `NetworkInterfaceStatus`.
* `parseEntry`, `parseNetworkInterfaces`.
-/

namespace ClassroomSuite.Platform.Network

open Python Library

/-- A network interface. -/
structure NetworkInterface where
  name : String
  macAddress : Option String := none
  ipAddresses : List String := []
  isUp : Bool
  isLoopback : Bool
  deriving DecidableEq, Repr

/-- The interfaces, and the text they were read from. -/
structure NetworkInterfaceStatus where
  interfaces : List NetworkInterface := []
  rawText : String
  deriving DecidableEq, Repr

variable (rt : ModelRuntime)

/-- A field whose value is a list of texts, from the element at `index` on. -/
def textsField (field : String) : List String → (index : ℕ := 0) → Checked (List String)
  | [], _ => .ok []
  | s :: ss, index => ((textField rt (field ++ "." ++ toString index) s).both
      (textsField field ss (index + 1))).map fun (s, ss) => s :: ss

/-- Validate an interface. -/
def NetworkInterface.make (name : String) (macAddress : Option String) (ipAddresses : List String)
    (isUp isLoopback : Bool) : Except PyError NetworkInterface :=
  construct rt "NetworkInterface" do
    let (name, macAddress, ipAddresses) ← (textField rt "name" name).both <|
      (optionalTextField rt "macAddress" (optionalText macAddress)).both <|
      textsField rt "ipAddresses" ipAddresses
    return { name, macAddress, ipAddresses, isUp, isLoopback }

/-- Validate what was read. -/
def NetworkInterfaceStatus.make (interfaces : List NetworkInterface) (rawText : String) :
    Except PyError NetworkInterfaceStatus :=
  construct rt "NetworkInterfaceStatus" do
    let rawText ← textField rt "rawText" rawText
    return { interfaces, rawText }

/-- The address that counts as none (`_NULL_MAC`). -/
def nullMac : String := "00:00:00:00:00:00"

/-- `_IP_FAMILIES`. -/
def ipFamilies : List String := ["inet", "inet6"]

/-- The array in an output. -/
def loadJsonArray (text : String) : Except PyError (List Json) :=
  match rt.loads text with
  | .error problem => .error (.valueError ("output is not valid JSON: " ++ problem))
  | .ok (.arr items) => .ok items
  | .ok data => .error (.valueError
      ("expected a JSON array at the top level, got " ++ data.typeName))

/-- The text of a value, if it is one that is not empty. -/
def nonemptyText : Json → Option String
  | .str s => if s = "" then none else some s
  | _ => none

/-- What an error says of the entry it is about. -/
def entryText (index : ℕ) : String := "entry " ++ toString index ++ ": "

/-- The name of an interface. -/
def interfaceName (entry : Json) (index : ℕ) : Except PyError String := do
  match nonemptyText (← entry.get "ifname") with
  | some name => return name
  | none => throw (.valueError (entryText index ++ "missing or empty 'ifname'"))

/-- The texts among the flags. -/
def extractFlags (flags : Json) (index : ℕ) : Except PyError (List String) :=
  match flags with
  | .arr items => .ok (items.filterMap fun
      | .str flag => some flag
      | _ => none)
  | _ => .error (.valueError (entryText index ++ "'flags' is not a JSON array"))

/-- The address of an interface, unless it is absent or null. -/
def macAddress (mac : Json) : Option String :=
  match mac with
  | .null => none
  | .str s => if s = nullMac then none else some s
  | value => some (pyStr rt value)

/-- Whether the family is a known one, by a lookup in a set. -/
def isIpFamily (family : Json) : Except PyError Bool :=
  if family.isHashable then
    match family with
    | .str s => .ok (decide (s ∈ ipFamilies))
    | _ => .ok false
  else .error (.typeError ("unhashable type: '" ++ family.typeName ++ "'"))

/-- The address that an element of the address list has. -/
def localAddress (info : Json) : Except PyError (Option String) :=
  if info.isObj then do
    let known ← isIpFamily (← info.get "family")
    if known then return nonemptyText (← info.get "local") else return none
  else .ok none

/-- The addresses that are listed. -/
def extractIpAddresses (addrInfo : Json) : Except PyError (List String) :=
  match addrInfo with
  | .arr infos => do return (← infos.mapM localAddress).reduceOption
  | _ => .ok []

/-- An interface from an entry, which is named by its index in an error. -/
def parseEntry (entry : Json) (index : ℕ) : Except PyError NetworkInterface :=
  if entry.isObj then do
    let name ← interfaceName entry index
    let flags ← extractFlags (← entry.get "flags") index
    let mac ← entry.get "address"
    let ipAddresses ← extractIpAddresses (← entry.get "addr_info")
    NetworkInterface.make rt name (macAddress rt mac) ipAddresses
      (decide ("UP" ∈ flags) && decide ("LOWER_UP" ∈ flags)) (decide ("LOOPBACK" ∈ flags))
  else .error (.valueError (entryText index ++ "expected a JSON object, got " ++ entry.typeName))

/-- The interfaces that are listed in an output. -/
def parseNetworkInterfaces (text : String) : Except PyError NetworkInterfaceStatus := do
  let raw ← loadJsonArray rt text
  let interfaces ← (raw.zipIdx 1).mapM fun (entry, index) => parseEntry rt entry index
  NetworkInterfaceStatus.make rt interfaces text

end ClassroomSuite.Platform.Network
