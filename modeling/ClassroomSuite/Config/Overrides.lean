import ClassroomSuite.Config.Document
import ClassroomSuite.Library.Hoare
import ClassroomSuite.Library.Text

/-!
# Overrides

Values of a document are overridden by `BCS_CFG_*` variables and then by `--set` items. Both write
through `setByPath`, which changes the document in place: it is a computation whose state is the
document, so that what an exception leaves behind can be spoken of.

Source: `cli/src/bcs/config/overrides.py`.

## Main definitions

* `splitPath`, `getByPath`, `setByPath`, `coerceScalar`, `parseSetOption`, `applySetOverrides`.
* `findActualKey`, `envKeyToPath`, `applyEnvOverrides`.

## Main results

* `applySetOverrides_nil`, `applyEnvOverrides_of_no_override`: without overrides the document is
  unchanged.
-/

namespace ClassroomSuite.Config

open Python Library

/-- Computations on a document. -/
abbrev DocumentM := EStateM ConfigException Document

/-- The prefix of the variables that override values (`_ENV_PREFIX`). -/
def envPrefix : String := "BCS_CFG_"

/-- The texts between the separators. -/
def splitOnChar (sep : Char) (s : String) : List String :=
  (s.toList.splitOn sep).map String.ofList

/-- The segments of a dotted path. -/
def splitPath (path : String) : Except ConfigException (List String) :=
  if path = "" then .error (.usage "empty configuration path") else .ok (splitOnChar '.' path)

/-- The element of a list at an index, which counts from the end when it is negative. -/
def listItem {α : Type} (items : List α) (index : ℤ) : Option α :=
  if 0 ≤ index then items[index.toNat]?
  else if 0 ≤ items.length + index then items[(items.length + index).toNat]?
  else none

/-- Read the value below `node` along the segments; those that lead into a list are indices. -/
def getSegments (rt : TextRuntime) (path : String) :
    List String → Yaml → Except ConfigException Yaml
  | [], node => .ok node
  | segment :: rest, .dict entries =>
    match entries.lookup (.str segment) with
    | none =>
      .error (.usage ("no such field: " ++ rt.repr path ++ " (missing at " ++ rt.repr segment
        ++ ")"))
    | some child => getSegments rt path rest child
  | segment :: rest, .list items =>
    match rt.parseInt segment with
    | none =>
      .error (.usage ("expected a numeric index at " ++ rt.repr segment ++ " in " ++ rt.repr path))
    | some index =>
      match listItem items index with
      | none =>
        .error (.usage ("index " ++ toString index ++ " out of range in " ++ rt.repr path))
      | some child => getSegments rt path rest child
  | segment :: _, _ =>
    .error (.usage ("cannot descend into scalar value at " ++ rt.repr segment ++ " in "
      ++ rt.repr path))

/-- Read the value at a dotted path. -/
def getByPath (rt : TextRuntime) (d : Document) (path : String) : Except ConfigException Yaml :=
  match splitPath path with
  | .error e => .error e
  | .ok segments => getSegments rt path segments (.dict d)

/-- Write `value` below `node` along the segments, creating mappings where there is nothing. The
result is the mapping afterwards, and the exception if one was raised. -/
def setSegments (rt : TextRuntime) (path : String) (value : Yaml) :
    List String → Document → Document × Option ConfigException
  | [], node => (node, none)
  | [last], node => (assocSet (.str last) value node, none)
  | segment :: rest, node =>
    match node.get segment with
    | .scalar .null =>
      let after := setSegments rt path value rest []
      (assocSet (.str segment) (.dict after.1) node, after.2)
    | .dict child =>
      let after := setSegments rt path value rest child
      (assocSet (.str segment) (.dict after.1) node, after.2)
    | _ =>
      (node, some (.usage ("cannot descend into non-mapping value at " ++ rt.repr segment ++ " in "
        ++ rt.repr path)))

/-- Write a value at a dotted path. -/
def setByPath (rt : TextRuntime) (path : String) (value : Yaml) : DocumentM Unit := fun d =>
  match splitPath path with
  | .error e => .error e d
  | .ok segments =>
    match setSegments rt path value segments d with
    | (d', none) => .ok () d'
    | (d', some e) => .error e d'

/-- The value a raw text stands for. -/
def coerceScalar (rt : TextRuntime) (raw : String) : Yaml :=
  let lowered := rt.lower (rt.strip raw)
  if lowered = "true" ∨ lowered = "false" then .scalar (.bool (lowered = "true"))
  else if lowered = "null" ∨ lowered = "~" ∨ lowered = "none" then .scalar .null
  else match rt.parseInt raw with
    | some i => .scalar (.int i)
    | none =>
      match rt.parseFloat raw with
      | some x => .scalar (.float x)
      | none => .scalar (.str raw)

/-- The path and the value of one `--set` item. -/
def parseSetOption (rt : TextRuntime) (item : String) : Except ConfigException (String × Yaml) :=
  if '=' ∉ item.toList then .error (.usage ("--set expects path=value, got " ++ rt.repr item))
  else
    let (path, rawValue) := partitionAt '=' item
    if rt.strip path = "" then
      .error (.usage ("--set expects a non-empty path, got " ++ rt.repr item))
    else .ok (rt.strip path, coerceScalar rt rawValue)

/-- The text of an item is a path, with white space around it or not, and a value behind the first
equals sign. -/
def SetsValue (rt : TextRuntime) (item : String) (write : String × Yaml) : Prop :=
  ∃ name rawValue, item = name ++ "=" ++ rawValue ∧ '=' ∉ name.toList ∧ rt.strip name = write.1 ∧
    write.1 ≠ "" ∧ coerceScalar rt rawValue = write.2

/-- The path and the value of an item are those that its text has. -/
theorem parseSetOption_eq_ok_iff {rt : TextRuntime} {item : String} {write : String × Yaml} :
    parseSetOption rt item = .ok write ↔ SetsValue rt item write := by
  constructor
  · intro h
    have hequals : '=' ∈ item.toList := by
      by_contra hequals
      rw [parseSetOption, if_pos hequals] at h
      cases h
    have hitem : item = (partitionAt '=' item).1 ++ "=" ++ (partitionAt '=' item).2 :=
      (eq_partitionAt '=' item).resolve_left fun hitem =>
        notMem_partitionAt '=' item (hitem ▸ hequals)
    rw [parseSetOption, if_neg (not_not.mpr hequals)] at h
    dsimp only at h
    by_cases hname : rt.strip (partitionAt '=' item).1 = ""
    · rw [if_pos hname] at h
      cases h
    · rw [if_neg hname] at h
      cases h
      exact ⟨_, _, hitem, notMem_partitionAt '=' item, rfl, hname, rfl⟩
  · obtain ⟨path, value⟩ := write
    rintro ⟨name, rawValue, rfl, hequals, hname, hne, hvalue⟩
    have hmem : '=' ∈ (name ++ "=" ++ rawValue).toList := by simp
    have hpartition : partitionAt '=' (name ++ "=" ++ rawValue) = (name, rawValue) :=
      partitionAt_append hequals rawValue
    rw [parseSetOption, if_neg (not_not.mpr hmem), hpartition]
    dsimp only
    rw [hname, hvalue, if_neg hne]

/-- Apply the `--set` items in the order given. -/
def applySetOverrides (rt : TextRuntime) : List String → DocumentM Unit
  | [] => pure ()
  | item :: items =>
    match parseSetOption rt item with
    | .error e => throw e
    | .ok (path, value) => do
      setByPath rt path value
      applySetOverrides rt items

/-- The first key that is `segment` in upper case. Only texts and bytes have an upper case, and
no bytes equal a text. -/
def findActualKey (rt : TextRuntime) (segment : String) :
    List YamlScalar → Except ConfigException (Option String)
  | [] => .ok none
  | .str key :: keys =>
    if rt.upper key = segment then .ok (some key) else findActualKey rt segment keys
  | .bytes _ :: keys => findActualKey rt segment keys
  | _ :: _ => .error .attributeError

/-- The path segments a variable's segments stand for, below `node`: the keys of the mapping where
they exist, and lower case where they do not. -/
def resolveSegments (rt : TextRuntime) : List String → Yaml → Except ConfigException (List String)
  | [], _ => .ok []
  | segment :: segments, .dict entries =>
    match findActualKey rt segment (entries.map Prod.fst) with
    | .error e => .error e
    | .ok found =>
      let actual := match found with
        | some key => if key = "" then rt.lower segment else key
        | none => rt.lower segment
      match resolveSegments rt segments (Document.get entries actual) with
      | .error e => .error e
      | .ok rest => .ok (actual :: rest)
  | segments, _ => .ok (segments.map rt.lower)

/-- The dotted path a variable overrides. -/
def envKeyToPath (rt : TextRuntime) (envKey : String) (d : Document) :
    Except ConfigException String :=
  let segments := splitOnChar '_' (String.ofList (envKey.toList.drop envPrefix.length))
  match resolveSegments rt segments (.dict d) with
  | .error e => .error e
  | .ok resolved => .ok (".".intercalate resolved)

/-- Apply the `BCS_CFG_*` variables in the order of the environment. -/
def applyEnvOverrides (rt : TextRuntime) : List (String × String) → DocumentM Unit
  | [] => pure ()
  | (key, rawValue) :: env => do
    if startsWith key envPrefix then
      match envKeyToPath rt key (← get) with
      | .error e => throw e
      | .ok path => setByPath rt path (coerceScalar rt rawValue)
    applyEnvOverrides rt env

@[simp] theorem applySetOverrides_nil (rt : TextRuntime) (d : Document) :
    applySetOverrides rt [] d = .ok () d := rfl

/-- An environment without override variables leaves the document as it is. -/
theorem applyEnvOverrides_of_no_override (rt : TextRuntime) {env : List (String × String)}
    (h : ∀ v ∈ env, startsWith v.1 envPrefix = false) (d : Document) :
    applyEnvOverrides rt env d = .ok () d := by
  induction env with
  | nil => rfl
  | cons v env ih =>
    obtain ⟨hv, henv⟩ := List.forall_mem_cons.mp h
    simp [applyEnvOverrides, hv, ih henv]

end ClassroomSuite.Config
