import ClassroomSuite.Config.Loader
import ClassroomSuite.Library.LastWriter
import ClassroomSuite.Library.Traversal

/-!
# Which override prevails

A value set with `--set` takes precedence over one of a `BCS_CFG_*` variable, and that over the
value of the file. Both kinds of override are written into one document, and the name of a variable
is read against the document as the variables before it have left it. Reading and writing at dotted
paths are the operations of a `PathStore`, in which the last write that concerns a path decides what
is read there.

Source: `cli/src/bcs/config/overrides.py`, `cli/src/bcs/config/loader.py`.

## Main definitions

* `IndependentPaths`, `documentStore`.
* `resolvedVariables`: the variables that override a value, with the paths they are read as.
* `Prevails`: the precedence of the three sources.

## Main results

* `ConfigLoader.loadRaw_prevails`.
-/

namespace ClassroomSuite.Config

open Python Library

/-! ### Reading after a write -/

/-- Neither of two dotted paths leads to the other, segment by segment. -/
def IndependentPaths (p q : String) : Prop := Independent (splitOnChar '.' p) (splitOnChar '.' q)

/-- A segment leads to the value of its key. -/
theorem getSegments_dict {rt : TextRuntime} {path segment : String} {rest : List String}
    {entries : Document} {child : Yaml} (h : entries.lookup (.str segment) = some child) :
    getSegments rt path (segment :: rest) (.dict entries) = getSegments rt path rest child := by
  simp only [getSegments, h]

/-- What is read below a mapping is read below the value of the first segment. -/
theorem getSegments_cons_ok {rt : TextRuntime} {path segment : String} {rest : List String}
    {entries : Document} {x : Yaml}
    (h : getSegments rt path (segment :: rest) (.dict entries) = .ok x) :
    ∃ child, entries.lookup (.str segment) = some child ∧
      getSegments rt path rest child = .ok x := by
  cases hlook : entries.lookup (.str segment) with
  | none =>
    rw [getSegments, hlook] at h
    cases h
  | some child => exact ⟨child, rfl, (getSegments_dict hlook).symm.trans h⟩

/-- A mapping that is found is the value of its key. -/
theorem Document.lookup_of_get_dict {d child : Document} {segment : String}
    (h : d.get segment = .dict child) : d.lookup (.str segment) = some (.dict child) := by
  cases hlook : d.lookup (.str segment) with
  | none =>
    rw [Document.get, hlook] at h
    cases h
  | some value =>
    rw [Document.get, hlook] at h
    exact congrArg some h

/-- Nothing is read below a null. -/
theorem getSegments_null_ok {rt : TextRuntime} {path segment : String} {rest : List String}
    {entries : Document} {x : Yaml} (hnull : entries.get segment = .scalar .null)
    (h : getSegments rt path (segment :: rest) (.dict entries) = .ok x) :
    rest = [] ∧ x = .scalar .null := by
  obtain ⟨child, hlook, hchild⟩ := getSegments_cons_ok h
  rw [Document.get, hlook, Option.getD_some] at hnull
  subst hnull
  cases rest with
  | nil => exact ⟨rfl, (Except.ok.inj hchild).symm⟩
  | cons next rest => cases hchild

/-- A write below a segment that is not the last one changes the mapping under its key. -/
theorem setSegments_cons_ok {rt : TextRuntime} {path segment next : String} {value : Yaml}
    {rest : List String} {d d' : Document}
    (h : setSegments rt path value (segment :: next :: rest) d = (d', none)) :
    ∃ child after, (d.get segment = .scalar .null ∧ child = [] ∨ d.get segment = .dict child) ∧
      setSegments rt path value (next :: rest) child = (after, none) ∧
      d' = assocSet (.str segment) (.dict after) d := by
  simp only [setSegments] at h
  split at h
  case h_1 hnull =>
    obtain ⟨rfl, hnone⟩ := Prod.mk.inj h
    exact ⟨[], _, .inl ⟨hnull, rfl⟩, Prod.ext rfl hnone, rfl⟩
  case h_2 child hchild =>
    obtain ⟨rfl, hnone⟩ := Prod.mk.inj h
    exact ⟨child, _, .inr hchild, Prod.ext rfl hnone, rfl⟩
  case h_3 => cases h

/-- What is written along some segments is read along them. -/
theorem getSegments_setSegments {rt : TextRuntime} {path path' : String} {value : Yaml}
    {segments : List String} (hne : segments ≠ []) {d d' : Document}
    (h : setSegments rt path value segments d = (d', none)) :
    getSegments rt path' segments (.dict d') = .ok value := by
  induction segments generalizing d d' with
  | nil => exact absurd rfl hne
  | cons segment rest ih =>
    cases rest with
    | nil =>
      obtain ⟨rfl, -⟩ := Prod.mk.inj h
      exact getSegments_dict (by rw [lookup_assocSet, if_pos rfl])
    | cons next rest =>
      obtain ⟨child, after, -, hwrite, rfl⟩ := setSegments_cons_ok h
      rw [getSegments_dict (by rw [lookup_assocSet, if_pos rfl])]
      exact ih (List.cons_ne_nil _ _) hwrite

/-- Along segments that a mapping has not, nothing is read. -/
theorem getSegments_nil_ne_ok {rt : TextRuntime} {path : String} {segments : List String} {x : Yaml}
    (hne : segments ≠ []) : getSegments rt path segments (.dict []) ≠ .ok x := by
  cases segments with
  | nil => exact absurd rfl hne
  | cons segment rest =>
    rw [getSegments]
    exact fun h => by cases h

/-- A write along some segments leaves what is read along independent ones. -/
theorem getSegments_setSegments_other {rt : TextRuntime} {path path' : String} {value x : Yaml}
    {p q : List String} (hind : Independent p q) {d d' : Document}
    (hwrite : setSegments rt path value q d = (d', none)) :
    getSegments rt path' p (.dict d') = .ok x ↔ getSegments rt path' p (.dict d) = .ok x := by
  induction q generalizing p d d' with
  | nil => exact absurd hind not_independent_nil_right
  | cons segment rest ih =>
    cases p with
    | nil => exact absurd hind not_independent_nil
    | cons a p =>
      rw [independent_cons_iff] at hind
      by_cases ha : a = segment
      · subst ha
        have hind := hind rfl
        have hp : p ≠ [] := fun h => not_independent_nil (h ▸ hind)
        cases rest with
        | nil => exact absurd hind not_independent_nil_right
        | cons next rest =>
          obtain ⟨old, after, hold, hafter, rfl⟩ := setSegments_cons_ok hwrite
          rw [getSegments_dict (by rw [lookup_assocSet, if_pos rfl]), ih hind hafter]
          rcases hold with ⟨hnull, rfl⟩ | hdict
          · -- nothing is read below a null, and `p` has a segment
            exact iff_of_false (getSegments_nil_ne_ok hp) fun hread =>
              hp (getSegments_null_ok hnull hread).1
          · rw [getSegments_dict (Document.lookup_of_get_dict hdict)]
      · have hlook : d'.lookup (.str a) = d.lookup (.str a) := by
          have hkey : YamlScalar.str a ≠ .str segment := fun h => ha (YamlScalar.str.inj h)
          cases rest with
          | nil =>
            obtain ⟨rfl, -⟩ := Prod.mk.inj hwrite
            rw [lookup_assocSet, if_neg hkey]
          | cons next rest =>
            obtain ⟨old, after, -, -, rfl⟩ := setSegments_cons_ok hwrite
            rw [lookup_assocSet, if_neg hkey]
        simp only [getSegments, hlook]

/-- A write that returns is one along the segments of its path. -/
theorem setByPath_ok {rt : TextRuntime} {path : String} {value : Yaml} {d d' : Document}
    (h : setByPath rt path value d = .ok () d') :
    splitPath path = .ok (splitOnChar '.' path) ∧
      setSegments rt path value (splitOnChar '.' path) d = (d', none) := by
  by_cases hpath : path = ""
  · simp [setByPath, splitPath, hpath] at h
  · have hsplit : splitPath path = .ok (splitOnChar '.' path) := if_neg hpath
    simp only [setByPath, hsplit] at h
    split at h
    case h_1 after hset =>
      cases h
      exact ⟨hsplit, hset⟩
    case h_2 => cases h

theorem splitOnChar_ne_nil (sep : Char) (s : String) : splitOnChar sep s ≠ [] := fun h =>
  List.splitOnP_ne_nil _ _ (List.map_eq_nil_iff.mp h)

/-- Documents are read and written at dotted paths. -/
def documentStore (rt : TextRuntime) : PathStore Document String Yaml where
  read d path := (getByPath rt d path).toOption
  Writes path value d d' := setByPath rt path value d = .ok () d'
  Independent := IndependentPaths
  read_written := by
    intro path value d d' h
    obtain ⟨hsplit, hset⟩ := setByPath_ok h
    rw [toOption_eq_some_iff, getByPath, hsplit]
    exact getSegments_setSegments (splitOnChar_ne_nil _ _) hset
  read_other := by
    intro p q value x d d' hind hwrite hread
    rw [toOption_eq_some_iff, getByPath] at hread ⊢
    obtain ⟨-, hset⟩ := setByPath_ok hwrite
    by_cases hp : p = ""
    · simp [splitPath, hp] at hread
    · have hsplit : splitPath p = .ok (splitOnChar '.' p) := if_neg hp
      rw [hsplit] at hread ⊢
      exact (getSegments_setSegments_other hind hset).mpr hread

/-! ### The writes of the overrides -/

/-- The variables that override a value, in the order of the environment, each with the path it is
read as in the document the variables before it have left. -/
def resolvedVariables (rt : TextRuntime) :
    List (String × String) → Document → List ((String × String) × String)
  | [], _ => []
  | (key, rawValue) :: env, d =>
    if startsWith key envPrefix then
      match envKeyToPath rt key d with
      | .error _ => []
      | .ok path =>
        ((key, rawValue), path) ::
          resolvedVariables rt env (finalState (setByPath rt path (coerceScalar rt rawValue)) d)
    else resolvedVariables rt env d

/-- What a variable writes. -/
def variableWrite (rt : TextRuntime) (v : (String × String) × String) : String × Yaml :=
  (v.2, coerceScalar rt v.1.2)

/-- The environment is applied by the writes of its override variables, of which none is left
out. -/
theorem applyEnvOverrides_writesAll {rt : TextRuntime} {env : List (String × String)}
    {d d' : Document} (h : applyEnvOverrides rt env d = .ok () d') :
    (documentStore rt).WritesAll ((resolvedVariables rt env d).map (variableWrite rt)) d d' ∧
      (resolvedVariables rt env d).map Prod.fst =
        env.filter fun v => startsWith v.1 envPrefix := by
  induction env generalizing d with
  | nil =>
    cases h
    exact ⟨.nil _, rfl⟩
  | cons v env ih =>
    obtain ⟨key, rawValue⟩ := v
    cases hkey : startsWith key envPrefix with
    | false =>
      simp only [applyEnvOverrides, hkey, Bool.false_eq_true, if_false] at h
      simp only [resolvedVariables, hkey, Bool.false_eq_true, if_false, List.filter_cons]
      exact ih h
    | true =>
      simp only [applyEnvOverrides, hkey, if_true] at h
      obtain ⟨d₀, d₁, hget, hwrite⟩ := bind_apply_eq_ok_iff.mp h
      cases hget
      cases hpath : envKeyToPath rt key d with
      | error e =>
        rw [hpath] at hwrite
        cases hwrite
      | ok path =>
        rw [hpath] at hwrite
        obtain ⟨u, middle, hwrite, hrest⟩ := bind_apply_eq_ok_iff.mp hwrite
        obtain ⟨hall, hlist⟩ := ih hrest
        have hmiddle : finalState (setByPath rt path (coerceScalar rt rawValue)) d = middle := by
          rw [finalState, hwrite]
        simp only [resolvedVariables, hkey, if_true, hpath, hmiddle, List.map_cons,
          List.filter_cons, hlist, and_true]
        exact .cons hwrite hall

/-- The `--set` items are applied by their writes. -/
theorem applySetOverrides_writesAll {rt : TextRuntime} {items : List String} {d d' : Document}
    (h : applySetOverrides rt items d = .ok () d') :
    ∃ sets, items.mapM (parseSetOption rt) = .ok sets ∧
      (documentStore rt).WritesAll sets d d' := by
  induction items generalizing d with
  | nil =>
    cases h
    exact ⟨[], rfl, .nil _⟩
  | cons item items ih =>
    rw [applySetOverrides] at h
    cases hitem : parseSetOption rt item with
    | error e =>
      rw [hitem] at h
      cases h
    | ok write =>
      rw [hitem] at h
      obtain ⟨u, middle, hwrite, hrest⟩ := bind_apply_eq_ok_iff.mp h
      obtain ⟨sets, hsets, hall⟩ := ih hrest
      refine ⟨write :: sets, ?_, .cons hwrite hall⟩
      rw [List.mapM_cons, hitem, hsets]
      rfl

/-! ### The precedence -/

/-- The precedence among the `--set` items, the variables and the file, where the paths are
independent of those that are written later. -/
structure Prevails (rt : TextRuntime) (sets : List (String × Yaml))
    (vars : List ((String × String) × String)) (file result : Document) : Prop where
  /-- An item prevails over the items before it, the variables and the file. -/
  set : ∀ before path value after, sets = before ++ (path, value) :: after →
    (∀ w ∈ after, IndependentPaths path w.1) → getByPath rt result path = .ok value
  /-- A variable prevails over the variables before it and the file. -/
  env : ∀ before var path after, vars = before ++ (var, path) :: after →
    (∀ v ∈ after, IndependentPaths path v.2) → (∀ w ∈ sets, IndependentPaths path w.1) →
    getByPath rt result path = .ok (coerceScalar rt var.2)
  /-- What nothing overrides is as in the file. -/
  file : ∀ path value, getByPath rt file path = .ok value →
    (∀ v ∈ vars, IndependentPaths path v.2) → (∀ w ∈ sets, IndependentPaths path w.1) →
    getByPath rt result path = .ok value

/-- Writing the variables and then the items gives each its precedence. -/
theorem prevails_of_writesAll {rt : TextRuntime} {sets : List (String × Yaml)}
    {vars : List ((String × String) × String)} {file middle result : Document}
    (henv : (documentStore rt).WritesAll (vars.map (variableWrite rt)) file middle)
    (hsets : (documentStore rt).WritesAll sets middle result) :
    Prevails rt sets vars file result where
  set before path value after hsplit hafter := by
    rw [hsplit] at hsets
    exact toOption_eq_some_iff.mp (hsets.read_last hafter)
  env before var path after hsplit hafter hind := by
    have hall := henv.append hsets
    rw [hsplit, List.map_append, List.map_cons, List.append_assoc, List.cons_append] at hall
    refine toOption_eq_some_iff.mp (hall.read_last fun w hw => ?_)
    rcases List.mem_append.mp hw with hw | hw
    · obtain ⟨v, hv, rfl⟩ := List.mem_map.mp hw
      exact hafter v hv
    · exact hind w hw
  file path value hread hvars hind := by
    refine toOption_eq_some_iff.mp ((henv.append hsets).read_other (fun w hw => ?_)
      (toOption_eq_some_iff.mpr hread))
    rcases List.mem_append.mp hw with hw | hw
    · obtain ⟨v, hv, rfl⟩ := List.mem_map.mp hw
      exact hvars v hv
    · exact hind w hw

/-- A document is overridden by the writes of the variables and of the items. -/
theorem ConfigLoader.override_prevails {rt : ConfigRuntime} {loader : ConfigLoader}
    {document result : Document} (h : loader.override rt document = .ok result) :
    ∃ sets, List.Forall₂ (SetsValue rt.text) loader.setOverrides sets ∧
      (resolvedVariables rt.text loader.env document).map Prod.fst =
        loader.env.filter (fun v => startsWith v.1 envPrefix) ∧
      Prevails rt.text sets (resolvedVariables rt.text loader.env document) document result := by
  rw [ConfigLoader.override] at h
  split at h
  case h_1 after hboth =>
    cases h
    obtain ⟨u, middle, henv, hset⟩ := bind_apply_eq_ok_iff.mp hboth
    obtain ⟨hwrites, hvars⟩ := applyEnvOverrides_writesAll henv
    obtain ⟨sets, hsets, hall⟩ := applySetOverrides_writesAll hset
    have hvalues : List.Forall₂ (SetsValue rt.text) loader.setOverrides sets :=
      ((mapM_eq_ok_iff _ _ _).mp hsets).imp fun _ _ => parseSetOption_eq_ok_iff.mp
    exact ⟨sets, hvalues, hvars, prevails_of_writesAll hwrites hall⟩
  case h_2 => cases h

/-- What is loaded from a file has at each path what the last source that concerns it gives: the
`--set` items, the `BCS_CFG_*` variables or the file. -/
theorem ConfigLoader.loadRaw_prevails {rt : ConfigRuntime} {host : Host} {loader : ConfigLoader}
    {path : Option PurePath} {result : Document}
    (h : loader.loadRaw rt host path = .ok result) :
    ∃ target text document sets,
      loader.target host path = .ok target ∧
      readDocumentText rt host target = .ok text ∧
      parseDocument rt target text = .ok document ∧
      List.Forall₂ (SetsValue rt.text) loader.setOverrides sets ∧
      (resolvedVariables rt.text loader.env document).map Prod.fst =
        loader.env.filter (fun v => startsWith v.1 envPrefix) ∧
      Prevails rt.text sets (resolvedVariables rt.text loader.env document) document result := by
  obtain ⟨target, htarget, h⟩ := bind_eq_ok_iff.mp h
  obtain ⟨text, htext, h⟩ := bind_eq_ok_iff.mp h
  obtain ⟨document, hdocument, h⟩ := bind_eq_ok_iff.mp h
  obtain ⟨sets, hsets, hvars, hprevails⟩ := loader.override_prevails h
  exact ⟨target, text, document, sets, htarget, htext, hdocument, hsets, hvars, hprevails⟩

/-- The document `mode: safe, name: lab`. -/
def labDocument : Document :=
  [(.str "mode", .scalar (.str "safe")), (.str "name", .scalar (.str "lab"))]

/-- A loader that reads this document whatever the text, and accepts no schema. -/
def labRuntime : ConfigRuntime where
  text := decimalText
  safeLoad _ := .ok (.dict labDocument)
  reprYaml _ := .ok "None"
  modelValidate _ := .error ⟨[⟨["apiVersion"], "Field required"⟩], List.cons_ne_nil _ _⟩

/-- A host whose files are all empty. -/
def hostWithEmptyFiles : Host where
  isFile _ := .ok true
  readFile _ := .ok []

/-- With `--set name=y` and `BCS_CFG_NAME=x` the document is loaded with the name `y` of the item,
and the mode of the file. -/
theorem loadRaw_prevails_lab :
    ∃ result, ConfigLoader.loadRaw labRuntime hostWithEmptyFiles
        ⟨none, ["name=y"], [("BCS_CFG_NAME", "x")], .ofString "/home"⟩
        (some (.ofString "/home/bcs.yaml")) = .ok result ∧
      getByPath decimalText result "name" = .ok (.scalar (.str "y")) ∧
      getByPath decimalText result "mode" = .ok (.scalar (.str "safe")) := by
  obtain ⟨result, hload⟩ : ∃ result, ConfigLoader.loadRaw labRuntime hostWithEmptyFiles
      ⟨none, ["name=y"], [("BCS_CFG_NAME", "x")], .ofString "/home"⟩
      (some (.ofString "/home/bcs.yaml")) = .ok result := by decide +kernel
  obtain ⟨target, text, document, sets, -, -, hdocument, hsets, -, hprevails⟩ :=
    ConfigLoader.loadRaw_prevails hload
  obtain rfl : labDocument = document := Except.ok.inj hdocument
  have hvars : resolvedVariables decimalText [("BCS_CFG_NAME", "x")] labDocument =
      [(("BCS_CFG_NAME", "x"), "name")] := by decide +kernel
  have hvalue : coerceScalar decimalText "y" = .scalar (.str "y") := by
    have hlowered : decimalText.lower (decimalText.strip "y") = "y" := by decide +kernel
    have hint : decimalText.parseInt "y" = none := by decide +kernel
    have hfloat : decimalText.parseFloat "y" = none := by decide +kernel
    simp [coerceScalar, hlowered, hint, hfloat]
  obtain rfl : sets = [("name", .scalar (.str "y"))] := by
    obtain ⟨write, rest, hwrite, hrest, rfl⟩ := List.forall₂_cons_left_iff.mp hsets
    obtain rfl := List.forall₂_nil_left_iff.mp hrest
    have hitem : SetsValue decimalText "name=y" ("name", .scalar (.str "y")) :=
      ⟨"name", "y", by decide, by decide, by decide +kernel, by decide, hvalue⟩
    -- The text of an item has one path and one value.
    rw [← parseSetOption_eq_ok_iff] at hitem hwrite
    rw [Except.ok.inj (hwrite.symm.trans hitem)]
  have hind : IndependentPaths "mode" "name" := by
    rw [IndependentPaths, Independent]
    decide +kernel
  have hmode : getByPath decimalText labDocument "mode" = .ok (.scalar (.str "safe")) := rfl
  refine ⟨result, hload, hprevails.set [] "name" _ [] rfl (List.forall_mem_nil _),
    hprevails.file "mode" _ hmode (fun v hv => ?_) (List.forall_mem_singleton.mpr hind)⟩
  obtain rfl : v = (("BCS_CFG_NAME", "x"), "name") := List.mem_singleton.mp (hvars ▸ hv)
  exact hind

end ClassroomSuite.Config
