import ClassroomSuite.Config.PathUpdate

/-!
# The variable that overrides a field

The name of a field in the environment is its path in upper case, with underscores between the keys.
The upper case is undone by a search in the document, level by level. The search finds the field
that was meant if no other key of a level has the same upper case, and if the keys hold no character
that separates the parts of a name or of a path. Then the variable replaces the value of that field
and nothing else.

Source: `_find_actual_key`, `_env_key_to_path` and `apply_env_overrides` of
`cli/src/bcs/config/overrides.py`.

## Main definitions

* `envName`: the variable for a field.
* `NamedField`: a field that a variable can name.
* `Replaced`: what replacing the value of a field changes.

## Main results

* `resolveSegments_of_namedField`: the search finds the keys.
* `applyEnvOverrides_namedField`: the variable replaces the value of the field.
-/

namespace ClassroomSuite.Config

open Python Library

/-- The variable that overrides the field with these keys. -/
def envName (rt : TextRuntime) (keys : List String) : String :=
  envPrefix ++ "_".intercalate (keys.map rt.upper)

/-- A key of a mapping that can be found by its upper case. All keys of the mapping are texts. -/
structure NamedKey (rt : TextRuntime) (key : String) (d : Document) : Prop where
  mem : YamlScalar.str key ∈ d.map Prod.fst
  texts : ∀ k ∈ d.map Prod.fst, ∃ s, k = .str s
  ne_empty : key ≠ ""
  no_underscore : '_' ∉ key.toList
  no_dot : '.' ∉ key.toList
  unique : ∀ s, YamlScalar.str s ∈ d.map Prod.fst → rt.upper s = rt.upper key → s = key

/-- A field of a document that a variable can name, by the keys that lead to it. -/
def NamedField (rt : TextRuntime) : List String → Document → Prop
  | [], _ => False
  | [key], d => NamedKey rt key d
  | key :: next :: rest, d => NamedKey rt key d ∧
      ∃ child, d.lookup (.str key) = some (.dict child) ∧ NamedField rt (next :: rest) child

/-- The keys of the mapping along some segments. -/
def keysAt (rt : TextRuntime) (path : String) (segments : List String) (d : Document) :
    Option (List YamlScalar) :=
  match getSegments rt path segments (.dict d) with
  | .ok (.dict entries) => some (entries.map Prod.fst)
  | _ => none

/-- The value at a path has been replaced. What is read at paths independent of it is the same, and
every mapping outside the value has the same keys. -/
structure Replaced (rt : TextRuntime) (path : String) (value : Yaml) (d d' : Document) : Prop where
  written : getByPath rt d' path = .ok value
  others : ∀ other x, IndependentPaths other path →
    (getByPath rt d' other = .ok x ↔ getByPath rt d other = .ok x)
  keys : ∀ p, ¬ splitOnChar '.' path <+: p → keysAt rt path p d' = keysAt rt path p d

/-! ### Splitting names and paths -/

/-- Texts without the separator are the parts of what they are joined to. -/
theorem splitOnChar_intercalate {sep : Char} {texts : List String} (hne : texts ≠ [])
    (h : ∀ s ∈ texts, sep ∉ s.toList) :
    splitOnChar sep ((String.singleton sep).intercalate texts) = texts := by
  rw [splitOnChar, String.toList_intercalate, String.toList_singleton,
    List.splitOn_intercalate sep (by simpa using h) (by simpa using hne), List.map_map]
  simp

variable {rt : TextRuntime}

theorem NamedField.ne_nil {keys : List String} {d : Document} (h : NamedField rt keys d) :
    keys ≠ [] := by
  rintro rfl
  exact h

theorem NamedField.head {key : String} {rest : List String} {d : Document}
    (h : NamedField rt (key :: rest) d) : NamedKey rt key d := by
  cases rest with
  | nil => exact h
  | cons next rest => exact h.1

/-- What holds of every key by which a mapping can be searched holds of the keys of a field. -/
theorem NamedField.forall_mem {P : String → Prop} (hP : ∀ key d, NamedKey rt key d → P key)
    {keys : List String} {d : Document} (h : NamedField rt keys d) : ∀ key ∈ keys, P key := by
  induction keys generalizing d with
  | nil => exact h.elim
  | cons key rest ih =>
    refine List.forall_mem_cons.mpr ⟨hP key d h.head, ?_⟩
    cases rest with
    | nil => exact fun key hkey => absurd hkey List.not_mem_nil
    | cons next rest =>
      obtain ⟨-, child, -, hchild⟩ := h
      exact ih hchild

/-! ### The search -/

/-- The search among the keys of a mapping finds the key. -/
theorem findActualKey_of_namedKey {key : String} {keys : List YamlScalar}
    (hmem : YamlScalar.str key ∈ keys) (htexts : ∀ k ∈ keys, ∃ s, k = .str s)
    (hunique : ∀ s, YamlScalar.str s ∈ keys → rt.upper s = rt.upper key → s = key) :
    findActualKey rt (rt.upper key) keys = .ok (some key) := by
  induction keys with
  | nil => exact absurd hmem List.not_mem_nil
  | cons k keys ih =>
    obtain ⟨⟨s, rfl⟩, hrest⟩ := List.forall_mem_cons.mp htexts
    by_cases hs : rt.upper s = rt.upper key
    · rw [findActualKey, if_pos hs, hunique s List.mem_cons_self hs]
    · rw [findActualKey, if_neg hs]
      refine ih ?_ hrest fun s hs => hunique s (List.mem_cons_of_mem _ hs)
      rcases List.mem_cons.mp hmem with h | h
      · exact absurd (congrArg rt.upper (YamlScalar.str.inj h).symm) hs
      · exact h

/-- The search level by level finds the keys of the field. -/
theorem resolveSegments_of_namedField {keys : List String} {d : Document}
    (h : NamedField rt keys d) : resolveSegments rt (keys.map rt.upper) (.dict d) = .ok keys := by
  induction keys generalizing d with
  | nil => exact h.elim
  | cons key rest ih =>
    obtain ⟨hmem, htexts, hne, -, -, hunique⟩ := h.head
    simp only [List.map_cons, resolveSegments, findActualKey_of_namedKey hmem htexts hunique,
      if_neg hne]
    cases rest with
    | nil => rfl
    | cons next rest =>
      obtain ⟨-, child, hlook, hchild⟩ := h
      rw [Document.get, hlook, Option.getD_some, ih hchild]

/-- The name of a variable resolves to the keys of the field. -/
theorem envKeyToPath_of_namedField (hupper : ∀ s, '_' ∈ (rt.upper s).toList → '_' ∈ s.toList)
    {keys : List String} {d : Document} (h : NamedField rt keys d) :
    envKeyToPath rt (envName rt keys) d = .ok (".".intercalate keys) := by
  have hparts : splitOnChar '_' ("_".intercalate (keys.map rt.upper)) = keys.map rt.upper := by
    refine splitOnChar_intercalate (by simpa using h.ne_nil) fun s hs => ?_
    obtain ⟨key, hkey, rfl⟩ := List.mem_map.mp hs
    exact fun hmem =>
      h.forall_mem (fun _ _ hnamed => hnamed.no_underscore) key hkey (hupper key hmem)
  have hdrop : String.ofList ((envName rt keys).toList.drop envPrefix.length) =
      "_".intercalate (keys.map rt.upper) := by
    rw [envName, String.toList_append, ← String.length_toList, List.drop_left, String.ofList_toList]
  rw [envKeyToPath, hdrop, hparts, resolveSegments_of_namedField h]

/-! ### The write -/

/-- A write to a field that there is succeeds. -/
theorem NamedField.settable {keys : List String} {d : Document} (h : NamedField rt keys d) :
    Settable keys d := by
  induction keys generalizing d with
  | nil => trivial
  | cons key rest ih =>
    cases rest with
    | nil => trivial
    | cons next rest =>
      obtain ⟨-, child, hlook, hchild⟩ := h
      simp only [Settable, Document.get, hlook, Option.getD_some]
      exact ih hchild

/-- The keys in front of a key of the field lead to a mapping that has this key. -/
theorem NamedField.exists_mapping {path segment : String} {p rest : List String} {d : Document}
    (h : NamedField rt (p ++ segment :: rest) d) :
    ∃ entries, getSegments rt path p (.dict d) = .ok (.dict entries) ∧
      YamlScalar.str segment ∈ entries.map Prod.fst := by
  induction p generalizing d with
  | nil => exact ⟨d, rfl, h.head.mem⟩
  | cons key p ih =>
    obtain ⟨next, tail, hnext⟩ := List.exists_cons_of_ne_nil
      (List.append_ne_nil_of_right_ne_nil p (List.cons_ne_nil segment rest))
    rw [List.cons_append, hnext] at h
    obtain ⟨-, child, hlook, hchild⟩ := h
    rw [← hnext] at hchild
    rw [getSegments_dict hlook]
    exact ih hchild

theorem keysAt_of_read {path : String} {p : List String} {d entries : Document}
    (h : getSegments rt path p (.dict d) = .ok (.dict entries)) :
    keysAt rt path p d = some (entries.map Prod.fst) := by
  rw [keysAt, h]

/-- Where the same is read, the keys are the same. -/
theorem keysAt_congr {path : String} {p : List String} {d d' : Document}
    (h : ∀ x, getSegments rt path p (.dict d') = .ok x ↔ getSegments rt path p (.dict d) = .ok x) :
    keysAt rt path p d' = keysAt rt path p d := by
  cases hd : getSegments rt path p (.dict d) with
  | ok x => rw [keysAt, keysAt, hd, (h x).mpr hd]
  | error e =>
    cases hd' : getSegments rt path p (.dict d') with
    | ok x => exact absurd ((h x).mp hd') (by simp [hd])
    | error e' => rw [keysAt, keysAt, hd, hd']

/-- A write to a field that there is replaces its value. -/
theorem replaced_of_setByPath {path : String} {value : Yaml} {d d' : Document}
    (hfield : NamedField rt (splitOnChar '.' path) d)
    (h : setByPath rt path value d = .ok () d') : Replaced rt path value d d' := by
  obtain ⟨-, hset⟩ := setByPath_ok h
  refine {
    written := (localUpdate_of_setByPath h).written
    others := fun other x hind => ?_
    keys := fun p hbelow => ?_ }
  · by_cases hother : other = ""
    · simp [getByPath, splitPath, hother]
    · simp only [getByPath, splitPath, if_neg hother]
      exact getSegments_setSegments_other hind hset
  · by_cases habove : p <+: splitOnChar '.' path
    · obtain ⟨tail, htail⟩ := habove
      cases tail with
      | nil =>
        rw [List.append_nil] at htail
        exact absurd (htail ▸ List.prefix_rfl) hbelow
      | cons segment rest =>
        rw [← htail] at hset hfield
        obtain ⟨entries, child, hafter, -, hsame⟩ :=
          @getSegments_setSegments_above _ _ path _ _ _ _ _ _ hset
        obtain ⟨old, hold, hkey⟩ := hfield.exists_mapping
        obtain rfl := hsame old hold
        rw [keysAt_of_read hafter, keysAt_of_read hold, map_fst_assocSet, if_pos hkey]
    · exact keysAt_congr fun x => getSegments_setSegments_other ⟨habove, hbelow⟩ hset

/-- One variable that overrides a value is one write. -/
theorem applyEnvOverrides_singleton {key path rawValue : String} {d : Document}
    (hkey : startsWith key envPrefix = true) (hpath : envKeyToPath rt key d = .ok path) :
    applyEnvOverrides rt [(key, rawValue)] d = setByPath rt path (coerceScalar rt rawValue) d := by
  simp only [applyEnvOverrides, hkey, if_true, bind_apply, get_apply, hpath, pure_apply]
  cases setByPath rt path (coerceScalar rt rawValue) d <;> rfl

/-- The variable with the name of a field replaces the value of this field, and no other field has
the name. -/
theorem applyEnvOverrides_namedField (rt : TextRuntime)
    (hupper : ∀ s, '_' ∈ (rt.upper s).toList → '_' ∈ s.toList) (keys : List String) (d : Document)
    (h : NamedField rt keys d) (rawValue : String) :
    envKeyToPath rt (envName rt keys) d = .ok (".".intercalate keys) ∧
      (∃ d', applyEnvOverrides rt [(envName rt keys, rawValue)] d = .ok () d' ∧
        Replaced rt (".".intercalate keys) (coerceScalar rt rawValue) d d') ∧
      ∀ keys', NamedField rt keys' d → envName rt keys' = envName rt keys → keys' = keys := by
  have hresolve := envKeyToPath_of_namedField hupper h
  have hsplit {keys : List String} (h : NamedField rt keys d) :
      splitOnChar '.' (".".intercalate keys) = keys :=
    splitOnChar_intercalate h.ne_nil (h.forall_mem fun _ _ hnamed => hnamed.no_dot)
  refine ⟨hresolve, ?_, fun keys' h' hname => ?_⟩
  · have hprefix : startsWith (envName rt keys) envPrefix = true := startsWith_iff.mpr ⟨_, rfl⟩
    rw [applyEnvOverrides_singleton hprefix hresolve]
    rcases setByPath_cases rt (".".intercalate keys) (coerceScalar rt rawValue) d with
      ⟨⟨d', hd'⟩, -⟩ | ⟨-, hempty | hnot⟩
    · exact ⟨d', hd', replaced_of_setByPath (by rwa [hsplit h]) hd'⟩
    · -- the empty path would be that of one empty key
      have hkeys := hsplit h
      rw [hempty] at hkeys
      obtain rfl : [""] = keys := hkeys
      exact absurd rfl h.head.ne_empty
    · rw [hsplit h] at hnot
      exact absurd h.settable hnot
  · have hsame := envKeyToPath_of_namedField hupper h'
    rw [hname, hresolve] at hsame
    rw [← hsplit h, Except.ok.inj hsame, hsplit h']

/-- Only an underscore is an underscore in upper case. -/
theorem eq_underscore_of_toUpper {c : Char} (h : c.toUpper = '_') : c = '_' := by
  unfold Char.toUpper at h
  split at h
  case isTrue hlower =>
    have hval := congrArg Char.val h
    have hshift : '_'.val = 127 + ('A'.val - 'a'.val) := by decide
    dsimp only at hval
    rw [hshift] at hval
    rw [(UInt32.add_left_inj _).mp hval] at hlower
    exact absurd hlower.2 (by decide)
  case isFalse => exact h

theorem asciiText_upper_underscore (s : String) (h : '_' ∈ (asciiText.upper s).toList) :
    '_' ∈ s.toList := by
  obtain ⟨c, hc, hupper⟩ : ∃ c ∈ s.toList, c.toUpper = '_' := by simpa [asciiText] using h
  exact eq_underscore_of_toUpper hupper ▸ hc

/-- The document `spec: {secureBoot: enforce}`. -/
def secureBootDocument : Document :=
  [(.str "spec", .dict [(.str "secureBoot", .scalar (.str "enforce"))])]

/-- `applyEnvOverrides_namedField` at the field `spec.secureBoot`. -/
theorem applyEnvOverrides_secureBoot :
    ∃ d', applyEnvOverrides asciiText [(envName asciiText ["spec", "secureBoot"], "disabled")]
        secureBootDocument = .ok () d' ∧
      Replaced asciiText (".".intercalate ["spec", "secureBoot"])
        (coerceScalar asciiText "disabled") secureBootDocument d' := by
  have hkey (key : String) (value : Yaml) (hne : key ≠ "") (hunderscore : '_' ∉ key.toList)
      (hdot : '.' ∉ key.toList) : NamedKey asciiText key [(.str key, value)] := {
    mem := List.mem_singleton_self _
    texts := fun k hk => ⟨key, List.mem_singleton.mp hk⟩
    ne_empty := hne
    no_underscore := hunderscore
    no_dot := hdot
    unique := fun s hs _ => YamlScalar.str.inj (List.mem_singleton.mp hs) }
  exact (applyEnvOverrides_namedField asciiText asciiText_upper_underscore ["spec", "secureBoot"]
    secureBootDocument ⟨hkey "spec" _ (by decide) (by decide) (by decide), _, rfl,
      hkey "secureBoot" _ (by decide) (by decide) (by decide)⟩ "disabled").2.1

end ClassroomSuite.Config
