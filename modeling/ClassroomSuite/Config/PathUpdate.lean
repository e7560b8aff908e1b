import ClassroomSuite.Config.OverridePrecedence

/-!
# What a write at a path does

A write at a dotted path goes down through mappings only, and creates those that are missing. Once
one has been created, there is nothing below it that the write could fail at. So a write that fails
leaves the document as it was, and one that succeeds changes what is read at the path and below it,
and what is on the way there. Reading goes down through lists as well.

Source: `get_by_path` and `set_by_path` of `cli/src/bcs/config/overrides.py`.

## Main definitions

* `Settable`: a write along some segments succeeds.
* `LocalUpdate`: what a write changes.
* `NoListOnPath`: no list on the way to a value.

## Main results

* `setSegments_of_settable`, `setSegments_of_not_settable`: the outcome of a write.
* `getSegments_setSegments_above`: the mappings on the way after a write.
* `setByPath_atomic`, `setByPath_agrees_iff`.
-/

namespace ClassroomSuite.Config

open Python Library

/-- A write along the segments succeeds: every segment but the last leads to a mapping, up to one
that leads to nothing. -/
def Settable : List String → Document → Prop
  | segment :: next :: rest, d =>
    match d.get segment with
    | .scalar .null => True
    | .dict child => Settable (next :: rest) child
    | _ => False
  | _, _ => True

/-- What a write of `value` at `path` changes. The value is read there; nothing else is read
otherwise at paths that are independent of it; and a mapping outside the value has no new key but
the segment that continues the path. -/
structure LocalUpdate (rt : TextRuntime) (path : String) (value : Yaml) (d d' : Document) :
    Prop where
  written : getByPath rt d' path = .ok value
  others : ∀ other x, IndependentPaths other path → getByPath rt d other = .ok x →
    getByPath rt d' other = .ok x
  keys : ∀ p entries' key, ¬ splitOnChar '.' path <+: p →
    getSegments rt path p (.dict d') = .ok (.dict entries') → key ∈ entries'.map Prod.fst →
      (∃ entries, getSegments rt path p (.dict d) = .ok (.dict entries) ∧
        key ∈ entries.map Prod.fst) ∨
      ∃ segment, key = .str segment ∧ p ++ [segment] <+: splitOnChar '.' path

/-- On the way to the value at a path there is no list. -/
def NoListOnPath (rt : TextRuntime) (d : Document) (path : String) : Prop :=
  ∀ p items, p <+: splitOnChar '.' path → p ≠ splitOnChar '.' path →
    getSegments rt path p (.dict d) ≠ .ok (.list items)

/-! ### The outcome of a write -/

/-- Nothing is in the way in an empty mapping. -/
theorem settable_nil (segments : List String) : Settable segments [] := by
  cases segments with
  | nil => trivial
  | cons segment rest => cases rest <;> trivial

theorem setSegments_of_settable {segments : List String} {d : Document} (h : Settable segments d)
    (rt : TextRuntime) (path : String) (value : Yaml) :
    (setSegments rt path value segments d).2 = none := by
  induction segments generalizing d with
  | nil => rfl
  | cons segment rest ih =>
    cases rest with
    | nil => rfl
    | cons next rest =>
      simp only [Settable] at h
      split at h
      case h_1 hnull =>
        simp only [setSegments, hnull]
        exact ih (settable_nil _)
      case h_2 child hchild =>
        simp only [setSegments, hchild]
        exact ih h
      case h_3 => exact h.elim

/-- A write that fails leaves the document as it was. -/
theorem setSegments_of_not_settable {segments : List String} {d : Document}
    (h : ¬ Settable segments d) (rt : TextRuntime) (path : String) (value : Yaml) :
    ∃ message, setSegments rt path value segments d = (d, some (.usage message)) := by
  induction segments generalizing d with
  | nil => exact absurd trivial h
  | cons segment rest ih =>
    cases rest with
    | nil => exact absurd trivial h
    | cons next rest =>
      simp only [Settable] at h
      split at h
      case h_1 => exact absurd trivial h
      case h_2 child hchild =>
        obtain ⟨message, hset⟩ := ih h
        refine ⟨message, ?_⟩
        simp only [setSegments, hchild, hset,
          assocSet_of_lookup (Document.lookup_of_get_dict hchild)]
      case h_3 =>
        refine ⟨"cannot descend into non-mapping value at " ++ rt.repr segment ++ " in " ++
          rt.repr path, ?_⟩
        simp only [setSegments]

/-- A write to a path succeeds, or raises a usage error and leaves the document as it was. -/
theorem setByPath_cases (rt : TextRuntime) (path : String) (value : Yaml) (d : Document) :
    (∃ d', setByPath rt path value d = .ok () d') ∧ path ≠ "" ∧ Settable (splitOnChar '.' path) d ∨
      (∃ message, setByPath rt path value d = .error (.usage message) d) ∧
        (path = "" ∨ ¬ Settable (splitOnChar '.' path) d) := by
  by_cases hpath : path = ""
  · subst hpath
    exact Or.inr ⟨⟨_, rfl⟩, Or.inl rfl⟩
  have hsplit : splitPath path = .ok (splitOnChar '.' path) := if_neg hpath
  by_cases hset : Settable (splitOnChar '.' path) d
  · obtain ⟨d', hd'⟩ : ∃ d', setSegments rt path value (splitOnChar '.' path) d = (d', none) :=
      ⟨_, Prod.ext rfl (setSegments_of_settable hset rt path value)⟩
    exact Or.inl ⟨⟨d', by simp only [setByPath, hsplit, hd']⟩, hpath, hset⟩
  · obtain ⟨message, herror⟩ := setSegments_of_not_settable hset rt path value
    exact Or.inr ⟨⟨message, by simp only [setByPath, hsplit, herror]⟩, Or.inr hset⟩

/-! ### On the way to the value -/

/-- After a write, the mappings on the way have their keys, and the segment that continues the
path. -/
theorem getSegments_setSegments_above {rt : TextRuntime} {path path' segment : String}
    {value : Yaml} {p rest : List String} {d d' : Document}
    (h : setSegments rt path value (p ++ segment :: rest) d = (d', none)) :
    ∃ entries child, getSegments rt path' p (.dict d') =
        .ok (.dict (assocSet (.str segment) child entries)) ∧
      (entries = [] ∨ getSegments rt path' p (.dict d) = .ok (.dict entries)) ∧
      ∀ old, getSegments rt path' p (.dict d) = .ok (.dict old) → entries = old := by
  induction p generalizing d d' with
  | nil =>
    have hold (old : Document) (h : getSegments rt path' [] (.dict d) = .ok (.dict old)) :
        d = old := Yaml.dict.inj (Except.ok.inj h)
    cases rest with
    | nil =>
      obtain ⟨rfl, -⟩ := Prod.mk.inj h
      exact ⟨d, value, rfl, Or.inr rfl, hold⟩
    | cons next rest =>
      obtain ⟨old, after, -, -, rfl⟩ := setSegments_cons_ok h
      exact ⟨d, .dict after, rfl, Or.inr rfl, hold⟩
  | cons a p ih =>
    obtain ⟨next, tail, hnext⟩ := List.exists_cons_of_ne_nil
      (List.append_ne_nil_of_right_ne_nil p (List.cons_ne_nil segment rest))
    rw [List.cons_append, hnext] at h
    obtain ⟨old, after, hold, hafter, rfl⟩ := setSegments_cons_ok h
    rw [← hnext] at hafter
    obtain ⟨entries, child, hread, hbefore, hsame⟩ := ih hafter
    refine ⟨entries, child, ?_, ?_⟩
    · rw [getSegments_dict (by rw [lookup_assocSet, if_pos rfl]), hread]
    rcases hold with ⟨hnull, rfl⟩ | hdict
    · -- below a mapping that has just been created there is none that was there before
      refine ⟨?_, fun old hold => ?_⟩
      · rcases hbefore with hnil | hbefore
        · exact Or.inl hnil
        cases p with
        | nil => exact Or.inl (Yaml.dict.inj (Except.ok.inj hbefore)).symm
        | cons b p => exact absurd hbefore (getSegments_nil_ne_ok (List.cons_ne_nil _ _))
      · cases (getSegments_null_ok hnull hold).2
    · rw [getSegments_dict (Document.lookup_of_get_dict hdict)]
      exact ⟨hbefore, hsame⟩

/-- A write that succeeds is local. -/
theorem localUpdate_of_setByPath {rt : TextRuntime} {path : String} {value : Yaml}
    {d d' : Document} (h : setByPath rt path value d = .ok () d') :
    LocalUpdate rt path value d d' := by
  obtain ⟨-, hset⟩ := setByPath_ok h
  refine {
    written := toOption_eq_some_iff.mp ((documentStore rt).read_written h)
    others := fun other x hind hread => toOption_eq_some_iff.mp
      ((documentStore rt).read_other hind h (toOption_eq_some_iff.mpr hread))
    keys := fun p entries' key hbelow hread hkey => ?_ }
  by_cases habove : p <+: splitOnChar '.' path
  · obtain ⟨tail, htail⟩ := habove
    cases tail with
    | nil =>
      rw [List.append_nil] at htail
      exact absurd (htail ▸ List.prefix_rfl) hbelow
    | cons segment rest =>
      rw [← htail] at hset
      obtain ⟨entries, child, hafter, hbefore, -⟩ :=
        @getSegments_setSegments_above _ _ path _ _ _ _ _ _ hset
      obtain rfl := Yaml.dict.inj (Except.ok.inj (hread.symm.trans hafter))
      rw [map_fst_assocSet] at hkey
      have hcases : key ∈ entries.map Prod.fst ∨ key = .str segment := by
        split_ifs at hkey
        · exact Or.inl hkey
        · simpa using hkey
      rcases hcases with hold | hnew
      · rcases hbefore with rfl | hbefore
        · cases hold
        · exact Or.inl ⟨entries, hbefore, hold⟩
      · refine Or.inr ⟨segment, hnew, ?_⟩
        rw [← htail]
        exact ⟨rest, by simp⟩
  · exact Or.inl ⟨entries', (getSegments_setSegments_other ⟨habove, hbelow⟩ hset).mp hread, hkey⟩

/-- A write at a path is local, or it raises a usage error and leaves the document as it was. -/
theorem setByPath_atomic (rt : TextRuntime) (path : String) (value : Yaml) (d : Document) :
    (∃ message, setByPath rt path value d = .error (.usage message) d) ∨
      ∃ d', setByPath rt path value d = .ok () d' ∧ LocalUpdate rt path value d d' := by
  rcases setByPath_cases rt path value d with ⟨⟨d', hd'⟩, -⟩ | ⟨herror, -⟩
  · exact Or.inr ⟨d', hd', localUpdate_of_setByPath hd'⟩
  · exact Or.inl herror

/-! ### Reading and writing -/

/-- Where a value is read, it can be written exactly when no list is on the way. -/
theorem settable_iff_of_read {rt : TextRuntime} {path : String} {segments : List String}
    {d : Document} {x : Yaml} (h : getSegments rt path segments (.dict d) = .ok x) :
    Settable segments d ↔ ∀ p items, p <+: segments → p ≠ segments →
      getSegments rt path p (.dict d) ≠ .ok (.list items) := by
  induction segments generalizing d with
  | nil =>
    refine iff_of_true trivial fun p items hp hne => absurd ?_ hne
    exact List.prefix_nil.mp hp
  | cons segment rest ih =>
    cases rest with
    | nil =>
      refine iff_of_true trivial fun p items hp hne => ?_
      rcases List.prefix_cons_iff.mp hp with rfl | ⟨p, rfl, hnil⟩
      · exact fun h => by cases h
      · exact absurd (List.prefix_nil.mp hnil ▸ rfl) hne
    | cons next rest =>
      obtain ⟨child, hlook, hread⟩ := getSegments_cons_ok h
      have hget : d.get segment = child := by rw [Document.get, hlook, Option.getD_some]
      simp only [Settable, hget]
      cases child with
      | dict entries =>
        change Settable (next :: rest) entries ↔ _
        rw [ih hread]
        constructor
        · intro hbelow p items hp hne
          rcases List.prefix_cons_iff.mp hp with rfl | ⟨p, rfl, hrest⟩
          · exact fun h => by cases h
          · rw [getSegments_dict hlook]
            exact hbelow p items hrest fun h => hne (h ▸ rfl)
        · intro hall p items hp hne
          have hcons := hall (segment :: p) items (List.cons_prefix_cons.mpr ⟨rfl, hp⟩)
            fun h => hne (List.cons.inj h).2
          rwa [getSegments_dict hlook] at hcons
      | list items =>
        refine iff_of_false id fun hall => ?_
        refine hall [segment] items (List.cons_prefix_cons.mpr ⟨rfl, List.nil_prefix⟩) (by simp) ?_
        rw [getSegments_dict hlook, getSegments]
      | _ => cases hread

/-- Where a value is read, any other can be written and is then read, exactly when no list is on the
way. -/
theorem setByPath_agrees_iff {rt : TextRuntime} {d : Document} {path : String} {x : Yaml}
    (h : getByPath rt d path = .ok x) (value : Yaml) :
    (∃ d', setByPath rt path value d = .ok () d' ∧ getByPath rt d' path = .ok value) ↔
      NoListOnPath rt d path := by
  by_cases hpath : path = ""
  · subst hpath
    cases h
  rw [getByPath, show splitPath path = .ok (splitOnChar '.' path) from if_neg hpath] at h
  rw [NoListOnPath, ← settable_iff_of_read h]
  rcases setByPath_cases rt path value d with ⟨⟨d', hd'⟩, -, hset⟩ | ⟨⟨message, herror⟩, hnot⟩
  · exact iff_of_true ⟨d', hd', (localUpdate_of_setByPath hd').written⟩ hset
  · refine iff_of_false ?_ (hnot.resolve_left hpath)
    rintro ⟨d', hd', -⟩
    cases herror.symm.trans hd'

/-- The document `menu: {lab: {mode: safe}}`. -/
def menuDocument : Document :=
  [(.str "menu", .dict [(.str "lab", .dict [(.str "mode", .scalar (.str "safe"))])])]

/-- The value at `menu.lab.mode` can be written, as there are mappings on the way to it. -/
theorem setByPath_agrees_mode :
    ∃ d', setByPath asciiText "menu.lab.mode" (.scalar .null) menuDocument = .ok () d' ∧
      getByPath asciiText d' "menu.lab.mode" = .ok (.scalar .null) := by
  obtain ⟨x, hread⟩ : ∃ x, getByPath asciiText menuDocument "menu.lab.mode" = .ok x := by
    decide +kernel
  refine (setByPath_agrees_iff hread _).mpr fun p items hp hne hlist => ?_
  have hsplit : splitOnChar '.' "menu.lab.mode" = ["menu", "lab", "mode"] := by decide +kernel
  rw [hsplit] at hp hne
  have hmem : p ∈ [[], ["menu"], ["menu", "lab"], ["menu", "lab", "mode"]] :=
    (List.mem_inits _ _).mpr hp
  simp only [List.mem_cons, List.not_mem_nil, or_false] at hmem
  rcases hmem with rfl | rfl | rfl | rfl
  · cases hlist
  · cases hlist
  · cases hlist
  · exact hne rfl

/-- The document `entries: [lab]`. -/
def entriesDocument : Document := [(.str "entries", .list [.scalar (.str "lab")])]

/-- The value at `entries.0` can be read and not written. -/
theorem setByPath_not_agrees_entries :
    (getByPath decimalText entriesDocument "entries.0").toOption.isSome = true ∧
      ¬ ∃ d', setByPath decimalText "entries.0" (.scalar .null) entriesDocument = .ok () d' ∧
        getByPath decimalText d' "entries.0" = .ok (.scalar .null) := by
  refine ⟨by decide +kernel, ?_⟩
  rintro ⟨d', hset, -⟩
  obtain ⟨-, hwrite⟩ := setByPath_ok hset
  rw [show splitOnChar '.' "entries.0" = ["entries", "0"] by decide +kernel] at hwrite
  cases hwrite

end ClassroomSuite.Config
