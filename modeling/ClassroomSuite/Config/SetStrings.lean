import ClassroomSuite.Config.PathUpdate

/-!
# Setting a text from the command line

The raw text of a `--set` item stands for a truth value, for null or for a number if it looks like
one. What a field is declared as plays no part in this, and there is no way to quote. So the only
raw text that could stand for a given text is this text itself, and a text that looks like anything
else cannot be set: no version such as `24.04` can be, although the schema declares versions as
texts.

Source: `_coerce_scalar`, `parse_set_option` and `apply_set_overrides` of
`cli/src/bcs/config/overrides.py`.

## Main definitions

* `Recognised`: a raw text that looks like something other than a text.

## Main results

* `coerceScalar_eq_str_iff`: what stands for a text.
* `string_settable_iff`: which texts can be set.
-/

namespace ClassroomSuite.Config

open Python Library

/-- A raw text looks like a truth value, like null or like a number. -/
def Recognised (rt : TextRuntime) (raw : String) : Prop :=
  rt.lower (rt.strip raw) ∈ ["true", "false", "null", "~", "none"] ∨
    (rt.parseInt raw).isSome = true ∨ (rt.parseFloat raw).isSome = true

variable {rt : TextRuntime}

/-- A text that is not recognised stands for itself. -/
theorem coerceScalar_of_not_recognised {raw : String} (h : ¬ Recognised rt raw) :
    coerceScalar rt raw = .scalar (.str raw) := by
  simp only [Recognised, List.mem_cons, List.not_mem_nil, or_false, not_or, Bool.not_eq_true,
    Option.isSome_eq_false_iff, Option.isNone_iff_eq_none] at h
  obtain ⟨⟨htrue, hfalse, hnull, htilde, hnone⟩, hint, hfloat⟩ := h
  simp [coerceScalar, htrue, hfalse, hnull, htilde, hnone, hint, hfloat]

/-- A text that is recognised stands for no text. -/
theorem coerceScalar_of_recognised {raw : String} (h : Recognised rt raw) (s : String) :
    coerceScalar rt raw ≠ .scalar (.str s) := by
  rw [coerceScalar]
  split_ifs with hbool hnull
  · exact fun h => by cases h
  · exact fun h => by cases h
  have hwords : rt.lower (rt.strip raw) ∉ ["true", "false", "null", "~", "none"] := by
    simp only [List.mem_cons, List.not_mem_nil, or_false]
    tauto
  rcases h.resolve_left hwords with hint | hfloat
  · obtain ⟨i, hi⟩ := Option.isSome_iff_exists.mp hint
    simp [hi]
  · obtain ⟨x, hx⟩ := Option.isSome_iff_exists.mp hfloat
    cases rt.parseInt raw <;> simp [hx]

/-- Only a text that is not recognised stands for a text, and it stands for itself. -/
theorem coerceScalar_eq_str_iff {raw s : String} :
    coerceScalar rt raw = .scalar (.str s) ↔ raw = s ∧ ¬ Recognised rt s := by
  by_cases hraw : Recognised rt raw
  · refine iff_of_false (coerceScalar_of_recognised hraw s) ?_
    rintro ⟨rfl, hnot⟩
    exact hnot hraw
  · rw [coerceScalar_of_not_recognised hraw, Yaml.scalar.injEq, YamlScalar.str.injEq]
    exact ⟨fun h => ⟨h, h ▸ hraw⟩, And.left⟩

/-- One item is one write, if its path has no `=` and no space around it. -/
theorem applySetOverrides_singleton {path : String} (hequals : '=' ∉ path.toList)
    (hstrip : rt.strip path = path) (hne : path ≠ "") (raw : String) (d : Document) :
    applySetOverrides rt [path ++ "=" ++ raw] d = setByPath rt path (coerceScalar rt raw) d := by
  have hitem : parseSetOption rt (path ++ "=" ++ raw) = .ok (path, coerceScalar rt raw) :=
    parseSetOption_eq_ok_iff.mpr ⟨path, raw, rfl, hequals, hstrip, hne, rfl⟩
  simp only [applySetOverrides, hitem, bind_apply]
  cases setByPath rt path (coerceScalar rt raw) d <;> rfl

/-- At a path that can be written, the texts that can be set are those that do not look like
anything else. -/
theorem string_settable_iff {path : String} (hequals : '=' ∉ path.toList)
    (hstrip : rt.strip path = path) {value : Yaml} {d d₀ : Document}
    (haccepted : setByPath rt path value d = .ok () d₀) (s : String) :
    (∃ raw d', applySetOverrides rt [path ++ "=" ++ raw] d = .ok () d' ∧
      getByPath rt d' path = .ok (.scalar (.str s))) ↔ ¬ Recognised rt s := by
  have hne : path ≠ "" := by
    rintro rfl
    cases haccepted
  constructor
  · rintro ⟨raw, d', hset, hread⟩
    rw [applySetOverrides_singleton hequals hstrip hne] at hset
    have hwritten := (localUpdate_of_setByPath hset).written
    exact (coerceScalar_eq_str_iff.mp (Except.ok.inj (hwritten.symm.trans hread))).2
  · intro hnot
    rcases setByPath_cases rt path (coerceScalar rt s) d with ⟨⟨d', hset⟩, -⟩ | ⟨-, hfails⟩
    · refine ⟨s, d', (applySetOverrides_singleton hequals hstrip hne s d).trans hset, ?_⟩
      rw [(localUpdate_of_setByPath hset).written, coerceScalar_eq_str_iff.mpr ⟨rfl, hnot⟩]
    · rcases setByPath_cases rt path value d with ⟨-, -, hsettable⟩ | ⟨⟨message, herror⟩, -⟩
      · exact absurd hsettable (hfails.resolve_left hne)
      · cases haccepted.symm.trans herror

/-- The document `baseDistributionVersion: "24.04"`. -/
def versionDocument : Document :=
  [(.str "baseDistributionVersion", .scalar (.str "24.04"))]

/-- The field can be written. -/
theorem exists_setByPath_version (value : Yaml) : ∃ d',
    setByPath decimalText "baseDistributionVersion" value versionDocument = .ok () d' := by
  have hsplit : splitOnChar '.' "baseDistributionVersion" = ["baseDistributionVersion"] := by
    decide +kernel
  rcases setByPath_cases decimalText "baseDistributionVersion" value versionDocument with
    ⟨hset, -⟩ | ⟨-, hempty | hnot⟩
  · exact hset
  · exact absurd hempty (by decide)
  · rw [hsplit] at hnot
    exact absurd trivial hnot

/-- `string_settable_iff` at the text `noble`. -/
theorem string_settable_noble :
    ∃ raw d', applySetOverrides decimalText ["baseDistributionVersion" ++ "=" ++ raw]
        versionDocument = .ok () d' ∧
      getByPath decimalText d' "baseDistributionVersion" = .ok (.scalar (.str "noble")) := by
  obtain ⟨d₀, haccepted⟩ := exists_setByPath_version (.scalar .null)
  refine (string_settable_iff (by decide) (by decide +kernel) haccepted "noble").mpr ?_
  unfold Recognised
  decide +kernel

/-- The version in the document cannot be set. -/
theorem string_not_settable_version :
    (∃ d', setByPath decimalText "baseDistributionVersion" (.scalar (.str "24.04"))
        versionDocument = .ok () d') ∧
      ¬ ∃ raw d', applySetOverrides decimalText ["baseDistributionVersion" ++ "=" ++ raw]
          versionDocument = .ok () d' ∧
        getByPath decimalText d' "baseDistributionVersion" = .ok (.scalar (.str "24.04")) := by
  refine ⟨exists_setByPath_version _, ?_⟩
  rintro ⟨raw, d', hset, hread⟩
  rw [applySetOverrides_singleton (by decide) (by decide +kernel) (by decide)] at hset
  have hwritten := (localUpdate_of_setByPath hset).written
  obtain ⟨-, hnot⟩ := coerceScalar_eq_str_iff.mp (Except.ok.inj (hwritten.symm.trans hread))
  exact hnot (Or.inr (Or.inr (by decide +kernel)))

end ClassroomSuite.Config
