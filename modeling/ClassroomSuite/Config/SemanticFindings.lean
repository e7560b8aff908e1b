import Mathlib.Data.List.Nodup
import ClassroomSuite.Config.Validator
import ClassroomSuite.Library.Traversal

/-!
# The findings of the semantic checks

Each of the four rules looks for a condition on the fields of a validated configuration. The
findings are exactly those of the conditions that hold: one error for every label of an entry in a
locale that is not supported, in the order of the entries and of the labels in them, then one if the
default entry is missing; and a warning for each of the other two. A report is valid when no
condition of an error holds.

Source: `run_semantic_checks`, `validate_document` and `ValidationReport` of
`cli/src/bcs/config/validator.py`.

## Main definitions

* `UncoveredLabel`, `MissingDefault`, `ChecksumsDiffer`, `NoAssignments`: the conditions.
* `LabelBefore`: the order of the labels.
* `ExactFindings`: errors and warnings that are exactly those of the conditions.

## Main results

* `exactFindings_runSemanticChecks`, `ExactFindings.valid_iff`, `ExactFindings.isOk_iff`.
* `semanticChecks_exact`.
-/

namespace ClassroomSuite.Config

open Python Library

/-! ### The conditions -/

/-- The locales of the labels of an entry, by the index of the entry. -/
def labelLocales (config : ClassroomConfig) (index : ℕ) : List String :=
  match config.spec.bootManager.menu.entries[index]? with
  | some entry => entry.label.map Prod.fst
  | none => []

/-- An entry has a label in a locale that is not supported. -/
def UncoveredLabel (config : ClassroomConfig) (pair : ℕ × String) : Prop :=
  pair.2 ∈ labelLocales config pair.1 ∧
    pair.2 ∉ config.spec.localization.supportedLocales.map Locale.str

/-- No entry has the id of the default entry. -/
def MissingDefault (config : ClassroomConfig) : Prop :=
  ∀ entry ∈ config.spec.bootManager.menu.entries,
    entry.id ≠ config.spec.bootManager.menu.defaultEntry

/-- The images are built with one checksum algorithm and verified with another. -/
def ChecksumsDiffer (config : ClassroomConfig) : Prop :=
  config.spec.builder.provenance.checksumAlgorithm ≠
    config.spec.deploy.verification.checksumAlgorithm

/-- The addresses are static, and none is assigned. -/
def NoAssignments (config : ClassroomConfig) : Prop :=
  config.spec.network.addressing.mode = .static ∧
    config.spec.network.addressing.staticAssignments = []

/-- The order of the labels: that of their entries, and that in their entry. -/
def LabelBefore (config : ClassroomConfig) (p q : ℕ × String) : Prop :=
  p.1 < q.1 ∨ p.1 = q.1 ∧
    (labelLocales config p.1).idxOf p.2 < (labelLocales config p.1).idxOf q.2

/-! ### The findings -/

/-- The finding about one label. -/
def labelFinding (rt : TextRuntime) (pair : ℕ × String) : Finding where
  rule := "label-locale-coverage"
  path := "spec.bootManager.menu.entries." ++ toString pair.1 ++ ".label." ++ pair.2
  message := "locale " ++ rt.repr pair.2 ++ " is not listed in spec.localization.supportedLocales"

/-- The findings that one rule gives: a finding of the rule if the condition holds, and none
otherwise. -/
def FindingIff (rule path : String) (condition : Prop) (findings : List Finding) : Prop :=
  condition ∧ (∃ message, findings = [⟨rule, path, message⟩]) ∨ ¬ condition ∧ findings = []

/-- The errors and the warnings are exactly those of the conditions that hold. -/
structure ExactFindings (rt : TextRuntime) (config : ClassroomConfig)
    (errors warnings : List Finding) : Prop where
  errors : ∃ (pairs : List (ℕ × String)) (missing : List Finding),
    errors = pairs.map (labelFinding rt) ++ missing ∧
    pairs.Pairwise (LabelBefore config) ∧ (∀ pair, pair ∈ pairs ↔ UncoveredLabel config pair) ∧
    FindingIff "default-entry-exists" "spec.bootManager.menu.defaultEntry" (MissingDefault config)
      missing
  warnings : ∃ checksums assignments, warnings = checksums ++ assignments ∧
    FindingIff "checksum-algorithm-match" "spec.deploy.verification.checksumAlgorithm"
      (ChecksumsDiffer config) checksums ∧
    FindingIff "static-assignments-present" "spec.network.addressing.staticAssignments"
      (NoAssignments config) assignments

theorem FindingIff.eq_nil_iff {rule path : String} {condition : Prop} {findings : List Finding}
    (h : FindingIff rule path condition findings) : findings = [] ↔ ¬ condition := by
  rcases h with ⟨hholds, message, rfl⟩ | ⟨hnot, rfl⟩
  · exact iff_of_false (List.cons_ne_nil _ _) (not_not.mpr hholds)
  · exact iff_of_true rfl hnot

/-- A rule gives its finding if what it tests holds. -/
theorem findingIff_of_ite {rule path message : String} {condition test : Prop} [Decidable test]
    (h : condition ↔ ¬ test) :
    FindingIff rule path condition (if test then [] else [⟨rule, path, message⟩]) := by
  by_cases htest : test
  · exact Or.inr ⟨fun hholds => h.mp hholds htest, if_pos htest⟩
  · exact Or.inl ⟨h.mpr htest, message, if_neg htest⟩

section Exact

variable {rt : TextRuntime} {config : ClassroomConfig}

/-! ### The labels -/

/-- The elements of a list without repetitions are in the order of their positions. -/
theorem pairwise_idxOf {α : Type} [DecidableEq α] {xs : List α} (h : xs.Nodup) :
    xs.Pairwise fun x y => xs.idxOf x < xs.idxOf y := by
  rw [List.pairwise_iff_getElem]
  intro i j hi hj hij
  rwa [h.idxOf_getElem, h.idxOf_getElem]

/-- The indices of the entries with the locales of their labels that are not supported. -/
def uncoveredLabels (config : ClassroomConfig) : List (ℕ × String) :=
  (config.spec.bootManager.menu.entries.mapIdx fun index entry =>
    ((entry.label.map Prod.fst).filter fun locale =>
      locale ∉ config.spec.localization.supportedLocales.map Locale.str).map (index, ·)).flatten

theorem labelLocales_eq {index : ℕ} {entry : MenuEntry}
    (h : config.spec.bootManager.menu.entries[index]? = some entry) :
    labelLocales config index = entry.label.map Prod.fst := by
  rw [labelLocales, h]

theorem mem_labelLocales_iff {index : ℕ} {locale : String} :
    locale ∈ labelLocales config index ↔
      ∃ entry, config.spec.bootManager.menu.entries[index]? = some entry ∧
        locale ∈ entry.label.map Prod.fst := by
  unfold labelLocales
  split
  case h_1 entry hentry => simp [hentry]
  case h_2 hnone => simp [hnone]

theorem nodup_labelLocales (config : ClassroomConfig) (index : ℕ) :
    (labelLocales config index).Nodup := by
  unfold labelLocales
  split
  case h_1 entry _ => exact entry.label_nodup
  case h_2 => exact List.nodup_nil

theorem mem_uncoveredLabels (pair : ℕ × String) :
    pair ∈ uncoveredLabels config ↔ UncoveredLabel config pair := by
  obtain ⟨index, locale⟩ := pair
  simp only [uncoveredLabels, List.mem_flatten, List.mem_mapIdx, UncoveredLabel]
  constructor
  · rintro ⟨labels, ⟨i, hi, rfl⟩, hmem⟩
    obtain ⟨locale', hlocale, heq⟩ := List.mem_map.mp hmem
    obtain ⟨rfl, rfl⟩ := Prod.mk.inj heq
    rw [labelLocales_eq (List.getElem?_eq_getElem hi)]
    simpa using hlocale
  · rintro ⟨hlocale, hsupported⟩
    obtain ⟨entry, hentry, hlabel⟩ := mem_labelLocales_iff.mp hlocale
    obtain ⟨hi, rfl⟩ := List.getElem?_eq_some_iff.mp hentry
    refine ⟨_, ⟨index, hi, rfl⟩, List.mem_map.mpr ⟨locale, ?_, rfl⟩⟩
    exact List.mem_filter.mpr ⟨hlabel, decide_eq_true hsupported⟩

/-- There is a label in a locale that is not supported when some entry has one. -/
theorem exists_uncoveredLabel_iff (config : ClassroomConfig) :
    (∃ pair, UncoveredLabel config pair) ↔
      ∃ entry ∈ config.spec.bootManager.menu.entries, ∃ locale ∈ entry.label.map Prod.fst,
        locale ∉ config.spec.localization.supportedLocales.map Locale.str := by
  constructor
  · rintro ⟨⟨index, locale⟩, hlocale, hsupported⟩
    obtain ⟨entry, hentry, hlabel⟩ := mem_labelLocales_iff.mp hlocale
    exact ⟨entry, List.mem_of_getElem? hentry, locale, hlabel, hsupported⟩
  · rintro ⟨entry, hentry, locale, hlocale, hsupported⟩
    obtain ⟨index, hindex⟩ := List.mem_iff_getElem?.mp hentry
    exact ⟨(index, locale), mem_labelLocales_iff.mpr ⟨entry, hindex, hlocale⟩, hsupported⟩

theorem pairwise_uncoveredLabels (config : ClassroomConfig) :
    (uncoveredLabels config).Pairwise (LabelBefore config) := by
  rw [uncoveredLabels, List.pairwise_flatten]
  constructor
  · intro labels hlabels
    obtain ⟨i, hi, rfl⟩ := List.mem_mapIdx.mp hlabels
    rw [List.pairwise_map]
    have horder := pairwise_idxOf (nodup_labelLocales config i)
    rw [labelLocales_eq (List.getElem?_eq_getElem hi)] at horder
    refine (horder.filter _).imp fun h => Or.inr ⟨rfl, ?_⟩
    rwa [labelLocales_eq (List.getElem?_eq_getElem hi)]
  · rw [List.pairwise_iff_getElem]
    intro i j hi hj hij p hp q hq
    rw [List.getElem_mapIdx] at hp hq
    obtain ⟨locale, -, rfl⟩ := List.mem_map.mp hp
    obtain ⟨locale', -, rfl⟩ := List.mem_map.mp hq
    exact Or.inl hij

theorem labelFindings_eq (rt : TextRuntime) (supported : List String) (index : ℕ)
    (entry : MenuEntry) :
    labelFindings rt supported index entry =
      (((entry.label.map Prod.fst).filter fun locale => locale ∉ supported).map (index, ·)).map
        (labelFinding rt) := by
  rw [labelFindings]
  induction entry.label.map Prod.fst with
  | nil => rfl
  | cons locale locales ih =>
    by_cases h : locale ∈ supported
    · simp only [List.filterMap_cons, h, if_true, ih, not_true_eq_false, decide_false,
        Bool.false_eq_true, not_false_eq_true, List.filter_cons_of_neg]
    · simp only [List.filterMap_cons, h, if_false, ih, not_false_eq_true, decide_true,
        List.filter_cons_of_pos, List.map_cons]
      rfl

/-! ### The findings and the conditions -/

/-- The semantic checks give exactly the findings of the conditions that hold. -/
theorem exactFindings_runSemanticChecks (rt : TextRuntime) (config : ClassroomConfig) :
    ExactFindings rt config (runSemanticChecks rt config).1 (runSemanticChecks rt config).2 where
  errors := by
    refine ⟨uncoveredLabels config, _, congrArg₂ (· ++ ·) ?_ rfl, pairwise_uncoveredLabels config,
      mem_uncoveredLabels, findingIff_of_ite ?_⟩
    · rw [uncoveredLabels, List.map_flatten, List.mapIdx_eq_zipIdx_map,
        List.mapIdx_eq_zipIdx_map, List.map_map]
      simp only [labelFindings_eq]
      rfl
    · simp [MissingDefault]
  warnings := by
    refine ⟨_, _, rfl, findingIff_of_ite Iff.rfl, ?_⟩
    by_cases h : NoAssignments config
    · exact Or.inl ⟨h, _, if_pos h⟩
    · exact Or.inr ⟨h, if_neg h⟩

/-! ### The report -/

/-- There is no error when no condition of an error holds. -/
theorem ExactFindings.errors_eq_nil_iff {errors warnings : List Finding}
    (h : ExactFindings rt config errors warnings) :
    errors = [] ↔ ¬ ((∃ pair, UncoveredLabel config pair) ∨ MissingDefault config) := by
  obtain ⟨pairs, missing, herrors, -, hpairs, hmissing⟩ := h.errors
  rw [herrors, List.append_eq_nil_iff, List.map_eq_nil_iff, hmissing.eq_nil_iff,
    List.eq_nil_iff_forall_not_mem, not_or, not_exists]
  simp only [hpairs]

/-- A report with these findings is valid when no condition of an error holds. -/
theorem ExactFindings.valid_iff {report : ValidationReport}
    (h : ExactFindings rt config report.errors report.warnings) :
    report.valid = true ↔ ¬ ((∃ pair, UncoveredLabel config pair) ∨ MissingDefault config) := by
  rw [ValidationReport.valid, List.isEmpty_iff, h.errors_eq_nil_iff]

/-- A report with these findings counts as a pass when it is valid and, in a strict run, no
condition of a warning holds. -/
theorem ExactFindings.isOk_iff {report : ValidationReport}
    (h : ExactFindings rt config report.errors report.warnings) (strict : Bool) :
    report.isOk strict = true ↔ report.valid = true ∧
      (strict = false ∨ ¬ (ChecksumsDiffer config ∨ NoAssignments config)) := by
  obtain ⟨checksums, assignments, hwarnings, hchecksums, hassignments⟩ := h.warnings
  have hnone : report.warnings.isEmpty = true ↔
      ¬ (ChecksumsDiffer config ∨ NoAssignments config) := by
    rw [List.isEmpty_iff, hwarnings, List.append_eq_nil_iff, hchecksums.eq_nil_iff,
      hassignments.eq_nil_iff, not_or]
  rw [ValidationReport.isOk, ← ValidationReport.valid, Bool.and_eq_true, ← hnone]
  cases strict <;> simp

end Exact

/-- The findings of the semantic checks are exactly those of the conditions that hold, and so is the
verdict on a document that passes the schema. -/
theorem semanticChecks_exact (rt : ConfigRuntime) (config : ClassroomConfig) :
    ExactFindings rt.text config (runSemanticChecks rt.text config).1
        (runSemanticChecks rt.text config).2 ∧
      ∀ host loader source, loader.load rt host (some source) = .ok config →
        ∃ report, validateDocument rt host loader source = .ok report ∧
          (report.valid = true ↔
            ¬ ((∃ pair, UncoveredLabel config pair) ∨ MissingDefault config)) ∧
          ∀ strict, report.isOk strict = true ↔ report.valid = true ∧
            (strict = false ∨ ¬ (ChecksumsDiffer config ∨ NoAssignments config)) := by
  have hexact := exactFindings_runSemanticChecks rt.text config
  refine ⟨hexact, fun host loader source hload => ?_⟩
  refine ⟨⟨source, _, _⟩, ?_, hexact.valid_iff, hexact.isOk_iff⟩
  rw [validateDocument_eq, hload]

/-- The configuration with a menu of one entry, that boots the installed system. -/
def oneEntryConfig (label : List (String × String)) (h : label ≠ [])
    (hnodup : (label.map Prod.fst).Nodup := by decide) : ClassroomConfig where
  spec := {
    bootManager := {
      menu := {
        defaultEntry := "normal"
        entries := [⟨"normal", label, h, hnodup⟩]
        entries_ne_nil := List.cons_ne_nil _ _ } }
    builder := {}
    deploy := {}
    network := {}
    localization := {} }

/-- The configuration whose entry is labelled in Spanish only. -/
def spanishConfig : ClassroomConfig :=
  oneEntryConfig [("es_ES", "Arranque")] (List.cons_ne_nil _ _)

/-- A runtime that reads the menu labelled in Spanish only, whatever the text. -/
def spanishRuntime : ConfigRuntime where
  text := asciiText
  safeLoad _ := .ok (.dict [(.str "apiVersion", .scalar (.str "bcs/v1alpha1")),
    (.str "kind", .scalar (.str "ClassroomConfig"))])
  reprYaml _ := .ok "None"
  modelValidate _ := .ok spanishConfig

/-- `semanticChecks_exact` at a document that passes the schema. -/
theorem semanticChecks_exact_spanish :
    ∃ config report,
      validateDocument spanishRuntime ⟨fun _ => .ok true, fun _ => .ok []⟩
        ⟨none, [], [], .ofString "/"⟩
        (.ofString "/bcs.yaml") = .ok report ∧
      (report.valid = true ↔
        ¬ ((∃ pair, UncoveredLabel config pair) ∨ MissingDefault config)) := by
  obtain ⟨config, hconfig⟩ : ∃ config, ConfigLoader.load spanishRuntime
      ⟨fun _ => .ok true, fun _ => .ok []⟩ ⟨none, [], [], .ofString "/"⟩
      (some (.ofString "/bcs.yaml")) = .ok config := by decide +kernel
  obtain ⟨report, hreport, hvalid, -⟩ :=
    (semanticChecks_exact spanishRuntime config).2 _ _ _ hconfig
  exact ⟨config, report, hreport, hvalid⟩

end ClassroomSuite.Config
