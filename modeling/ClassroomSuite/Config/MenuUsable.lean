import Mathlib.Data.Finset.Card
import ClassroomSuite.Config.SemanticFindings

/-!
# Whether a validated boot menu is usable

The boot menu takes its default entry when nobody chooses, and shows every entry in the language of
the machine. It is usable when the default is the id of exactly one entry, and every entry has a
label for every supported locale. The semantic checks look at each of the two from one side only:
the default has to be some entry's id, and the locales of the labels have to be supported ones. So a
menu without errors is usable exactly when no second entry takes the default's id and no entry has
fewer labelled locales than there are supported ones.

Source: `run_semantic_checks` of `cli/src/bcs/config/validator.py`, `bootManager.menu` of
`config/schema.yaml`.

## Main definitions

* `MenuUsable`: the guarantee about the menu.

## Main results

* `runSemanticChecks_errors_eq_nil_iff`: what a configuration without errors satisfies.
* `menuUsable_iff`: when a menu without errors is usable.
-/

namespace ClassroomSuite.Config

open Python

/-- The locales a menu entry has a label for. -/
def MenuEntry.labelled (entry : MenuEntry) : Finset String :=
  (entry.label.map Prod.fst).toFinset

/-- The texts of the supported locales. -/
def LocalizationSpec.supported (localization : LocalizationSpec) : Finset String :=
  (localization.supportedLocales.map Locale.str).toFinset

/-- The number of menu entries with the id of the default entry. -/
def Menu.defaults (menu : Menu) : ℕ :=
  menu.entries.countP fun entry => entry.id = menu.defaultEntry

/-- A usable boot menu: one default entry, and a label for every entry in every supported
locale. -/
structure MenuUsable (config : ClassroomConfig) : Prop where
  default_unique : config.spec.bootManager.menu.defaults = 1
  covered : ∀ entry ∈ config.spec.bootManager.menu.entries,
    ∀ locale ∈ config.spec.localization.supportedLocales,
      locale.str ∈ entry.label.map Prod.fst

/-! ### The errors of the semantic checks -/

/-- There is no error exactly when every label is in a supported locale and the default is the id
of some entry. -/
theorem runSemanticChecks_errors_eq_nil_iff (rt : TextRuntime) (config : ClassroomConfig) :
    (runSemanticChecks rt config).1 = [] ↔
      (∀ entry ∈ config.spec.bootManager.menu.entries,
        entry.labelled ⊆ config.spec.localization.supported) ∧
      0 < config.spec.bootManager.menu.defaults := by
  rw [(exactFindings_runSemanticChecks rt config).errors_eq_nil_iff, not_or]
  refine and_congr ?_ ?_
  · rw [exists_uncoveredLabel_iff]
    simp only [MenuEntry.labelled, LocalizationSpec.supported, Finset.subset_iff, List.mem_toFinset,
      not_exists, not_and, not_not]
  · simp only [MissingDefault, Menu.defaults, List.countP_pos_iff, decide_eq_true_eq, not_forall,
      not_not, exists_prop]

/-! ### Usable menus -/

theorem covered_iff (entry : MenuEntry) (localization : LocalizationSpec) :
    (∀ locale ∈ localization.supportedLocales, locale.str ∈ entry.label.map Prod.fst) ↔
      localization.supported ⊆ entry.labelled := by
  simp only [MenuEntry.labelled, LocalizationSpec.supported, Finset.subset_iff, List.mem_toFinset,
    List.forall_mem_map]

/-- The menu of a configuration without errors is usable exactly when no second entry has the id of
the default and no entry has fewer labelled locales than there are supported ones. -/
theorem menuUsable_iff (rt : TextRuntime) (config : ClassroomConfig)
    (h : (runSemanticChecks rt config).1 = []) :
    MenuUsable config ↔
      config.spec.bootManager.menu.defaults ≤ 1 ∧
      ∀ entry ∈ config.spec.bootManager.menu.entries,
        config.spec.localization.supported.card ≤ entry.labelled.card := by
  obtain ⟨hlabels, hdefault⟩ := (runSemanticChecks_errors_eq_nil_iff rt config).mp h
  constructor
  · intro husable
    refine ⟨husable.default_unique.le, fun entry hentry => ?_⟩
    exact Finset.card_le_card ((covered_iff entry _).mp (husable.covered entry hentry))
  · rintro ⟨hunique, hcard⟩
    refine ⟨by omega, fun entry hentry => (covered_iff entry _).mpr ?_⟩
    -- The labels lie within the locales and are as many, so they are all of them.
    have heq := Finset.eq_of_subset_of_card_le (hlabels entry hentry) (hcard entry hentry)
    exact heq.ge

/-- The configuration whose entry is labelled in both default locales. -/
def bilingualConfig : ClassroomConfig :=
  oneEntryConfig [("ca_ES", "Arrencada"), ("es_ES", "Arranque")] (List.cons_ne_nil _ _)

/-- `menuUsable_iff` at the bilingual menu. -/
theorem menuUsable_bilingual :
    (runSemanticChecks asciiText bilingualConfig).1 = [] ∧ MenuUsable bilingualConfig := by
  have h : (runSemanticChecks asciiText bilingualConfig).1 = [] := by decide
  refine ⟨h, (menuUsable_iff asciiText bilingualConfig h).mpr ⟨by decide, ?_⟩⟩
  intro entry hentry
  obtain rfl := List.mem_singleton.mp hentry
  decide

/-- A menu labelled in Spanish only passes the semantic checks, although Valencian is supported. -/
theorem menu_not_usable :
    (runSemanticChecks asciiText spanishConfig).1 = [] ∧ ¬ MenuUsable spanishConfig := by
  refine ⟨by decide, fun husable => ?_⟩
  have hcovered := husable.covered _ (List.mem_singleton_self _) .caES (by decide)
  exact absurd hcovered (by decide)

end ClassroomSuite.Config
