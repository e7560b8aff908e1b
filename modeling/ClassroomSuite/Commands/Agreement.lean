import ClassroomSuite.Commands.Doctor

/-!
# The commands agree on the configuration

Three commands look at the configuration that is found: `bcs doctor` checks it, `bcs validate`
without a document validates it, and `bcs version` shows whether it fits. Unless the console fails
on what they print, they do not contradict each other: the check passes exactly if the validation
does, both being strict or neither; a configuration that passes is shown as one that fits; and an
exception of its loading ends all three in the same way. They differ where no configuration is
found, or where a path cannot be looked up.

Source: `_check_config` of `cli/src/bcs/commands/doctor.py`, `cli/src/bcs/commands/validate.py`,
`_loaded_config_info` of `cli/src/bcs/commands/version.py`.

## Main definitions

* `ConfigAgreement`.

## Main results

* `configAgreement`.
-/

namespace ClassroomSuite.Commands

open Python Library Config

variable {d : Diagnosis} {format : OutputFormat} {strict : Bool} {path : PurePath}

/-! ### The check of the configuration -/

/-- A report lets a diagnosis fail exactly if it is not good enough. -/
theorem notPassed_reportCheck (strict : Bool) (path : PurePath) (report : ValidationReport) :
    notPassed strict [reportCheck path report] = !report.isOk strict := by
  rw [reportCheck, ValidationReport.isOk]
  by_cases herrors : report.errors = []
  · by_cases hwarnings : report.warnings = [] <;> cases strict <;>
      simp [notPassed, herrors, hwarnings]
  · cases strict <;> simp [notPassed, herrors]

theorem config_known : ∀ name ∈ selectedChecks ["config"], name ∈ checkNames := by decide

/-- The result of the check decides how the diagnosis ends. -/
theorem doctor_of_checkConfig {result : CheckResult}
    (h : checkConfig d.config d.host d.loader = .ok result) :
    (runDoctor d format ["config"] strict).run =
      if notPassed strict [result] then
        d.console.finish (doctorOutput format [result]) [failedChecks.report] 4
      else d.console.finish (doctorOutput format [result]) [] 0 := by
  refine run_of_results config_known ?_
  have hcheck : d.runCheck "config" = .ok result := mapError_eq_ok_iff.mpr h
  change ["config"].mapM d.runCheck = _
  rw [List.mapM_cons, List.mapM_nil, hcheck]
  rfl

/-- The exception of the check ends the diagnosis. -/
theorem doctor_of_checkConfig_raises {e : ConfigException}
    (h : checkConfig d.config d.host d.loader = .error e) :
    (runDoctor d format ["config"] strict).run = (ofConfig d.describe e).ends [] := by
  refine (run_of_check_raises config_known ?_).1
  have hcheck : d.runCheck "config" = .error (ofConfig d.describe e) :=
    mapError_eq_error_iff.mpr ⟨e, h, rfl⟩
  change ["config"].mapM d.runCheck = _
  rw [List.mapM_cons, hcheck]
  rfl

/-! ### The configuration that is found -/

theorem validateTargets_of_found (hpath : d.loader.resolvePath d.host = .ok path) :
    validateTargets d.host d.loader [] = .ok [path] := by
  rw [validateTargets, if_pos rfl, hpath]
  rfl

/-- A report decides how validation ends. -/
theorem validate_of_report {report : ValidationReport}
    (hpath : d.loader.resolvePath d.host = .ok path)
    (h : validateDocument d.config d.host d.loader path = .ok report) :
    (runValidate d.console d.config d.host d.loader d.describe format [] strict).run =
      if report.isOk strict then d.console.finish (validateOutput format [report]) [] 0
      else d.console.finish (validateOutput format [report]) [(failedValidation 1 1).report] 3 := by
  have hreports : [path].mapM (validateDocument d.config d.host d.loader) = .ok [report] := by
    rw [List.mapM_cons, List.mapM_nil, h]
    rfl
  rw [run_of_reports (validateTargets_of_found hpath) hreports]
  cases hok : report.isOk strict <;> simp [hok]

/-- The exception of the loading ends validation. -/
theorem validate_of_raises {e : ConfigException} (hpath : d.loader.resolvePath d.host = .ok path)
    (h : validateDocument d.config d.host d.loader path = .error e) :
    (runValidate d.console d.config d.host d.loader d.describe format [] strict).run =
      (ofConfig d.describe e).ends [] := by
  refine run_of_escape (validateTargets_of_found hpath) ?_
  rw [List.mapM_cons, h]
  rfl

/-- What cannot be validated cannot be shown either, for the same reason. -/
theorem loadedConfigInfo_of_raises {e : ConfigException}
    (hpath : d.loader.resolvePath d.host = .ok path)
    (h : validateDocument d.config d.host d.loader path = .error e) :
    loadedConfigInfo d.config d.host d.loader = .error e := by
  rw [loadedConfigInfo, hpath]
  rw [validateDocument_eq] at h
  dsimp only
  cases hload : d.loader.load d.config d.host (some path) with
  | ok config => rw [hload] at h; cases h
  | error e' =>
    rw [hload] at h
    cases e' with
    | configInvalid message errors => cases h
    | _ => rw [← Except.error.inj h]

/-- A configuration that passes fits. -/
theorem loadedConfigInfo_of_passes (hpath : d.loader.resolvePath d.host = .ok path)
    (h : Passes d.config d.host d.loader strict path) :
    loadedConfigInfo d.config d.host d.loader =
      .ok (some ⟨path, some "bcs/v1alpha1", true⟩) := by
  obtain ⟨config, hload, -⟩ := h
  rw [loadedConfigInfo, hpath]
  dsimp only
  rw [hload]
  rfl

/-! ### The agreement -/

/-- What the three commands make of the configuration: the first two are strict or not, and each may
be asked for its own format. -/
structure ConfigAgreement (d : Diagnosis) (strict : Bool) (info : BuildInfo)
    (format₁ format₂ format₃ : OutputFormat) (doctor validate version : Ended) : Prop where
  /-- A configuration with a report passes the check and the validation, or neither, unless the
  console fails; and what passes is shown as a configuration that fits. -/
  reported : ∀ path, d.loader.resolvePath d.host = .ok path →
    Reported d.config d.host d.loader path → ∃ passed result report stderr₁ stderr₂,
      (passed = true ↔ Passes d.config d.host d.loader strict path) ∧
      doctor = d.console.finish (doctorOutput format₁ [result]) stderr₁ (if passed then 0 else 4) ∧
      validate = d.console.finish (validateOutput format₂ [report]) stderr₂
        (if passed then 0 else 3) ∧
      (passed = true → version = d.console.finish
        (versionOutput format₃ info (some ⟨path, some "bcs/v1alpha1", true⟩)) [] 0)
  /-- An exception of the loading is the same for all. -/
  raised : ∀ path, d.loader.resolvePath d.host = .ok path →
    ¬ Reported d.config d.host d.loader path → doctor = validate ∧ version = validate ∧
      validate.stdout = [] ∧ (validate.status = 1 ∨ validate.status = 2)
  /-- Where nothing is found, this is an error, a warning and no news. -/
  missing : ∀ message, d.loader.resolvePath d.host = .error (.usage message) →
    validate = ⟨[], ["bcs: error: " ++ message ++ "\n"], 2⟩ ∧
    (∃ stderr, doctor = d.console.finish (doctorOutput format₁
      [⟨"config", .warn, "no ClassroomConfig resolved (see --config)"⟩]) stderr
        (if strict then 4 else 0)) ∧
    version = d.console.finish (versionOutput format₃ info none) [] 0
  /-- Where a path cannot be looked up, only the version does without the configuration. -/
  unanswered : ∀ e, d.loader.resolvePath d.host = .error (.osError e) →
    doctor = validate ∧ (∃ text, validate = ⟨[], ["bcs: unexpected error: " ++ text ++ "\n"], 1⟩) ∧
    version = d.console.finish (versionOutput format₃ info none) [] 0

/-- Without a path the version is shown without a configuration. -/
theorem version_of_no_path {e : ConfigException} {info : BuildInfo}
    (hpath : d.loader.resolvePath d.host = .error e) :
    (runVersion d.console d.config d.host d.loader d.describe format info).run =
      d.console.finish (versionOutput format info none) [] 0 := by
  refine run_of_loaded ?_
  rw [loadedConfigInfo, hpath]

/-- Without a path the validation has nothing to validate. -/
theorem validate_of_no_path {e : ConfigException} (hpath : d.loader.resolvePath d.host = .error e) :
    (runValidate d.console d.config d.host d.loader d.describe format [] strict).run =
      (ofConfig d.describe e).ends [] := by
  refine run_of_no_target ?_
  rw [validateTargets, if_pos rfl, hpath]
  rfl

/-- The agreement on a configuration that is found. -/
theorem configAgreement_of_found {info : BuildInfo} {format₁ format₂ format₃ : OutputFormat}
    (hpath : d.loader.resolvePath d.host = .ok path) :
    ConfigAgreement d strict info format₁ format₂ format₃
      (runDoctor d format₁ ["config"] strict).run
      (runValidate d.console d.config d.host d.loader d.describe format₂ [] strict).run
      (runVersion d.console d.config d.host d.loader d.describe format₃ info).run := by
  have hunique {path' : PurePath} (h : d.loader.resolvePath d.host = .ok path') : path' = path :=
    Except.ok.inj (h.symm.trans hpath)
  cases hreport : validateDocument d.config d.host d.loader path with
  | error e =>
    have hcheck : checkConfig d.config d.host d.loader = .error e := by
      rw [checkConfig_eq hpath, hreport]
      rfl
    have hnot : ¬ Reported d.config d.host d.loader path := by
      rw [← validateDocument_returns_iff, hreport]
      rintro ⟨report, h⟩
      cases h
    have hstatus : (ofConfig d.describe e).status = 1 ∨ (ofConfig d.describe e).status = 2 :=
      status_of_validateDocument hreport
    rw [doctor_of_checkConfig_raises hcheck, validate_of_raises hpath hreport,
      run_of_not_loaded (loadedConfigInfo_of_raises hpath hreport)]
    exact {
      reported := fun path' hfound h => absurd (hunique hfound ▸ h) hnot
      raised := fun _ _ _ => ⟨rfl, rfl, rfl, hstatus⟩
      missing := fun message h => by rw [hpath] at h; cases h
      unanswered := fun e' h => by rw [hpath] at h; cases h }
  | ok report =>
    have hcheck : checkConfig d.config d.host d.loader = .ok (reportCheck path report) := by
      rw [checkConfig_eq hpath, hreport]
      rfl
    have hreported := validateDocument_returns_iff.mp ⟨report, hreport⟩
    have hpasses : report.isOk strict = true ↔ Passes d.config d.host d.loader strict path :=
      (isOk_of_validateDocument hreport).2
    rw [doctor_of_checkConfig hcheck, validate_of_report hpath hreport, notPassed_reportCheck]
    refine ⟨fun path' hfound _ => ?_, fun path' hfound h => ?_, fun message h => ?_,
      fun e' h => ?_⟩
    · obtain rfl := hunique hfound
      cases hok : report.isOk strict with
      | false => exact ⟨false, reportCheck path' report, report, _, _,
          by rw [← hpasses, hok], rfl, rfl, Bool.noConfusion⟩
      | true => exact ⟨true, reportCheck path' report, report, _, _,
          by rw [← hpasses, hok], rfl, rfl, fun _ =>
            run_of_loaded (loadedConfigInfo_of_passes hfound (hpasses.mp hok))⟩
    · exact absurd (hunique hfound ▸ hreported) h
    · rw [hpath] at h
      cases h
    · rw [hpath] at h
      cases h

/-- **The commands agree on the configuration that is found.** -/
theorem configAgreement (d : Diagnosis) (strict : Bool) (info : BuildInfo)
    (format₁ format₂ format₃ : OutputFormat) :
    ConfigAgreement d strict info format₁ format₂ format₃
      (runDoctor d format₁ ["config"] strict).run
      (runValidate d.console d.config d.host d.loader d.describe format₂ [] strict).run
      (runVersion d.console d.config d.host d.loader d.describe format₃ info).run := by
  cases hpath : d.loader.resolvePath d.host with
  | ok path => exact configAgreement_of_found hpath
  | error e =>
    have hfound {path : PurePath} (h : d.loader.resolvePath d.host = .ok path) : False := by
      rw [hpath] at h
      cases h
    rw [validate_of_no_path hpath, version_of_no_path hpath]
    rcases resolvePath_eq_error hpath with ⟨message, rfl⟩ | ⟨e, rfl⟩
    · have hcheck : checkConfig d.config d.host d.loader =
          .ok ⟨"config", .warn, "no ClassroomConfig resolved (see --config)"⟩ := by
        rw [checkConfig, hpath]
      rw [doctor_of_checkConfig hcheck]
      refine ⟨fun _ h => (hfound h).elim, fun _ h => (hfound h).elim, fun message' h => ?_,
        fun e' h => ?_⟩
      · rw [hpath] at h
        obtain ⟨⟩ := h
        refine ⟨rfl, ?_, rfl⟩
        cases strict <;> exact ⟨_, rfl⟩
      · rw [hpath] at h
        cases h
    · have hcheck : checkConfig d.config d.host d.loader = .error (.osError e) := by
        rw [checkConfig, hpath]
      rw [doctor_of_checkConfig_raises hcheck]
      refine ⟨fun _ h => (hfound h).elim, fun _ h => (hfound h).elim, fun message h => ?_,
        fun _ _ => ⟨rfl, ⟨_, rfl⟩, rfl⟩⟩
      rw [hpath] at h
      cases h

end ClassroomSuite.Commands
