import ClassroomSuite.Config.Loader

/-!
# Validating a document

The semantic checks are those the schema cannot express: they compare fields of a configuration
that has already passed the schema. `validateDocument` runs the whole pipeline on one file and
turns an invalid document into a report instead of an exception; the configuration check of the
host diagnosis is built on it.

Source: `cli/src/bcs/config/validator.py`, `_check_config` of `cli/src/bcs/commands/doctor.py`.

## Main definitions

* `Finding`, `ValidationReport`.
* `runSemanticChecks`, `validateDocument`, `checkConfig`.

## Main results

* `validateDocument_eq`: the report in terms of what loading returns.
* `checkConfig_eq`: the check in terms of the report.
-/

namespace ClassroomSuite.Config

open Python Library

/-- One validation error or warning. -/
structure Finding where
  rule : String
  path : String
  message : String
  deriving DecidableEq, Repr

/-- The outcome of validating one document. -/
structure ValidationReport where
  source : PurePath
  errors : List Finding := []
  warnings : List Finding := []

/-- A report without errors is valid. -/
def ValidationReport.valid (report : ValidationReport) : Bool := report.errors.isEmpty

/-- Whether a report counts as a pass; a strict run counts warnings as failures. -/
def ValidationReport.isOk (report : ValidationReport) (strict : Bool) : Bool :=
  report.errors.isEmpty && !(strict && !report.warnings.isEmpty)

/-- The labels of one menu entry that are in no supported locale. -/
def labelFindings (rt : TextRuntime) (supported : List String) (index : ℕ) (entry : MenuEntry) :
    List Finding :=
  (entry.label.map Prod.fst).filterMap fun locale =>
    if locale ∈ supported then none
    else some {
      rule := "label-locale-coverage"
      path := "spec.bootManager.menu.entries." ++ toString index ++ ".label." ++ locale
      message := "locale " ++ rt.repr locale ++
        " is not listed in spec.localization.supportedLocales" }

/-- The errors and the warnings of the semantic rules. -/
def runSemanticChecks (rt : TextRuntime) (config : ClassroomConfig) :
    List Finding × List Finding :=
  let menu := config.spec.bootManager.menu
  let supported := config.spec.localization.supportedLocales.map Locale.str
  let labels := (menu.entries.mapIdx (labelFindings rt supported)).flatten
  let defaultEntry :=
    if menu.defaultEntry ∈ menu.entries.map MenuEntry.id then []
    else [{
      rule := "default-entry-exists"
      path := "spec.bootManager.menu.defaultEntry"
      message := "references unknown entry id " ++ rt.repr menu.defaultEntry }]
  let builderChecksum := config.spec.builder.provenance.checksumAlgorithm
  let deployChecksum := config.spec.deploy.verification.checksumAlgorithm
  let checksums :=
    if builderChecksum = deployChecksum then []
    else [{
      rule := "checksum-algorithm-match"
      path := "spec.deploy.verification.checksumAlgorithm"
      message := rt.repr deployChecksum.str ++
        " does not match spec.builder.provenance.checksumAlgorithm (" ++
        rt.repr builderChecksum.str ++ ")" }]
  let addressing := config.spec.network.addressing
  let assignments :=
    if addressing.mode = .static ∧ addressing.staticAssignments = [] then [{
      rule := "static-assignments-present"
      path := "spec.network.addressing.staticAssignments"
      message := "addressing.mode is 'static' but staticAssignments is empty" }]
    else []
  (labels ++ defaultEntry, checksums ++ assignments)

/-- A document that fails to load becomes one finding for each of its errors, or for its message
when it has none. -/
def schemaFindings (message : String) (errors : List String) : List Finding :=
  (if errors = [] then [message] else errors).map fun m =>
    { rule := "schema", path := "$", message := m }

/-- The report on one document. -/
def validateDocument (rt : ConfigRuntime) (host : Host) (loader : ConfigLoader)
    (source : PurePath) : Except ConfigException ValidationReport :=
  let loaded := do
    let document ← loader.loadRaw rt host (some source)
    parseClassroomConfig rt document source
  match loaded with
  | .ok config =>
    let (errors, warnings) := runSemanticChecks rt.text config
    .ok { source, errors, warnings }
  | .error (.configInvalid message errors) =>
    .ok { source, errors := schemaFindings message errors }
  | .error e => .error e

/-- The status of one check of the host diagnosis. -/
inductive CheckStatus where
  | ok
  | warn
  | fail
  | skip
  deriving DecidableEq, Repr

/-- The outcome of one check of the host diagnosis. -/
structure CheckResult where
  name : String
  status : CheckStatus
  message : String
  deriving DecidableEq, Repr

/-- What the check says of a report. -/
def reportCheck (path : PurePath) (report : ValidationReport) : CheckResult :=
  if report.errors ≠ [] then
    ⟨"config", .fail, path.str ++ " failed validation (" ++ toString report.errors.length ++
      " error(s))"⟩
  else if report.warnings ≠ [] then
    ⟨"config", .warn, path.str ++ " is valid with " ++ toString report.warnings.length ++
      " warning(s)"⟩
  else ⟨"config", .ok, path.str ++ " is valid"⟩

/-- The configuration check of the host diagnosis (`_check_config`). -/
def checkConfig (rt : ConfigRuntime) (host : Host) (loader : ConfigLoader) :
    Except ConfigException CheckResult :=
  match loader.resolvePath host with
  | .error (.usage _) => .ok ⟨"config", .warn, "no ClassroomConfig resolved (see --config)"⟩
  | .error e => .error e
  | .ok path =>
    match validateDocument rt host loader path with
    | .ok report => .ok (reportCheck path report)
    | .error e => .error e

/-! ### The report and the loader -/

theorem schemaFindings_ne_nil (message : String) (errors : List String) :
    schemaFindings message errors ≠ [] := by
  unfold schemaFindings
  split_ifs with h
  · exact List.cons_ne_nil _ _
  · simpa using h

/-- Loading a given file is loading its document and validating it. -/
theorem load_eq (rt : ConfigRuntime) (host : Host) (loader : ConfigLoader) (source : PurePath) :
    loader.load rt host (some source) =
      (loader.loadRaw rt host (some source) >>= fun document =>
        parseClassroomConfig rt document source) :=
  rfl

/-- The report is that of the loaded configuration, or of the error that loading raised. -/
theorem validateDocument_eq (rt : ConfigRuntime) (host : Host) (loader : ConfigLoader)
    (source : PurePath) :
    validateDocument rt host loader source = match loader.load rt host (some source) with
      | .ok config => .ok ⟨source, (runSemanticChecks rt.text config).1,
          (runSemanticChecks rt.text config).2⟩
      | .error (.configInvalid message errors) => .ok ⟨source, schemaFindings message errors, []⟩
      | .error e => .error e :=
  rfl

/-- Once the file is found, the check raises exactly when the report cannot be made. -/
theorem checkConfig_eq {rt : ConfigRuntime} {host : Host} {loader : ConfigLoader}
    {path : PurePath} (h : loader.resolvePath host = .ok path) :
    checkConfig rt host loader = (validateDocument rt host loader path).map (reportCheck path) := by
  rw [checkConfig, h]
  dsimp only
  cases validateDocument rt host loader path <;> rfl

end ClassroomSuite.Config
