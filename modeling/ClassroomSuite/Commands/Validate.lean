import ClassroomSuite.Commands.Results
import ClassroomSuite.Config.Validator
import ClassroomSuite.Library.Traversal

/-!
# `bcs validate` and `bcs version`

Validation is run on the given documents, or on the one that is found, and makes a report on each
before anything is printed. The exit status is 0 if all documents pass, and 3 if some do not; an
exception that a document's loading raises, other than the one for invalid configurations, ends the
run with nothing printed. The version is printed together with what is known of the configuration
that is found, and the same exceptions end this as well; that none can be found is no news. What is
printed is handed to the console, which may fail on it.

Source: `cli/src/bcs/commands/validate.py`, `cli/src/bcs/commands/version.py`.

## Main definitions

* `runValidate`, `runVersion`.
* `Passes`, `Reported`: what becomes of one document.
* `Validates`, `ShownRightly`: how validation ends, and what is shown of a configuration.

## Main results

* `validates_runValidate`, `versions_runVersion`.
-/

namespace ClassroomSuite.Commands

open Python Library Config

section Commands

variable (console : Console) (rt : ConfigRuntime) (host : Host) (loader : ConfigLoader)
  (describe : ConfigException → String)

/-- An exception of the configuration code, as a command raises it. Those of the interpreter are
described by their texts. -/
def ofConfig : ConfigException → CommandError
  | .usage message => .bcs ⟨.usage, message⟩
  | .configInvalid message _ => .bcs ⟨.configInvalid, message⟩
  | .other text => .unexpected text
  | e => .unexpected (describe e)

/-! ### `bcs validate` -/

/-- A finding, as a result has it. -/
def findingJson (finding : Finding) : Json :=
  .obj [("rule", .str finding.rule), ("path", .str finding.path), ("message", .str finding.message)]

/-- A report, as a result has it. -/
def reportJson (report : ValidationReport) : Json :=
  .obj [("source", .str report.source.str), ("valid", .bool report.valid),
    ("errors", .arr (report.errors.map findingJson)),
    ("warnings", .arr (report.warnings.map findingJson))]

/-- The lines of a report. -/
def reportLines (report : ValidationReport) : List String :=
  (report.errors.map fun error =>
    "[red]error[/red] [" ++ error.rule ++ "] " ++ error.path ++ ": " ++ error.message) ++
  (report.warnings.map fun warning =>
    "[yellow]warning[/yellow] [" ++ warning.rule ++ "] " ++ warning.path ++ ": " ++
      warning.message) ++
  [if report.valid && report.warnings.isEmpty then "[green]valid[/green] " ++ report.source.str
    else if report.valid then "[yellow]valid with warnings[/yellow] " ++ report.source.str
    else "[red]invalid[/red] " ++ report.source.str]

/-- Print the lines of a report. -/
def printReportText (report : ValidationReport) : Command PUnit :=
  printLines console (reportLines report)

/-- Print reports, as lines or as one value. -/
def printReports (format : OutputFormat) (reports : List ValidationReport) : Command PUnit :=
  if format = .text then reports.forM (printReportText console)
  else printStructuredResult console format [("results", .arr (reports.map reportJson))]

/-- The documents to validate. -/
def validateTargets (files : List PurePath) : Except ConfigException (List PurePath) :=
  if files = [] then (loader.resolvePath host).map fun path => [path] else .ok files

/-- `run_validate`: validate the documents and print a report on each. -/
def runValidate (format : OutputFormat) (files : List PurePath) (strict : Bool) : Command ℕ := do
  let targets ← liftCommand (ofConfig describe) (validateTargets host loader files)
  let reports ← liftCommand (ofConfig describe) (targets.mapM (validateDocument rt host loader))
  printReports console format reports
  if reports.all fun report => report.isOk strict then return 0
  else
    let failing := reports.countP fun report => !report.isOk strict
    throw (.bcs ⟨.configInvalid, toString failing ++ " of " ++ toString reports.length ++
      " document(s) failed validation"⟩)

/-! ### `bcs version` -/

/-- The version of the format, of which there is one. -/
def apiVersion (_ : ClassroomConfig) : String := "bcs/v1alpha1"

/-- What is known of a configuration: its path, its version, and whether it fits. -/
structure LoadedConfig where
  path : PurePath
  apiVersion : Option String
  compatible : Bool

/-- What is known of the configuration that is found, if one is. -/
def loadedConfigInfo : Except ConfigException (Option LoadedConfig) :=
  match loader.resolvePath host with
  | .error _ => .ok none
  | .ok path =>
    match loader.load rt host (some path) with
    | .error (.configInvalid _ _) => .ok (some ⟨path, none, false⟩)
    | .error e => .error e
    | .ok config => .ok (some ⟨path, some (apiVersion config),
        supportedApiVersions.contains (apiVersion config)⟩)

/-- A text or null. -/
def optionalStr : Option String → Json
  | none => .null
  | some s => .str s

/-- What the build has left about itself. -/
structure BuildInfo where
  version : String
  commit : Option String
  buildDate : Option String

/-- The configuration, as a payload has it. -/
def LoadedConfig.toJson (loaded : LoadedConfig) : Json :=
  .obj [("path", .str loaded.path.str), ("apiVersion", optionalStr loaded.apiVersion),
    ("compatible", .bool loaded.compatible)]

/-- The lines of the version. -/
def versionLines (info : BuildInfo) (versions : List String) (loaded : Option LoadedConfig) :
    List String :=
  ["[bold]bcs[/bold] " ++ info.version] ++
  (info.commit.filter (· ≠ "")).toList.map (fun commit => "  commit: " ++ commit) ++
  (info.buildDate.filter (· ≠ "")).toList.map (fun date => "  build date: " ++ date) ++
  ["  supported config apiVersion(s): " ++ ", ".intercalate versions] ++
  [match loaded with
    | none => "  loaded config: [dim]none resolved[/dim]"
    | some config => "  loaded config: " ++ config.path.str ++ " (apiVersion=" ++
        config.apiVersion.getD "None" ++ ", compatible=" ++
        (if config.compatible then "yes" else "[red]no[/red]") ++ ")"]

/-- The payload of the version. -/
def versionPayload (info : BuildInfo) (versions : List String) (loaded : Option LoadedConfig) :
    Fields :=
  [("version", .str info.version), ("commit", optionalStr info.commit),
    ("buildDate", optionalStr info.buildDate),
    ("supportedConfigApiVersions", .arr (versions.map .str)),
    ("loadedConfig", (loaded.map LoadedConfig.toJson).getD .null)]

/-- Print the versions, as lines or as one value. -/
def printVersion (format : OutputFormat) (info : BuildInfo) (loaded : Option LoadedConfig) :
    Command PUnit :=
  let versions := sortedTexts supportedApiVersions
  if format = .text then printLines console (versionLines info versions loaded)
  else printStructuredResult console format (versionPayload info versions loaded)

/-- `run_version`: print the versions, and the configuration if there is one. -/
def runVersion (format : OutputFormat) (info : BuildInfo) : Command ℕ := do
  let loaded ← liftCommand (ofConfig describe) (loadedConfigInfo rt host loader)
  printVersion console format info loaded
  return 0

end Commands

/-! ### What becomes of a document -/

section Documents

variable (rt : ConfigRuntime) (host : Host) (loader : ConfigLoader)

/-- The document is loaded and has no error and, if the run is strict, no warning. -/
def Passes (strict : Bool) (target : PurePath) : Prop :=
  ∃ config, loader.load rt host (some target) = .ok config ∧
    (runSemanticChecks rt.text config).1 = [] ∧
    (strict = true → (runSemanticChecks rt.text config).2 = [])

/-- The document is loaded, or its loading raises the exception for invalid configurations. -/
def Reported (target : PurePath) : Prop :=
  (∃ config, loader.load rt host (some target) = .ok config) ∨
    ∃ message errors, loader.load rt host (some target) = .error (.configInvalid message errors)

variable {rt host loader}

theorem isOk_iff {report : ValidationReport} {strict : Bool} :
    report.isOk strict = true ↔ report.errors = [] ∧ (strict = true → report.warnings = []) := by
  cases strict <;> simp [ValidationReport.isOk]

/-- There is a report on a document that is loaded, or found to be invalid. -/
theorem validateDocument_returns_iff {target : PurePath} :
    (∃ report, validateDocument rt host loader target = .ok report) ↔
      Reported rt host loader target := by
  rw [validateDocument_eq, Reported]
  cases loader.load rt host (some target) with
  | ok config => simp
  | error e => cases e <;> simp

/-- The report passes if the document does. -/
theorem isOk_of_validateDocument {target : PurePath} {report : ValidationReport} {strict : Bool}
    (h : validateDocument rt host loader target = .ok report) :
    report.source = target ∧ (report.isOk strict = true ↔ Passes rt host loader strict target) := by
  rw [validateDocument_eq] at h
  rw [isOk_iff, Passes]
  cases hload : loader.load rt host (some target) with
  | ok config =>
    rw [hload] at h
    obtain rfl := Except.ok.inj h
    simp
  | error e =>
    rw [hload] at h
    cases e with
    | configInvalid message errors =>
      obtain rfl := Except.ok.inj h
      simp [schemaFindings_ne_nil]
    | _ => cases h

/-- Finding a document fails with a usage error, or on a path that cannot be looked up. -/
theorem resolvePath_eq_error {e : ConfigException} (h : loader.resolvePath host = .error e) :
    (∃ message, e = .usage message) ∨ ∃ e', e = .osError e' := by
  have hfile (path : PurePath) (message : String) (h : existingFile host path message = .error e) :
      (∃ message, e = .usage message) ∨ ∃ e', e = .osError e' := by
    rw [existingFile_eq] at h
    split at h
    · cases h
    · exact Or.inl ⟨_, (Except.error.inj h).symm⟩
    · exact Or.inr ⟨_, (Except.error.inj h).symm⟩
  have hsingle (files : List PurePath) (h : singleFile loader.cwd files = .error e) :
      ∃ message, e = .usage message := by
    rcases files with _ | ⟨path, _ | ⟨path', paths⟩⟩
    · exact ⟨_, (Except.error.inj h).symm⟩
    · cases h
    · exact ⟨_, (Except.error.inj h).symm⟩
  rw [ConfigLoader.resolvePath] at h
  split at h
  · exact hfile _ _ h
  · split at h
    · exact hfile _ _ h
    · cases hfiles : filesAmong host (localCandidates loader.cwd) with
      | ok files =>
        rw [hfiles] at h
        exact Or.inl (hsingle files h)
      | error e' =>
        rw [hfiles] at h
        obtain ⟨-, -, e'', -, rfl⟩ := filesAmong_eq_error hfiles
        exact Or.inr ⟨e'', (Except.error.inj h).symm⟩

end Documents

/-! ### How validation ends -/

section Ends

variable {console : Console} {rt : ConfigRuntime} {host : Host} {loader : ConfigLoader}
  {describe : ConfigException → String} {format : OutputFormat} {files targets : List PurePath}
  {strict : Bool} {reports : List ValidationReport}

/-- What is handed to the console of reports. -/
def validateOutput (format : OutputFormat) (reports : List ValidationReport) : List Printed :=
  if format = .text then reports.flatMap fun report => (reportLines report).map Printed.line
  else [format.printed [("schemaVersion", .str cliSchemaVersion),
    ("results", .arr (reports.map reportJson))]]

theorem prints_printReports (console : Console) (format : OutputFormat)
    (reports : List ValidationReport) :
    Prints console (printReports console format reports) (validateOutput format reports) () := by
  rw [printReports, validateOutput]
  split_ifs with hformat
  · exact prints_forM reports fun report _ => prints_printLines console (reportLines report)
  · exact prints_printJsonOrYaml hformat _

/-- The exception about documents that have failed. -/
def failedValidation (failing total : ℕ) : CommandError :=
  .bcs ⟨.configInvalid, toString failing ++ " of " ++ toString total ++
    " document(s) failed validation"⟩

/-- With a report on each document, the run hands them to the console and ends with 0 or 3. -/
theorem run_of_reports (htargets : validateTargets host loader files = .ok targets)
    (hreports : targets.mapM (validateDocument rt host loader) = .ok reports) :
    (runValidate console rt host loader describe format files strict).run =
      if reports.all fun report => report.isOk strict then
        console.finish (validateOutput format reports) [] 0
      else console.finish (validateOutput format reports) [(failedValidation
        (reports.countP fun report => !report.isOk strict) reports.length).report] 3 := by
  have hreturns (h : (reports.all fun report => report.isOk strict) = true) :
      Prints console (runValidate console rt host loader describe format files strict)
        ([] ++ ([] ++ (validateOutput format reports ++ []))) 0 :=
    (prints_liftCommand htargets).bind <| (prints_liftCommand hreports).bind <|
      (prints_printReports console format reports).bind <| by
        rw [if_pos h]
        exact .pure console 0
  have hraises (h : ¬ (reports.all fun report => report.isOk strict) = true) :
      RaisesAfter console (runValidate console rt host loader describe format files strict)
        ([] ++ ([] ++ (validateOutput format reports ++ []))) (failedValidation _ _) :=
    (prints_liftCommand htargets).bind_raises <| (prints_liftCommand hreports).bind_raises <|
      (prints_printReports console format reports).bind_raises <| by
        rw [if_neg h]
        exact .throw console _
  simp only [List.nil_append, List.append_nil] at hreturns hraises
  split_ifs with h
  · exact run_of_prints (hreturns h)
  · exact run_of_raises (hraises h)

/-- Only the search for a document fails. -/
theorem validateTargets_eq_error {e : ConfigException}
    (h : validateTargets host loader files = .error e) :
    (∃ message, e = .usage message) ∨ ∃ e', e = .osError e' := by
  rw [validateTargets] at h
  split_ifs at h
  cases hpath : loader.resolvePath host with
  | ok path => rw [hpath] at h; cases h
  | error e' =>
    rw [hpath] at h
    obtain rfl := Except.error.inj h
    exact resolvePath_eq_error hpath

/-- There is a document to validate. -/
theorem validateTargets_ne_nil (h : validateTargets host loader files = .ok targets) :
    targets ≠ [] := by
  rw [validateTargets] at h
  split_ifs at h with hfiles
  · cases hpath : loader.resolvePath host with
    | error e => rw [hpath] at h; cases h
    | ok path =>
      rw [hpath] at h
      obtain rfl := Except.ok.inj h
      exact List.cons_ne_nil _ _
  · obtain rfl := Except.ok.inj h
    exact hfiles

/-- Without a document the run ends before anything is printed. -/
theorem run_of_no_target {e : ConfigException}
    (htargets : validateTargets host loader files = .error e) :
    (runValidate console rt host loader describe format files strict).run =
      (ofConfig describe e).ends [] := by
  have hraises : RaisesAfter console
      (runValidate console rt host loader describe format files strict) [] (ofConfig describe e) :=
    (raisesAfter_liftCommand htargets).bind _
  exact run_of_raises hraises

/-- The exception of a document ends the run before anything is printed. -/
theorem run_of_escape {e : ConfigException}
    (htargets : validateTargets host loader files = .ok targets)
    (he : targets.mapM (validateDocument rt host loader) = .error e) :
    (runValidate console rt host loader describe format files strict).run =
      (ofConfig describe e).ends [] := by
  have hraises : RaisesAfter console
      (runValidate console rt host loader describe format files strict) ([] ++ [])
        (ofConfig describe e) :=
    (prints_liftCommand htargets).bind_raises <| (raisesAfter_liftCommand he).bind _
  exact run_of_raises hraises

/-- What a result says of a document: its path, and whether it is valid. -/
def ResultFor (rt : ConfigRuntime) (host : Host) (loader : ConfigLoader) (target : PurePath)
    (result : Json) : Prop :=
  result.field "source" = .str target.str ∧
    ∃ valid, result.field "valid" = .bool valid ∧
      (valid = true ↔ Passes rt host loader false target)

/-- How validation ends. -/
structure Validates (console : Console) (rt : ConfigRuntime) (host : Host) (loader : ConfigLoader)
    (format : OutputFormat) (strict : Bool) (targets : List PurePath) (ended : Ended) : Prop where
  /-- With a report on each document these are handed to the console, as one value that has a result
  for each if the format is structured, and the run ends by whether they pass, unless the console
  fails. -/
  reported : (∀ target ∈ targets, Reported rt host loader target) →
    ∃ reports stderr status,
      List.Forall₂ (fun target report => validateDocument rt host loader target = .ok report)
        targets reports ∧
      ended = console.finish (validateOutput format reports) stderr status ∧
      (status = 0 ∨ status = 3) ∧
      (status = 0 ↔ ∀ target ∈ targets, Passes rt host loader strict target) ∧
      (format ≠ .text → ∃ results, validateOutput format reports =
        [format.printed [("schemaVersion", .str cliSchemaVersion), ("results", .arr results)]] ∧
          List.Forall₂ (ResultFor rt host loader) targets results)
  /-- Without a report on each document nothing is printed. -/
  escaped : (¬ ∀ target ∈ targets, Reported rt host loader target) →
    ended.stdout = [] ∧ (ended.status = 1 ∨ ended.status = 2)

/-- A result is that of its document. -/
theorem resultFor_of_validateDocument {target : PurePath} {report : ValidationReport}
    (h : validateDocument rt host loader target = .ok report) :
    ResultFor rt host loader target (reportJson report) := by
  obtain ⟨rfl, hpasses⟩ : _ ∧ (report.isOk false = true ↔ _) := isOk_of_validateDocument h
  refine ⟨rfl, report.valid, rfl, ?_⟩
  rw [← hpasses]
  simp [ValidationReport.valid, ValidationReport.isOk]

/-- The exception that a document's loading raises is not the one for invalid configurations. -/
theorem status_of_validateDocument {target : PurePath} {e : ConfigException}
    (h : validateDocument rt host loader target = .error e) :
    (ofConfig describe e).status = 1 ∨ (ofConfig describe e).status = 2 := by
  rw [validateDocument_eq] at h
  cases hload : loader.load rt host (some target) with
  | ok config => rw [hload] at h; cases h
  | error e' =>
    rw [hload] at h
    cases e' with
    | configInvalid message errors => cases h
    | usage message => obtain rfl := Except.error.inj h; exact Or.inr rfl
    | _ => obtain rfl := Except.error.inj h; exact Or.inl rfl

/-- **How `bcs validate` ends**: if no document is given and none is found, with a usage error, or
with another exception where a path cannot be looked up; and otherwise by what becomes of the
documents. -/
theorem validates_runValidate (console : Console) (rt : ConfigRuntime) (host : Host)
    (loader : ConfigLoader) (describe : ConfigException → String) (format : OutputFormat)
    (files : List PurePath) (strict : Bool) :
    match validateTargets host loader files with
    | .ok targets => Validates console rt host loader format strict targets
        (runValidate console rt host loader describe format files strict).run
    | .error (.usage message) =>
        (runValidate console rt host loader describe format files strict).run =
          ⟨[], ["bcs: error: " ++ message ++ "\n"], 2⟩
    | .error _ => ∃ text, (runValidate console rt host loader describe format files strict).run =
        ⟨[], ["bcs: unexpected error: " ++ text ++ "\n"], 1⟩ := by
  cases htargets : validateTargets host loader files with
  | error e =>
    rcases validateTargets_eq_error htargets with ⟨message, rfl⟩ | ⟨e', rfl⟩
    · exact run_of_no_target htargets
    · exact ⟨_, run_of_no_target htargets⟩
  | ok targets =>
    dsimp only
    have hreported : (∃ reports, targets.mapM (validateDocument rt host loader) = .ok reports) ↔
        ∀ target ∈ targets, Reported rt host loader target := by
      rw [exists_mapM_eq_ok_iff]
      exact forall₂_congr fun target _ => validateDocument_returns_iff
    cases hreports : targets.mapM (validateDocument rt host loader) with
    | error e =>
      have hnot : ¬ ∀ target ∈ targets, Reported rt host loader target := by
        rw [← hreported, hreports]
        rintro ⟨reports, hok⟩
        cases hok
      obtain ⟨before, target, after, -, -, htarget⟩ := (mapM_eq_error_iff _ _ _).mp hreports
      have hstatus : (ofConfig describe e).status = 1 ∨ (ofConfig describe e).status = 2 :=
        status_of_validateDocument htarget
      rw [run_of_escape htargets hreports]
      exact ⟨fun h => absurd h hnot, fun _ => ⟨rfl, hstatus⟩⟩
    | ok reports =>
      have hall := (mapM_eq_ok_iff _ _ _).mp hreports
      have hyes := hreported.mp ⟨reports, hreports⟩
      have hpass : (∀ target ∈ targets, Passes rt host loader strict target) ↔
          (reports.all fun report => report.isOk strict) = true := by
        rw [List.all_eq_true]
        exact forall_mem_iff_of_forall₂ hall fun target report h =>
          (isOk_of_validateDocument h).2.symm
      have hprinted : format ≠ .text → ∃ results, validateOutput format reports =
          [format.printed [("schemaVersion", .str cliSchemaVersion), ("results", .arr results)]] ∧
          List.Forall₂ (ResultFor rt host loader) targets results := fun hformat =>
        ⟨reports.map reportJson, if_neg hformat, List.forall₂_map_right_iff.mpr
          (hall.imp fun target report => resultFor_of_validateDocument)⟩
      refine ⟨fun _ => ?_, fun h => absurd hyes h⟩
      rw [run_of_reports htargets hreports]
      split_ifs with hok
      · exact ⟨reports, _, 0, hall, rfl, Or.inl rfl, iff_of_true rfl (hpass.mpr hok), hprinted⟩
      · exact ⟨reports, _, 3, hall, rfl, Or.inr rfl,
          iff_of_false (by simp) fun h => hok (hpass.mp h), hprinted⟩

/-! ### How the version ends -/

variable {info : BuildInfo}

/-- What is handed to the console of the version. -/
def versionOutput (format : OutputFormat) (info : BuildInfo) (loaded : Option LoadedConfig) :
    List Printed :=
  let versions := sortedTexts supportedApiVersions
  if format = .text then (versionLines info versions loaded).map Printed.line
  else [format.printed (("schemaVersion", .str cliSchemaVersion) ::
    versionPayload info versions loaded)]

theorem prints_printVersion (console : Console) (format : OutputFormat) (info : BuildInfo)
    (loaded : Option LoadedConfig) :
    Prints console (printVersion console format info loaded)
      (versionOutput format info loaded) () := by
  rw [printVersion, versionOutput]
  split_ifs with hformat
  · exact prints_printLines console _
  · exact prints_printJsonOrYaml hformat _

/-- What is shown of the configuration that is found is true of it. -/
structure ShownRightly (rt : ConfigRuntime) (host : Host) (loader : ConfigLoader)
    (loaded : Option LoadedConfig) : Prop where
  found : (∃ config, loaded = some config) ↔ ∃ path, loader.resolvePath host = .ok path
  path : ∀ config, loaded = some config → loader.resolvePath host = .ok config.path
  compatible : ∀ config, loaded = some config → (config.compatible = true ↔
    ∃ c, loader.load rt host (some config.path) = .ok c)
  version : ∀ config, loaded = some config → (config.compatible = true ↔
    config.apiVersion = some "bcs/v1alpha1")

theorem shownRightly_of_loadedConfigInfo {loaded : Option LoadedConfig}
    (h : loadedConfigInfo rt host loader = .ok loaded) : ShownRightly rt host loader loaded := by
  rw [loadedConfigInfo] at h
  cases hpath : loader.resolvePath host with
  | error e =>
    rw [hpath] at h
    obtain rfl := Except.ok.inj h
    constructor <;> simp [hpath]
  | ok path =>
    rw [hpath] at h
    dsimp only at h
    cases hload : loader.load rt host (some path) with
    | ok config =>
      rw [hload] at h
      obtain rfl := Except.ok.inj h
      constructor <;> simp [hpath, hload, apiVersion, supportedApiVersions]
    | error e =>
      rw [hload] at h
      cases e with
      | configInvalid message errors =>
        obtain rfl := Except.ok.inj h
        constructor <;> simp [hpath, hload]
      | _ => cases h

/-- The version is shown unless the loading of the configuration that is found raises an exception
other than the one for invalid configurations. -/
theorem loadedConfigInfo_returns_iff :
    (∃ loaded, loadedConfigInfo rt host loader = .ok loaded) ↔
      ∀ path, loader.resolvePath host = .ok path → Reported rt host loader path := by
  rw [loadedConfigInfo]
  cases loader.resolvePath host with
  | error e => simp
  | ok path =>
    dsimp only
    simp only [Except.ok.injEq, forall_eq', Reported]
    cases loader.load rt host (some path) with
    | ok config => simp
    | error e => cases e <;> simp

/-- What is raised for the version is not the exception for invalid configurations. -/
theorem status_of_loadedConfigInfo {e : ConfigException}
    (h : loadedConfigInfo rt host loader = .error e) :
    (ofConfig describe e).status = 1 ∨ (ofConfig describe e).status = 2 := by
  rw [loadedConfigInfo] at h
  cases hpath : loader.resolvePath host with
  | error e' => rw [hpath] at h; cases h
  | ok path =>
    rw [hpath] at h
    dsimp only at h
    cases hload : loader.load rt host (some path) with
    | ok config => rw [hload] at h; cases h
    | error e' =>
      rw [hload] at h
      cases e' with
      | configInvalid message errors => cases h
      | usage message => obtain rfl := Except.error.inj h; exact Or.inr rfl
      | _ => obtain rfl := Except.error.inj h; exact Or.inl rfl

/-- With what is known of the configuration, the run prints the version. -/
theorem run_of_loaded {loaded : Option LoadedConfig}
    (h : loadedConfigInfo rt host loader = .ok loaded) :
    (runVersion console rt host loader describe format info).run =
      console.finish (versionOutput format info loaded) [] 0 := by
  have hprints : Prints console (runVersion console rt host loader describe format info)
      ([] ++ (versionOutput format info loaded ++ [])) 0 :=
    (prints_liftCommand h).bind <| (prints_printVersion console format info loaded).bind <|
      .pure console 0
  rw [List.nil_append, List.append_nil] at hprints
  exact run_of_prints hprints

/-- The exception of the configuration ends the run before anything is printed. -/
theorem run_of_not_loaded {e : ConfigException} (h : loadedConfigInfo rt host loader = .error e) :
    (runVersion console rt host loader describe format info).run =
      (ofConfig describe e).ends [] := by
  have hraises : RaisesAfter console (runVersion console rt host loader describe format info) []
      (ofConfig describe e) := (raisesAfter_liftCommand h).bind _
  exact run_of_raises hraises

/-- **How `bcs version` ends**: with what is true of the configuration that is found, which is
handed to the console with the version, or with nothing printed where the loading of this
configuration raises an exception other than the one for invalid configurations. -/
theorem versions_runVersion (console : Console) (rt : ConfigRuntime) (host : Host)
    (loader : ConfigLoader) (describe : ConfigException → String) (format : OutputFormat)
    (info : BuildInfo) :
    ((∀ path, loader.resolvePath host = .ok path → Reported rt host loader path) →
      ∃ loaded, ShownRightly rt host loader loaded ∧
        (runVersion console rt host loader describe format info).run =
          console.finish (versionOutput format info loaded) [] 0) ∧
    ((¬ ∀ path, loader.resolvePath host = .ok path → Reported rt host loader path) →
      ∃ text status, (status = 1 ∨ status = 2) ∧
        (runVersion console rt host loader describe format info).run = ⟨[], [text], status⟩) := by
  rw [← loadedConfigInfo_returns_iff]
  cases hloaded : loadedConfigInfo rt host loader with
  | ok loaded =>
    rw [run_of_loaded hloaded]
    exact ⟨fun _ => ⟨loaded, shownRightly_of_loadedConfigInfo hloaded, rfl⟩,
      fun h => absurd ⟨loaded, rfl⟩ h⟩
  | error e =>
    rw [run_of_not_loaded hloaded]
    refine ⟨?_, fun _ => ⟨_, _, status_of_loadedConfigInfo hloaded, rfl⟩⟩
    rintro ⟨loaded, hok⟩
    cases hok

end Ends

end ClassroomSuite.Commands
