import ClassroomSuite.Cli.PluginDispatch
import ClassroomSuite.Commands.Inventory

/-!
# One invocation

The parser of the group reads the options of the group and leaves a name with the tokens behind it.
A name that is no command is looked for among the plugins at once. For a command, the root callback
reads the preferences of the user, settles how much is logged, opens the log file and builds the
loader of configurations; then the parser of the command reads its tokens, and the command runs.

Whatever the options, the files and the machine are, a script can rely on this of a command: a
status that the command documents means that its result is on the output, as far as the console
shows it; with the status of a usage error there is nothing on the output, and with the general one
at most the beginning of a result, in front of something that the console fails on; and the error
output has one message about what went wrong exactly if the status is not 0.

Source: `main` of `cli/src/bcs/__main__.py`, `main`, `BcsGroup` and the commands of
`cli/src/bcs/app.py`, `cli/src/bcs/plugins.py`, `cli/src/bcs/config/preferences.py`,
`resolve_log_level` of `cli/src/bcs/logging_setup.py`, `cli/src/bcs/commands/stubs.py`.

## Main definitions

* `CliPreferences`, `Process.loadPreferences`, `resolveLogLevel`.
* `GlobalOptions`, `Arguments`, `Subcommand`, `Reading`: what is read of an argument vector.
* `Process.invocation`, `Process.main`.
* `EndsProperly`, `EndsMain`: what a script can rely on.

## Main results

* `endsMain_main`.
-/

namespace ClassroomSuite.Commands

open Python Library Platform Config Inventory

/-! ### Preferences -/

/-- The preferences of the user (`CliPreferences`). -/
structure CliPreferences where
  color : String := "auto"
  output : String := "text"
  logLevel : Option String := none
  noInput : Bool := false
  defaultConfig : Option PurePath := none
  deriving DecidableEq

/-- The truth value of what the YAML loader returns. -/
def yamlTruthy : Yaml → Bool
  | .scalar .null => false
  | .scalar (.bool b) => b
  | .scalar (.int i) => i ≠ 0
  | .scalar (.float x) => x.truthy
  | .scalar (.str s) => s ≠ ""
  | .scalar (.bytes bytes) => bytes ≠ []
  | .scalar (.date _) | .scalar (.datetime _) | .pair _ _ => true
  | .list items => items ≠ []
  | .set keys => keys ≠ []
  | .dict entries => entries ≠ []

/-- Where the preferences are: in `$XDG_CONFIG_HOME` or else in the home directory, if there is
one. -/
def preferencesPath (environ : List (String × String)) (home : Except String PurePath) :
    Except String PurePath := do
  let base ← match (environ.lookup "XDG_CONFIG_HOME").filter (· ≠ "") with
    | some directory => .ok (.ofString directory)
    | none => home.map fun path => path.join (.ofString ".config")
  return (base.join (.ofString "bcs")).join (.ofString "cli.yaml")

/-! ### Log levels -/

/-- The levels of logging. -/
inductive LogLevel where
  | silent
  | error
  | warn
  | info
  | debug
  | trace
  deriving DecidableEq, Repr

/-- The text about `-v` and `-q` given together. -/
def verbosityConflict : String :=
  "bcs: both --verbose and --quiet were given; using --verbose (last-wins is not tracked " ++
    "positionally, so --verbose takes precedence over --quiet when both are present)\n"

/-- The level of logging, and what is said about the choice. -/
def resolveLogLevel (explicit : Option LogLevel) (verboseCount : ℕ) (quiet : Bool) :
    LogLevel × List String :=
  match explicit with
  | some level => (level, [])
  | none =>
    if verboseCount > 0 ∧ quiet then (stepUp verboseCount, [verbosityConflict])
    else if quiet then (.error, [])
    else (stepUp verboseCount, [])
where
  /-- The level `verboseCount` steps above `info`. -/
  stepUp : ℕ → LogLevel
    | 0 => .info
    | 1 => .debug
    | _ => .trace

/-! ### Commands that are not implemented -/

/-- A command that is not implemented, the component that it belongs to, and where this is
planned. -/
structure StubCommand where
  name : String
  owner : String
  roadmapAnchor : String
  deriving DecidableEq, Repr

/-- `STUB_COMMANDS`. -/
def stubCommands : List StubCommand :=
  [⟨"build", "Builder", "phase-2--builder-golden-image-pipeline"⟩,
    ⟨"install", "Deploy", "phase-3--deploy-single-classroom-rollout"⟩,
    ⟨"deploy", "Deploy", "phase-3--deploy-single-classroom-rollout"⟩,
    ⟨"backup", "Deploy", "phase-3--deploy-single-classroom-rollout"⟩,
    ⟨"restore", "Deploy", "phase-3--deploy-single-classroom-rollout"⟩,
    ⟨"update", "the bcs CLI itself", "phase-0--foundation-architecture--governance"⟩,
    ⟨"config", "the bcs CLI itself", "phase-0--foundation-architecture--governance"⟩]

/-- `run_stub`: a command that is not implemented yet. -/
def runStub (stub : StubCommand) : Command ℕ :=
  throw (.bcs ⟨.notImplementedInPhase, "bcs " ++ stub.name ++
    ": not implemented in this phase. Owned by " ++ stub.owner ++ "; see ROADMAP.md#" ++
    stub.roadmapAnchor ++ " and docs/CLI.md#bcs-" ++ stub.name ++ "."⟩)

/-- The known commands are the four that are implemented and these. -/
example : Cli.knownCommands =
    ["doctor", "validate", "version", "inventory"] ++ stubCommands.map StubCommand.name := rfl

/-! ### The arguments -/

/-- When the output is coloured. -/
inductive ColorMode where
  | auto
  | always
  | never
  deriving DecidableEq, Repr

/-- What the parser has read of the options of the group. -/
structure GlobalOptions where
  config : Option PurePath := none
  set : List String := []
  output : OutputFormat := .text
  color : ColorMode := .auto
  verbose : ℕ := 0
  quiet : Bool := false
  logLevel : Option LogLevel := none
  logFile : Option PurePath := none

/-- What the parser of a command has read; each command has some of these. -/
structure Arguments where
  checks : List String := []
  files : List PurePath := []
  strict : Bool := false

/-- A command with its arguments. -/
inductive Subcommand where
  | doctor (checks : List String) (strict : Bool)
  | inventory
  | validate (files : List PurePath) (strict : Bool)
  | version
  | stub (command : StubCommand)

/-- The command of a name, among the known ones. -/
def subcommandOf (name : String) (arguments : Arguments) : Subcommand :=
  if name = "doctor" then .doctor arguments.checks arguments.strict
  else if name = "inventory" then .inventory
  else if name = "validate" then .validate arguments.files arguments.strict
  else if name = "version" then .version
  else .stub ((stubCommands.find? fun stub => stub.name = name).getD ⟨name, "", ""⟩)

/-- What a parser makes of tokens: it refuses them, with a text about the usage; it shows a text
that is asked for, as the help; or it reads a value. -/
inductive Reading (α : Type) where
  | refused (text : String)
  | shown (text : String)
  | read (value : α)

/-- What is to be done for an argument vector. Without a command, the callback shows the help. -/
inductive Invocation where
  | refused (text : String)
  | shown (text : String)
  | callback (options : GlobalOptions) (command : Option (String × List String))
  | runPlugin (executable : String) (args : List String)
  | unknown (message : String)

/-! ### The invocation -/

/-- What a process runs on. Validation of the preferences and the opening of the log file fail with
the text of their exception; the log file is created if it does not exist, and may then be found by
what follows. A plugin writes its own texts and returns a code, which is negative if a signal has
ended it, or it cannot be run. -/
structure Process where
  parseGroup : List String → Reading (GlobalOptions × List String)
  parseCommand : String → List String → Reading Arguments
  plugins : Cli.PluginHost
  runPlugin : String → List String → List (String × String) →
    Except String (List String × List String × ℤ)
  console : ColorMode → OutputFormat → Console
  machine : Machine
  host : Config.Host
  openLog : PurePath → Except String (Machine × Config.Host)
  collectors : CollectorRuntime
  models : ModelRuntime
  runner : CommandRunner
  environ : List (String × String)
  euid : Option ℕ
  cwd : PurePath
  home : Except String PurePath
  config : ConfigRuntime
  validatePreferences : Document → Except String CliPreferences
  describe : ConfigException → String
  osErrorText : String
  buildInfo : BuildInfo
  isoformat : Instant → String
  instants : Codec Instant
  help : String

namespace Process

variable (p : Process)

/-- The preferences a text holds. A text without a value holds the preferences of an empty
mapping; one whose value is no mapping, the built-in ones. -/
def parsePreferences (text : String) : Except String CliPreferences :=
  match p.config.safeLoad text with
  | .error (.yamlError problem) | .error (.other problem) => .error problem
  | .ok data =>
    match if yamlTruthy data then data else .dict [] with
    | .dict document => p.validatePreferences document
    | _ => .ok {}

/-- The preferences of the user, or the built-in ones if there is no file. -/
def loadPreferences : Except String CliPreferences := do
  let target ← preferencesPath p.environ p.home
  if ← (p.host.isFile target).mapError fun e => e.str p.config.text.repr then
    match p.host.readFile target with
    | .error e => throw (e.str p.config.text.repr)
    | .ok bytes =>
      match Python.readText bytes with
      | none => throw (p.describe .unicodeDecodeError)
      | some text => p.parsePreferences text
  else return {}

/-- The machine and its files, once the log file is open. -/
def configureLogging (logFile : Option PurePath) : Except String (Machine × Config.Host) :=
  match logFile with
  | none => .ok (p.machine, p.host)
  | some path => p.openLog path

/-- What the commands run on. -/
def context (options : GlobalOptions) (preferences : CliPreferences)
    (files : Machine × Config.Host) : Diagnosis where
  console := p.console options.color options.output
  machine := files.1
  collectors := p.collectors
  models := p.models
  runner := p.runner
  environ := p.environ
  euid := p.euid
  config := p.config
  host := files.2
  loader := mainConfigLoader options.config preferences.defaultConfig options.set p.environ p.cwd
  describe := p.describe
  osErrorText := p.osErrorText

/-- The root callback. -/
def callback (options : GlobalOptions) : Except String Diagnosis := do
  let preferences ← p.loadPreferences
  let files ← p.configureLogging options.logFile
  return p.context options preferences files

/-- What the callback says on the error output, behind the preferences. -/
def warnings (options : GlobalOptions) : List String :=
  match p.loadPreferences with
  | .error _ => []
  | .ok _ => (resolveLogLevel options.logLevel options.verbose options.quiet).2

/-- A command on what it has been given. -/
def runSubcommand (d : Diagnosis) (format : OutputFormat) : Subcommand → Command ℕ
  | .doctor checks strict => runDoctor d format checks strict
  | .inventory => runInventory d p.isoformat p.instants format
  | .validate files strict =>
    runValidate d.console d.config d.host d.loader d.describe format files strict
  | .version => runVersion d.console d.config d.host d.loader d.describe format p.buildInfo
  | .stub command => runStub command

/-- A command on its tokens, which it reads itself. -/
def runCommand (d : Diagnosis) (format : OutputFormat) (name : String) (args : List String) :
    Ended :=
  match p.parseCommand name args with
  | .refused text => ⟨[], [text], ExitCode.usageError.value⟩
  | .shown text => ⟨[text], [], ExitCode.success.value⟩
  | .read arguments => (p.runSubcommand d format (subcommandOf name arguments)).run

/-- The callback, and the command behind it. -/
def invoke (options : GlobalOptions) (command : Option (String × List String)) : Ended :=
  let ended := match p.callback options with
    | .error problem => (CommandError.unexpected problem).ends []
    | .ok d =>
      match command with
      | none => ⟨[p.help], [], ExitCode.success.value⟩
      | some (name, args) => p.runCommand d options.output name args
  { ended with stderr := p.warnings options ++ ended.stderr }

/-- A plugin, whose code is the status, as far as there are statuses. -/
def dispatchPlugin (executable : String) (args : List String) : Ended :=
  match p.runPlugin executable args p.environ with
  | .error problem => (CommandError.unexpected problem).ends []
  | .ok (stdout, stderr, returncode) => ⟨stdout, stderr, (returncode % 256).toNat⟩

/-- What is to be done for an argument vector. Whether a name is a command is settled in front of
the callback. -/
def invocation (argv : List String) : Invocation :=
  match p.parseGroup (Cli.normalizeArgv argv) with
  | .refused text => .refused text
  | .shown text => .shown text
  | .read (options, []) => .callback options none
  | .read (options, name :: args) =>
    match Cli.resolveCommand p.plugins (name :: args) with
    | .command name args => .callback options (some (name, args))
    | .runPlugin executable args => .runPlugin executable args
    | .unknown message => .unknown message
    -- The tokens that are left have been read.
    | .usageError => .refused ""

/-- The whole invocation. -/
def main (argv : List String) : Ended :=
  match p.invocation argv with
  | .refused text => ⟨[], [text], ExitCode.usageError.value⟩
  | .shown text => ⟨[text], [], ExitCode.success.value⟩
  | .callback options command => p.invoke options command
  | .runPlugin executable args => p.dispatchPlugin executable args
  | .unknown message => ⟨[], [message ++ "\n"], ExitCode.pluginError.value⟩

end Process

/-! ### How an invocation ends -/

/-- The statuses that a command documents for a run with a result. -/
def Subcommand.statuses : Subcommand → List ℕ
  | .doctor _ _ => [0, 4]
  | .validate _ _ => [0, 3]
  | .inventory | .version => [0]
  | .stub _ => []

/-- The version of the format of a result. -/
def Subcommand.schemaVersion : Subcommand → String
  | .inventory => "bcs-inventory/v1alpha1"
  | _ => cliSchemaVersion

/-- The result of a command is handed to the console. In a structured format it is one value. -/
structure IsResult (format : OutputFormat) (version : String) (output : List Printed) : Prop where
  nonempty : output ≠ []
  structured : format ≠ .text → ∃ data, output = [format.printed data] ∧
    data.lookup "schemaVersion" = some (.str version)

/-- What a script can rely on of a command, behind the warnings of the callback. -/
structure EndsProperly (console : Console) (format : OutputFormat) (version : String)
    (statuses : List ℕ) (warnings : List String) (ended : Ended) : Prop where
  status : ended.status ∈ statuses ∨ ended.status = 1 ∨ ended.status = 2
  /-- With a documented status the whole of a result is shown. -/
  result : ended.status ∈ statuses → ∃ output, IsResult format version output ∧
    console.Shows output ended.stdout
  usage : ended.status = 2 → ended.stdout = []
  /-- With the general status nothing is shown, or the beginning of a result in front of something
  that the console fails on. -/
  general : ended.status = 1 → ended.stdout = [] ∨ format = .text ∧
    ∃ shown printed rest, IsResult format version (shown ++ printed :: rest) ∧
      console.Shows shown ended.stdout ∧ ∃ problem, console.show printed = .error problem ∧
        ended.stderr = warnings ++ ["bcs: unexpected error: " ++ problem ++ "\n"]
  success : ended.status = 0 → ended.stderr = warnings
  failure : ended.status ≠ 0 →
    ∃ message, ended.stderr = warnings ++ ["bcs: " ++ message ++ "\n"]

section Ends

variable {console : Console} {format : OutputFormat} {version : String} {statuses : List ℕ}

/-- The message about an exception. -/
theorem exists_report_eq (e : CommandError) : ∃ message, e.report = "bcs: " ++ message ++ "\n" := by
  cases e with
  | bcs e =>
    have hbegin : "bcs: error: " = "bcs: " ++ "error: " := by decide
    refine ⟨"error: " ++ e.message, ?_⟩
    change "bcs: error: " ++ e.message ++ "\n" = _
    rw [hbegin]
    exact congrArg (· ++ "\n") String.append_assoc
  | unexpected text =>
    have hbegin : "bcs: unexpected error: " = "bcs: " ++ "unexpected error: " := by decide
    refine ⟨"unexpected error: " ++ text, ?_⟩
    change "bcs: unexpected error: " ++ text ++ "\n" = _
    rw [hbegin]
    exact congrArg (· ++ "\n") String.append_assoc

/-- Nothing is printed and something is raised, with a status that is none of a result. -/
theorem endsProperly_of_raises {e : CommandError} (h : e.status = 1 ∨ e.status = 2)
    (hstatuses : e.status ∉ statuses) :
    EndsProperly console format version statuses [] (e.ends []) where
  status := Or.inr h
  result hmem := absurd hmem hstatuses
  usage _ := rfl
  general _ := Or.inl rfl
  success hstatus := absurd hstatus e.status_ne_zero
  failure _ := by
    obtain ⟨message, hmessage⟩ := exists_report_eq e
    exact ⟨message, congrArg (fun text => [text]) hmessage⟩

/-- A result is handed over, with a message exactly if the status is not 0. -/
theorem endsProperly_of_result {output : List Printed} {stderr : List String} {status : ℕ}
    (hresult : IsResult format version output) (hstatus : status ∈ statuses)
    (hother : 1 ∉ statuses ∧ 2 ∉ statuses) (hsuccess : status = 0 → stderr = [])
    (hfailure : status ≠ 0 → ∃ message, stderr = ["bcs: " ++ message ++ "\n"]) :
    EndsProperly console format version statuses [] (console.finish output stderr status) := by
  have hne {other : ℕ} (h : other ∉ statuses) : status ≠ other := fun heq => h (heq ▸ hstatus)
  rcases console.finish_cases output stderr status with ⟨texts, hshows, hfinish⟩ |
    ⟨shown, printed, rest, texts, problem, rfl, hshows, hproblem, hfinish⟩
  · rw [hfinish]
    exact {
      status := Or.inl hstatus
      result := fun _ => ⟨output, hresult, hshows⟩
      usage := fun h => absurd h (hne hother.2)
      general := fun h => absurd h (hne hother.1)
      success := hsuccess
      failure := hfailure }
  · rw [hfinish]
    exact {
      status := Or.inr (Or.inl rfl)
      result := fun h => absurd h hother.1
      usage := by rintro ⟨⟩
      general := fun _ => by
        by_cases hformat : format = .text
        · exact Or.inr ⟨hformat, shown, printed, rest, hresult, hshows, problem, hproblem, rfl⟩
        · -- Of one value there is nothing in front of it.
          obtain ⟨data, hdata, -⟩ := hresult.structured hformat
          obtain ⟨rfl, -⟩ : shown = [] ∧ _ := by
            rcases List.append_eq_singleton_iff.mp hdata with h | h
            · exact h
            · exact absurd h.2 (List.cons_ne_nil _ _)
          cases hshows
          exact Or.inl rfl
      success := by rintro ⟨⟩
      failure := fun _ => by
        obtain ⟨message, hmessage⟩ := exists_report_eq (.unexpected problem)
        exact ⟨message, congrArg (fun text => [text]) hmessage⟩ }

/-- What is handed over of lines or of one value is a result. -/
theorem isResult_of_ite {lines : List Printed} {data : Fields} (hlines : lines ≠ [])
    (hdata : data.lookup "schemaVersion" = some (.str version)) :
    IsResult format version (if format = .text then lines else [format.printed data]) where
  nonempty := by
    split_ifs
    · exact hlines
    · exact List.cons_ne_nil _ _
  structured hformat := ⟨data, if_neg hformat, hdata⟩

/-- The warnings come first. -/
theorem EndsProperly.warned {ended : Ended}
    (h : EndsProperly console format version statuses [] ended) (warnings : List String) :
    EndsProperly console format version statuses warnings
      { ended with stderr := warnings ++ ended.stderr } where
  status := h.status
  result := h.result
  usage := h.usage
  general hstatus := by
    rcases h.general hstatus with hnothing |
      ⟨hformat, shown, printed, rest, hresult, hshows, problem, hproblem, hstderr⟩
    · exact Or.inl hnothing
    · exact Or.inr ⟨hformat, shown, printed, rest, hresult, hshows, problem, hproblem,
        congrArg (warnings ++ ·) hstderr⟩
  success hstatus := by
    change warnings ++ ended.stderr = warnings
    rw [h.success hstatus, List.append_nil]
  failure hstatus := by
    obtain ⟨message, hstderr⟩ := h.failure hstatus
    exact ⟨message, congrArg (warnings ++ ·) hstderr⟩

/-! ### The commands -/

theorem endsProperly_runDoctor (d : Diagnosis) (format : OutputFormat) (checks : List String)
    (strict : Bool) : EndsProperly d.console format cliSchemaVersion [0, 4] []
      (runDoctor d format checks strict).run := by
  by_cases hknown : ∀ name ∈ selectedChecks checks, name ∈ checkNames
  · cases hresults : (selectedChecks checks).mapM d.runCheck with
    | error e =>
      obtain ⟨hrun, hstatus⟩ := run_of_check_raises hknown hresults
      rw [hrun]
      exact endsProperly_of_raises hstatus (by rcases hstatus with h | h <;> simp [h])
    | ok results =>
      have hresult : IsResult format cliSchemaVersion (doctorOutput format results) :=
        isResult_of_ite (by simp [doctorLines]) rfl
      rw [run_of_results hknown hresults]
      split_ifs
      · exact endsProperly_of_result hresult (by simp) (by simp) (by simp) fun _ =>
          (exists_report_eq _).imp fun message h => congrArg (fun text => [text]) h
      · exact endsProperly_of_result hresult (by simp) (by simp) (fun _ => rfl) (by simp)
  · obtain ⟨name, hname, hunknown⟩ : ∃ name ∈ selectedChecks checks, name ∉ checkNames := by
      simpa using hknown
    obtain ⟨message, hrun⟩ : ∃ message, (runDoctor d format checks strict).run = _ :=
      run_of_unknown hname hunknown
    rw [hrun]
    exact endsProperly_of_raises (Or.inr rfl) (by simp [CommandError.status,
      BcsErrorClass.exitCode, ExitCode.value])

theorem endsProperly_runInventory (d : Diagnosis) (isoformat : Instant → String)
    (instants : Codec Instant) (format : OutputFormat) :
    EndsProperly d.console format "bcs-inventory/v1alpha1" [0] []
      (runInventory d isoformat instants format).run := by
  cases h : d.machine.mainInventory d.collectors d.models d.runner d.environ with
  | error e =>
    have hstatus := status_ofInventory d.osErrorText e
    rw [run_of_no_inventory h]
    exact endsProperly_of_raises (Or.inl hstatus) (by simp [hstatus])
  | ok inventory =>
    rw [run_of_inventory h]
    exact endsProperly_of_result (isResult_of_ite (List.cons_ne_nil _ _) rfl) (by simp) (by simp)
      (fun _ => rfl) (by simp)

section Configuration

variable (rt : ConfigRuntime) (host : Config.Host) (loader : ConfigLoader)
  (describe : ConfigException → String) (format : OutputFormat)

theorem endsProperly_runValidate (console : Console) (files : List PurePath) (strict : Bool) :
    EndsProperly console format cliSchemaVersion [0, 3] []
      (runValidate console rt host loader describe format files strict).run := by
  cases htargets : validateTargets host loader files with
  | error e =>
    rw [run_of_no_target htargets]
    rcases validateTargets_eq_error htargets with ⟨message, rfl⟩ | ⟨e', rfl⟩
    · exact endsProperly_of_raises (Or.inr rfl) (by simp [ofConfig, CommandError.status,
        BcsErrorClass.exitCode, ExitCode.value])
    · exact endsProperly_of_raises (Or.inl rfl) (by simp [ofConfig, CommandError.status,
        ExitCode.value])
  | ok targets =>
    cases hreports : targets.mapM (validateDocument rt host loader) with
    | error e =>
      obtain ⟨before, target, after, -, -, he⟩ := (mapM_eq_error_iff _ _ _).mp hreports
      have hstatus : (ofConfig describe e).status = 1 ∨ (ofConfig describe e).status = 2 :=
        status_of_validateDocument he
      rw [run_of_escape htargets hreports]
      exact endsProperly_of_raises hstatus (by rcases hstatus with h | h <;> simp [h])
    | ok reports =>
      obtain ⟨report, reports, rfl⟩ : ∃ report rest, reports = report :: rest := by
        have hlength := ((mapM_eq_ok_iff _ _ _).mp hreports).length_eq
        exact List.exists_cons_of_ne_nil fun hnil =>
          validateTargets_ne_nil htargets (List.eq_nil_of_length_eq_zero (by simp [hlength, hnil]))
      have hresult : IsResult format cliSchemaVersion (validateOutput format (report :: reports)) :=
        isResult_of_ite (by simp [reportLines]) rfl
      rw [run_of_reports htargets hreports]
      split_ifs
      · exact endsProperly_of_result hresult (by simp) (by simp) (fun _ => rfl) (by simp)
      · exact endsProperly_of_result hresult (by simp) (by simp) (by simp) fun _ =>
          (exists_report_eq _).imp fun message h => congrArg (fun text => [text]) h

theorem endsProperly_runVersion (console : Console) (info : BuildInfo) :
    EndsProperly console format cliSchemaVersion [0] []
      (runVersion console rt host loader describe format info).run := by
  cases h : loadedConfigInfo rt host loader with
  | error e =>
    have hstatus : (ofConfig describe e).status = 1 ∨ (ofConfig describe e).status = 2 :=
      status_of_loadedConfigInfo h
    rw [run_of_not_loaded h]
    exact endsProperly_of_raises hstatus (by rcases hstatus with h | h <;> simp [h])
  | ok loaded =>
    rw [run_of_loaded h]
    exact endsProperly_of_result (isResult_of_ite (by simp [versionLines]) rfl) (by simp)
      (by simp) (fun _ => rfl) (by simp)

end Configuration

theorem endsProperly_runSubcommand (p : Process) (d : Diagnosis) (format : OutputFormat)
    (subcommand : Subcommand) : EndsProperly d.console format subcommand.schemaVersion
      subcommand.statuses [] (p.runSubcommand d format subcommand).run := by
  cases subcommand with
  | doctor checks strict => exact endsProperly_runDoctor d format checks strict
  | inventory => exact endsProperly_runInventory d p.isoformat p.instants format
  | validate files strict =>
    exact endsProperly_runValidate d.config d.host d.loader d.describe format d.console files strict
  | version =>
    exact endsProperly_runVersion d.config d.host d.loader d.describe format d.console p.buildInfo
  | stub command =>
    have hrun : (p.runSubcommand d format (.stub command)).run = CommandError.ends _ [] :=
      run_of_raises (.throw d.console _)
    rw [hrun]
    exact endsProperly_of_raises (Or.inl rfl) List.not_mem_nil

/-! ### The invocation -/

/-- What a script can rely on of an argument vector. -/
structure EndsMain (p : Process) (argv : List String) (ended : Ended) : Prop where
  /-- A command whose tokens are read ends properly. -/
  command : ∀ options name args arguments,
    p.invocation argv = .callback options (some (name, args)) →
    p.parseCommand name args = .read arguments →
      EndsProperly (p.console options.color options.output) options.output
        (subcommandOf name arguments).schemaVersion (subcommandOf name arguments).statuses
        (p.warnings options) ended
  /-- A plugin that can be run decides for itself. -/
  plugin : ∀ executable args stdout stderr returncode,
    p.invocation argv = .runPlugin executable args →
    p.runPlugin executable args p.environ = .ok (stdout, stderr, returncode) →
      ended = ⟨stdout, stderr, (returncode % 256).toNat⟩
  /-- Everything else shows one text that was asked for, or nothing but an error. -/
  other : (∀ options name args arguments,
      p.invocation argv = .callback options (some (name, args)) →
        p.parseCommand name args ≠ .read arguments) →
    (∀ executable args output, p.invocation argv = .runPlugin executable args →
      p.runPlugin executable args p.environ ≠ .ok output) →
    (ended.status = 0 ∧ ended.stdout.length = 1) ∨
      (ended.status ∈ [1, 2, 8] ∧ ended.stdout = [] ∧ ended.stderr ≠ [])

/-- Where the callback raises an exception, the run ends with it. -/
theorem invoke_of_raises {p : Process} {options : GlobalOptions} {problem : String}
    (h : p.callback options = .error problem) (command : Option (String × List String)) :
    p.invoke options command =
      ⟨[], p.warnings options ++ ["bcs: unexpected error: " ++ problem ++ "\n"], 1⟩ := by
  rw [Process.invoke, h]
  rfl

/-- What the callback returns is the context of the options, with some preferences and files. -/
theorem exists_context {p : Process} {options : GlobalOptions} {d : Diagnosis}
    (h : p.callback options = .ok d) :
    ∃ preferences files, d = p.context options preferences files := by
  obtain ⟨preferences, -, h⟩ := bind_eq_ok_iff.mp h
  obtain ⟨files, -, h⟩ := bind_eq_ok_iff.mp h
  exact ⟨preferences, files, (Except.ok.inj h).symm⟩

/-- Behind the callback, a command whose tokens are read is run. -/
theorem endsProperly_invoke {p : Process} {options : GlobalOptions} {name : String}
    {args : List String} {arguments : Arguments} (h : p.parseCommand name args = .read arguments) :
    EndsProperly (p.console options.color options.output) options.output
      (subcommandOf name arguments).schemaVersion (subcommandOf name arguments).statuses
      (p.warnings options) (p.invoke options (some (name, args))) := by
  refine EndsProperly.warned ?_ (p.warnings options)
  cases hcallback : p.callback options with
  | error problem =>
    refine endsProperly_of_raises (Or.inl rfl) ?_
    change 1 ∉ (subcommandOf name arguments).statuses
    cases subcommandOf name arguments <;> simp [Subcommand.statuses]
  | ok d =>
    have hconsole : d.console = p.console options.color options.output := by
      obtain ⟨preferences, files, rfl⟩ := exists_context hcallback
      rfl
    dsimp only
    rw [Process.runCommand, h, ← hconsole]
    exact endsProperly_runSubcommand p d options.output _

/-- **What a script can rely on**, whatever the argument vector, the files, the machine and its
tools. -/
theorem endsMain_main (p : Process) (argv : List String) : EndsMain p argv (p.main argv) where
  command options name args arguments hinvocation hparse := by
    rw [Process.main, hinvocation]
    exact endsProperly_invoke hparse
  plugin executable args stdout stderr returncode hinvocation hrun := by
    rw [Process.main, hinvocation]
    dsimp only
    rw [Process.dispatchPlugin, hrun]
  other hcommand hplugin := by
    rw [Process.main]
    cases hinvocation : p.invocation argv with
    | refused text => exact Or.inr ⟨by simp [ExitCode.value], rfl, List.cons_ne_nil _ _⟩
    | shown text => exact Or.inl ⟨rfl, rfl⟩
    | unknown message => exact Or.inr ⟨by simp [ExitCode.value], rfl, List.cons_ne_nil _ _⟩
    | runPlugin executable args =>
      dsimp only
      rw [Process.dispatchPlugin]
      cases hrun : p.runPlugin executable args p.environ with
      | error problem => exact Or.inr ⟨List.mem_cons_self, rfl, List.cons_ne_nil _ _⟩
      | ok output => exact absurd hrun (hplugin executable args output hinvocation)
    | callback options command =>
      dsimp only
      cases hcallback : p.callback options with
      | error problem =>
        rw [invoke_of_raises hcallback]
        exact Or.inr ⟨List.mem_cons_self, rfl, by simp⟩
      | ok d =>
        rw [Process.invoke, hcallback]
        rcases command with _ | ⟨name, args⟩
        · exact Or.inl ⟨rfl, rfl⟩
        · dsimp only
          rw [Process.runCommand]
          cases hparse : p.parseCommand name args with
          | refused text => exact Or.inr ⟨by simp [ExitCode.value], rfl, by simp⟩
          | shown text => exact Or.inl ⟨rfl, rfl⟩
          | read arguments =>
            exact absurd hparse (hcommand options name args arguments hinvocation)

end Ends

end ClassroomSuite.Commands
