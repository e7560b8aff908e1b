import ClassroomSuite.Config.Models
import ClassroomSuite.Config.Overrides
import ClassroomSuite.Library.Disk
import ClassroomSuite.Library.PurePath
import ClassroomSuite.Library.Traversal

/-!
# Finding and loading a configuration

A `ConfigLoader` holds what one invocation was given: the explicit path, the `--set` items, the
environment and the current directory. It finds the configuration file (`resolvePath`), reads and
overrides the document in it (`loadRaw`), and validates it (`load`).

The operating system, the YAML loader and the schema validation are parameters: `Host` answers
whether a path is a regular file and what bytes it holds, and `ConfigRuntime` loads, validates and
writes out values. All of these may fail, also with exceptions that the loader lets out.

Source: `cli/src/bcs/config/loader.py`; the root callback of `cli/src/bcs/app.py`.

## Main definitions

* `Host`, `LoadFailure`, `ConfigRuntime`, `ConfigLoader`.
* `ConfigLoader.resolvePath`, `ConfigLoader.loadRaw`, `parseClassroomConfig`,
  `ConfigLoader.load`, `mainConfigLoader`.

## Main results

* `existingFile_eq`, `filesAmong_eq_ok`: how a file is found.
* `ConfigLoader.loadRaw_of_no_override`: the stages of loading a document without overrides.
-/

namespace ClassroomSuite.Config

open Python Library

/-- What the operating system answers about files. A path that does not exist is no file; where a
directory on the way may not be searched, or a name is too long, there is no answer. -/
structure Host where
  isFile : PurePath → Except OSError Bool
  readFile : PurePath → Except OSError (List UInt8)

/-- How the YAML loader fails: with an error of its own, or with another exception, as on an integer
that has too many digits. -/
inductive LoadFailure where
  | yamlError (text : String)
  | other (text : String)

/-- The YAML loader, the schema validation and the texts used in messages. Some values have no
representation: that of an integer with too many digits fails, with the text of the exception. -/
structure ConfigRuntime where
  text : TextRuntime
  safeLoad : String → Except LoadFailure Yaml
  reprYaml : Yaml → Except String String
  modelValidate : Document → Except ValidationError ClassroomConfig

/-- The variable that names a configuration file (`ENV_CONFIG_PATH`). -/
def envConfigPath : String := "BCS_CONFIG"

/-- The files looked for in the current directory (`_DEFAULT_CANDIDATES`). -/
def defaultCandidates : List String := ["bcs.yaml", "classroom.yaml"]

/-- `SUPPORTED_API_VERSIONS`. -/
def supportedApiVersions : List String := ["bcs/v1alpha1"]

/-- `_SUPPORTED_KINDS`. -/
def supportedKinds : List String := ["ClassroomConfig"]

/-- What one invocation resolves and loads configurations with. -/
structure ConfigLoader where
  explicitPath : Option PurePath
  setOverrides : List String := []
  env : List (String × String)
  cwd : PurePath

/-- The path `$BCS_CONFIG` names, when the variable is set and not empty. -/
def envPath (env : List (String × String)) : Option PurePath :=
  match env.lookup envConfigPath with
  | some value => if value = "" then none else some (.ofString value)
  | none => none

/-- The candidates of the current directory. -/
def localCandidates (cwd : PurePath) : List PurePath :=
  defaultCandidates.map fun name => cwd.join (.ofString name)

/-- Whether a path is a file, as the loader asks for it. -/
def Host.askFile (host : Host) (path : PurePath) : Except ConfigException Bool :=
  (host.isFile path).mapError .osError

/-- Those of the paths that are files. All of them are asked about, from the left. -/
def filesAmong (host : Host) : List PurePath → Except ConfigException (List PurePath)
  | [] => .ok []
  | path :: rest => do
    let isFile ← host.askFile path
    let files ← filesAmong host rest
    return if isFile then path :: files else files

/-- A path that has to be a file. -/
def existingFile (host : Host) (path : PurePath) (message : String) :
    Except ConfigException PurePath := do
  if ← host.askFile path then return path else throw (.usage message)

/-- The one file of the current directory. -/
def singleFile (cwd : PurePath) : List PurePath → Except ConfigException PurePath
  | [path] => .ok path
  | [] => .error (.usage "no ClassroomConfig found; pass --config or set $BCS_CONFIG")
  | found =>
    let names := ", ".intercalate (found.map PurePath.name)
    .error (.usage ("ambiguous: both " ++ names ++ " present in " ++ cwd.str ++ "; pass --config"))

/-- The path of the configuration file. -/
def ConfigLoader.resolvePath (host : Host) (loader : ConfigLoader) :
    Except ConfigException PurePath :=
  match loader.explicitPath with
  | some path => existingFile host path ("--config path does not exist: " ++ path.str)
  | none =>
    match envPath loader.env with
    | some candidate =>
      existingFile host candidate ("$" ++ envConfigPath ++ " does not exist: " ++ candidate.str)
    | none => filesAmong host (localCandidates loader.cwd) >>= singleFile loader.cwd

/-- The loader the root callback builds: the explicit path is that of `--config`, or else that of
the preferences file. -/
def mainConfigLoader (config defaultConfig : Option PurePath) (set : List String)
    (env : List (String × String)) (cwd : PurePath) : ConfigLoader where
  explicitPath := match config with
    | some path => some path
    | none => defaultConfig
  setOverrides := set
  env := env
  cwd := cwd

/-- The text of a file to be loaded. -/
def readDocumentText (rt : ConfigRuntime) (host : Host) (target : PurePath) :
    Except ConfigException String :=
  match host.readFile target with
  | .error e => .error (.configInvalid ("could not read " ++ target.str ++ ": " ++
      e.str rt.text.repr) [])
  | .ok bytes =>
    match readText bytes with
    | none => .error .unicodeDecodeError
    | some text => .ok text

/-- The document a text holds. -/
def parseDocument (rt : ConfigRuntime) (target : PurePath) (text : String) :
    Except ConfigException Document :=
  match rt.safeLoad text with
  | .error (.yamlError e) =>
    .error (.configInvalid (target.str ++ ": invalid YAML syntax: " ++ e) [])
  | .error (.other e) => .error (.other e)
  | .ok (.dict document) => .ok document
  | .ok _ => .error (.configInvalid (target.str ++ ": document root must be a mapping") [])

/-- Apply the overrides of the environment, then those of the command line. -/
def ConfigLoader.override (rt : ConfigRuntime) (loader : ConfigLoader) (document : Document) :
    Except ConfigException Document :=
  let overrides : DocumentM Unit := do
    applyEnvOverrides rt.text loader.env
    applySetOverrides rt.text loader.setOverrides
  match overrides document with
  | .ok () document' => .ok document'
  | .error e _ => .error e

/-- The file to load: the one given, or else the one found. -/
def ConfigLoader.target (host : Host) (loader : ConfigLoader) (path : Option PurePath) :
    Except ConfigException PurePath :=
  match path with
  | some path => .ok path
  | none => loader.resolvePath host

/-- Load and override a document, without validating it. -/
def ConfigLoader.loadRaw (rt : ConfigRuntime) (host : Host) (loader : ConfigLoader)
    (path : Option PurePath) : Except ConfigException Document := do
  let target ← loader.target host path
  let text ← readDocumentText rt host target
  let document ← parseDocument rt target text
  loader.override rt document

/-- The text of one validation error. -/
def formatPydanticError (e : ErrorDetails) : String :=
  ".".intercalate e.loc ++ ": " ++ e.msg

/-- Whether a value is one of the texts. -/
def isTextAmong (texts : List String) : Yaml → Bool
  | .scalar (.str s) => texts.contains s
  | _ => false

/-- Membership in a set of texts, for a value that can be looked up. -/
def inTextSet (value : Yaml) (texts : List String) : Except ConfigException Bool :=
  if value.isSearchable then .ok (isTextAmong texts value) else .error .typeError

/-- The error about an unsupported field of the envelope, or the exception of writing out its
value. -/
def unrecognized (rt : ConfigRuntime) (source : PurePath) (field : String) (value : Yaml)
    (supported : List String) : ConfigException :=
  match rt.reprYaml value with
  | .error text => .other text
  | .ok text =>
    let msg := source.str ++ ": unrecognized " ++ field ++ " " ++ text ++
      "; this bcs build supports: " ++ ", ".intercalate supported
    .configInvalid msg [msg]

/-- Validate a document against the schema. -/
def validateSchema (rt : ConfigRuntime) (document : Document) (source : PurePath) :
    Except ConfigException ClassroomConfig :=
  match rt.modelValidate document with
  | .ok config => .ok config
  | .error e =>
    .error (.configInvalid (source.str ++ ": schema validation failed (" ++
      toString e.errors.length ++ " error(s))") (e.errors.map formatPydanticError))

/-- A field of the envelope has to be one of the supported texts. -/
def requireSupported (rt : ConfigRuntime) (source : PurePath) (field : String) (value : Yaml)
    (supported : List String) : Except ConfigException Unit := do
  if ← inTextSet value supported then return ()
  else throw (unrecognized rt source field value supported)

/-- Validate the envelope of a document, then all of it. -/
def parseClassroomConfig (rt : ConfigRuntime) (document : Document) (source : PurePath) :
    Except ConfigException ClassroomConfig := do
  requireSupported rt source "apiVersion" (document.get "apiVersion") supportedApiVersions
  requireSupported rt source "kind" (document.get "kind") supportedKinds
  validateSchema rt document source

/-- Load a validated configuration. -/
def ConfigLoader.load (rt : ConfigRuntime) (host : Host) (loader : ConfigLoader)
    (path : Option PurePath) : Except ConfigException ClassroomConfig := do
  let target ← loader.target host path
  let document ← loader.loadRaw rt host (some target)
  parseClassroomConfig rt document target

/-! ### Finding the file -/

/-- The file is found, is missing, or cannot be looked up. -/
theorem existingFile_eq (host : Host) (path : PurePath) (message : String) :
    existingFile host path message = match host.isFile path with
      | .ok true => .ok path
      | .ok false => .error (.usage message)
      | .error e => .error (.osError e) := by
  rw [existingFile, Host.askFile]
  cases host.isFile path with
  | error e => rfl
  | ok isFile => cases isFile <;> rfl

/-- Where every question is answered, the files are those paths of which it is said. -/
theorem filesAmong_eq_ok {host : Host} {hasFile : PurePath → Bool} {paths : List PurePath}
    (h : ∀ path ∈ paths, host.isFile path = .ok (hasFile path)) :
    filesAmong host paths = .ok (paths.filter hasFile) := by
  induction paths with
  | nil => rfl
  | cons path rest ih =>
    obtain ⟨hpath, hrest⟩ := List.forall_mem_cons.mp h
    rw [filesAmong, Host.askFile, hpath, ih hrest, List.filter_cons]
    rfl

/-- Where the files are found, every question has been answered. -/
theorem answers_of_filesAmong {host : Host} {paths files : List PurePath}
    (h : filesAmong host paths = .ok files) : ∀ path ∈ paths, ∃ isFile,
      host.isFile path = .ok isFile := by
  induction paths generalizing files with
  | nil => exact List.forall_mem_nil _
  | cons path rest ih =>
    rw [filesAmong, Host.askFile] at h
    obtain ⟨isFile, hpath, h⟩ := bind_eq_ok_iff.mp h
    obtain ⟨files', hrest, -⟩ := bind_eq_ok_iff.mp h
    exact List.forall_mem_cons.mpr ⟨⟨isFile, mapError_eq_ok_iff.mp hpath⟩, ih hrest⟩

/-- Only a path that cannot be looked up lets the search fail. -/
theorem filesAmong_eq_error {host : Host} {paths : List PurePath} {e : ConfigException}
    (h : filesAmong host paths = .error e) :
    ∃ path ∈ paths, ∃ e', host.isFile path = .error e' ∧ e = .osError e' := by
  induction paths with
  | nil => cases h
  | cons path rest ih =>
    rw [filesAmong, Host.askFile] at h
    cases hpath : host.isFile path with
    | error e' =>
      rw [hpath] at h
      exact ⟨path, List.mem_cons_self, e', hpath, (Except.error.inj h).symm⟩
    | ok isFile =>
      rw [hpath] at h
      cases hrest : filesAmong host rest with
      | ok files =>
        rw [hrest] at h
        cases h
      | error e'' =>
        rw [hrest] at h
        obtain ⟨path', hmem, e', he', he⟩ := ih (hrest.trans h)
        exact ⟨path', List.mem_cons_of_mem path hmem, e', he', he⟩

/-! ### Loading without overrides -/

/-- No `BCS_CFG_*` variable and no `--set` item is given. -/
def ConfigLoader.NoOverride (loader : ConfigLoader) : Prop :=
  (∀ v ∈ loader.env, startsWith v.1 envPrefix = false) ∧ loader.setOverrides = []

theorem ConfigLoader.override_of_no_override (rt : ConfigRuntime) {loader : ConfigLoader}
    (h : loader.NoOverride) (document : Document) :
    loader.override rt document = .ok document := by
  simp [ConfigLoader.override, bind_apply, applyEnvOverrides_of_no_override rt.text h.1, h.2]

/-- Without overrides, a document is loaded as the file has it. -/
theorem ConfigLoader.loadRaw_of_no_override (rt : ConfigRuntime) (host : Host)
    {loader : ConfigLoader} (h : loader.NoOverride) (source : PurePath) :
    loader.loadRaw rt host (some source) =
      (readDocumentText rt host source >>= parseDocument rt source) := by
  change (readDocumentText rt host source >>= fun text =>
    parseDocument rt source text >>= loader.override rt) = _
  cases readDocumentText rt host source with
  | error e => rfl
  | ok text =>
    change (parseDocument rt source text >>= loader.override rt) = parseDocument rt source text
    cases parseDocument rt source text with
    | error e => rfl
    | ok document => exact loader.override_of_no_override rt h document

end ClassroomSuite.Config
